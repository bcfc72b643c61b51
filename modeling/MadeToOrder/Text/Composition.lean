/-!
# Letters with marks

A letter and the mark behind it may have a form of their own, which is then the
only way to write them. A text is composed when no letter and mark that have
such a form stand side by side.
-/

set_option autoImplicit false

namespace MadeToOrder.Text

def composites : List (Char × String) := [
  ('\u0300', "aeinouwyâêôüăēōơưαεηιουωϊϋеиἀἁἐἑἠἡἰἱὀὁὐὑὠὡ"),
  ('\u0301', "acegiklmnoprsuwyzâåæçêïôõøüăēōũơưαεηιουωϊϋгкἀἁἐἑἠἡἰἱὀὁὐὑὠὡ"),
  ('\u0302', "aceghijosuwyzạẹọ"), ('\u0303', "aeinouvyâêôăơư"),
  ('\u0304', "aegiouyäæõöüǫȧȯαιυиуḷṛ"), ('\u0306', "aegiouȩαιυаежиуạ"),
  ('\u0307', "abcdefghmnoprstwxyzśšṣ"), ('\u0308', "aehiotuwxyõūιυаежзиоучыэіәө"),
  ('\u0309', "aeiouyâêôăơư"), ('\u030a', "auwy"), ('\u030b', "ouу"),
  ('\u030c', "acdeghijklnorstuzüʒ"), ('\u030f', "aeioruѵ"), ('\u0311', "aeioru"),
  ('\u0313', "αεηιορυω"), ('\u0314', "αεηιορυω"), ('\u031b', "ou"),
  ('\u0323', "abdehiklmnorstuvwyzơư"), ('\u0324', "u"), ('\u0325', "a"), ('\u0326', "st"),
  ('\u0327', "cdeghklnrst"), ('\u0328', "aeiou"), ('\u032d', "delntu"), ('\u032e', "h"),
  ('\u0330', "eiu"), ('\u0331', "bdhklnrtz"), ('\u0342', "αηιυωϊϋἀἁἠἡἰἱὐὑὠὡ"), ('\u0653', "ا"),
  ('\u0654', "اويہےە"), ('\u0655', "ا"), ('\u093c', "नरळ"), ('\u09be', "\u09c7"),
  ('\u09d7', "\u09c7"), ('\u0b3e', "\u0b47"), ('\u0b56', "\u0b47"), ('\u0b57', "\u0b47"),
  ('\u0bbe', "\u0bc6\u0bc7"), ('\u0bd7', "ஒ\u0bc6"), ('\u0c56', "\u0c46"), ('\u0cc2', "\u0cc6"),
  ('\u0cd5', "\u0cbf\u0cc6\u0cca"), ('\u0cd6', "\u0cc6"), ('\u0d3e', "\u0d46\u0d47"),
  ('\u0d57', "\u0d46"), ('\u0dca', "\u0dd9\u0ddc"), ('\u0dcf', "\u0dd9"), ('\u0ddf', "\u0dd9"),
  ('\u102e', "ဥ"), ('\u1b35', "ᬅᬇᬉᬋᬍᬑ\u1b3a\u1b3c\u1b3e\u1b3f\u1b42"),
  ('\u3099', "うかきくけこさしすせそたちつてとはひふへほゝウカキクケコサシスセソタチツテトハヒフヘホワヰヱヲヽ"), ('\u309a', "はひふへほハヒフヘホ")]

def composes (letter mark : Char) : Bool :=
  composites.any (fun row => row.1 == mark && row.2.toList.contains letter)

def isComposed : List Char → Bool
  | letter :: mark :: rest => !composes letter mark && isComposed (mark :: rest)
  | _ => true

end MadeToOrder.Text
