import MadeToOrder.Number.Numeral
import MadeToOrder.Text.Search

/-!
# Numerals in settings

Numbers that settings and requests hold as text. Only the digits of ASCII
count. Around an integer there may be white space, a plus sign, zeros in front
and a fraction of one zero or more; a decimal stands as it is or with
underscores in it, and only one without underscores may have white space around
it.
-/

set_option autoImplicit false

namespace MadeToOrder.SettingNumeral

open MadeToOrder.Text

def isDigit (c : Char) : Bool := '0' ≤ c && c ≤ '9'

def withoutUnderscores? (cs : List Char) : Option (List Char) :=
  if cs.head? = some '_' || cs.getLast? = some '_' || occurs ['_', '_'] cs || !cs.contains '_' then
    none
  else some (cs.filter (fun c => c != '_'))

def behindZeros? (last : Char) : List Char → Option (List Char)
  | [] => some [last]
  | c :: rest =>
    if c = '0' || c = '_' then behindZeros? c rest
    else if isDigit c || c = '-' then some (c :: rest)
    else if c = '.' then some (last :: c :: rest)
    else none

def withoutZeros? : List Char → Option (List Char)
  | '0' :: rest => behindZeros? '0' rest
  | c :: rest => if isDigit c || c = '-' then some (c :: rest) else none
  | [] => none

/-- The text before a point that one zero or more, and nothing else, follow. A
point that ends the text stays. -/
def withoutFraction (cs : List Char) : List Char :=
  match cs.span (fun c => c != '.') with
  | (whole, _ :: fraction) =>
    if !fraction.isEmpty && fraction.all (fun c => c == '0') then whole else cs
  | (_, []) => cs

def withoutPlus : List Char → List Char
  | '+' :: rest => rest
  | cs => cs

/-- The digits of an integer as strict notation has it: no zeros in front and,
with the sign, not longer than the longest numeral. -/
def strict? (cs : List Char) : Option Int :=
  let (negative, digits) := match cs with
    | '-' :: rest => (true, rest)
    | rest => (false, rest)
  if digits.isEmpty || !digits.all isDigit || Numeral.longest < cs.length then none
  else if digits.head? = some '0' && 1 < digits.length then none
  else
    let n : Int := Numeral.natural (digits.map (fun c => c.toNat - '0'.toNat))
    some (if negative then -n else n)

def integer? (s : String) : Option Int := do
  let cs ← withoutZeros? (withoutPlus (trimBy isPadding s.toList))
  let cs := withoutFraction cs
  strict? ((withoutUnderscores? cs).getD cs)

def plain? (cs : List Char) : Option Double :=
  let (negative, ms) := Numeral.splitSign (cs.map (fun c =>
    if isDigit c then .digit (c.toNat - '0'.toNat) else .other c))
  match Numeral.word ms with
  | "inf" | "infinity" => some (.infinite negative)
  | "nan" => some .nan
  | _ => Numeral.plainDecimal? negative ms

def decimal? (s : String) : Option Double :=
  (plain? (trimBy isPadding s.toList)).orElse
    (fun _ => (withoutUnderscores? s.toList).bind plain?)

end MadeToOrder.SettingNumeral
