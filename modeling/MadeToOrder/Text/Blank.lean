import MadeToOrder.Text.Ranges

/-!
# White space

The characters that are trimmed from both ends of a text: the white space of
Unicode together with the four separators U+001C to U+001F. Numerals accept
the same padding without those four.
-/

set_option autoImplicit false

namespace MadeToOrder.Text

def blanks : Ranges := [
  (0x9, 0xd), (0x1c, 0x20), (0x85, 0x85), (0xa0, 0xa0), (0x1680, 0x1680), (0x2000, 0x200a),
  (0x2028, 0x2029), (0x202f, 0x202f), (0x205f, 0x205f), (0x3000, 0x3000)]

def isBlank (c : Char) : Bool := blanks.has c

/-- Padding that may surround a numeral. -/
def isPadding (c : Char) : Bool := isBlank c && !(0x1c ≤ c.toNat && c.toNat ≤ 0x1f)

def trimBy (drop : Char → Bool) (cs : List Char) : List Char :=
  ((cs.dropWhile drop).reverse.dropWhile drop).reverse

def trimmed (cs : List Char) : List Char := trimBy isBlank cs

def trim (s : String) : String := String.ofList (trimmed s.toList)

end MadeToOrder.Text
