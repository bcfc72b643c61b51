import MadeToOrder.Json.Reader
import MadeToOrder.Text.Utf8

/-!
# Documents as bytes

A document is sent as bytes that do not say how its characters are encoded. It
starts with a character of ASCII, so the zero bytes among the first four tell
the width of a unit and the order of its bytes.
-/

set_option autoImplicit false

namespace MadeToOrder.Json

structure Encoding where
  width : Nat
  highestFirst : Bool
  deriving DecidableEq, Repr

/-- The encoding of bytes by the zeros among the first ones. -/
def Encoding.ofBytes : List UInt8 → Encoding
  | a :: b :: c :: d :: _ =>
    if a = 0 then ⟨if b = 0 then 4 else 2, true⟩
    else if b = 0 then ⟨if c = 0 && d = 0 then 4 else 2, false⟩
    else ⟨1, true⟩
  | [a, b] => if a = 0 then ⟨2, true⟩ else if b = 0 then ⟨2, false⟩ else ⟨1, true⟩
  | _ => ⟨1, true⟩

def Encoding.units? (e : Encoding) : Nat → List UInt8 → Option (List Nat)
  | 0, _ => none
  | _, [] => some []
  | fuel + 1, bs =>
    let unit := if e.highestFirst then bs.take e.width else (bs.take e.width).reverse
    if unit.length < e.width then none
    else (e.units? fuel (bs.drop e.width)).map (fun units =>
      unit.foldl (fun n b => n * 0x100 + b.toNat) 0 :: units)

def charOf (unit : Nat) : Char :=
  if 0xd800 ≤ unit ∧ unit < 0xe000 then Text.replacement else Char.ofNat unit

def paired : List Nat → List Char
  | high :: low :: rest =>
    if 0xd800 ≤ high ∧ high < 0xdc00 ∧ 0xdc00 ≤ low ∧ low < 0xe000 then
      Char.ofNat (0x10000 + (high - 0xd800) * 0x400 + (low - 0xdc00)) :: paired rest
    else charOf high :: paired (low :: rest)
  | [unit] => [charOf unit]
  | [] => []

def startMark : Char := '\ufeff'

def charsOf? (bs : List UInt8) : Option (List Char) :=
  let e := Encoding.ofBytes bs
  match e.width with
  | 1 =>
    match Text.ofUtf8 bs with
    | c :: rest => some (if c = startMark then rest else c :: rest)
    | [] => some []
  | 2 => (e.units? (bs.length + 1) bs).map paired
  | _ => ((e.units? (bs.length + 1) bs).filter (fun units => units.all (· < 0x110000))).map
    (fun units => units.map charOf)

def readBytes (bs : List UInt8) : Except Refusal Value :=
  match charsOf? bs with
  | some cs => read cs
  | none => .error .malformed

end MadeToOrder.Json
