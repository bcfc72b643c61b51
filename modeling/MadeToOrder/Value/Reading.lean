import MadeToOrder.Fault
import MadeToOrder.Number.Setting
import MadeToOrder.Value.Access

/-!
# Lenient readings

Settings and requests accept a value of another shape where it can only mean
one thing: a whole double or a numeral for an integer, a zero or a one or a
word for a truth value. Texts are never made from other values.
-/

set_option autoImplicit false

namespace MadeToOrder.Value

def asText? : Value → Option String
  | .text s => some s
  | _ => none

def bit? : Int → Option Bool
  | 0 => some false
  | 1 => some true
  | _ => none

def truthWords : List String := ["1", "t", "y", "on", "yes", "true"]

def falsehoodWords : List String := ["0", "f", "n", "no", "off", "false"]

def asciiLower (s : String) : String := String.ofList (s.toList.map Char.toLower)

def asBool? : Value → Option Bool
  | .bool b => some b
  | .int i => bit? i
  | .float d => if d.isWhole then d.truncate?.bind bit? else none
  | .text s =>
    let word := asciiLower s
    if word ∈ truthWords then some true
    else if word ∈ falsehoodWords then some false
    else none
  | _ => none

/-- The integer that a whole double is, if it is less than 2^63 in size. -/
def wholeDouble? (d : Double) : Option Int :=
  if d.isWhole then d.truncate?.filter (fun i => decide (i.natAbs < Nat.pow 2 63)) else none

def asInt? : Value → Option Int
  | .int i => some i
  | .bool b => some (if b then 1 else 0)
  | .float d => wholeDouble? d
  | .text s => SettingNumeral.integer? s
  | _ => none

def asDouble? : Value → Option Double
  | .float d => some d
  | .int i => Double.ofInt? i
  | .bool b => Double.ofInt? (if b then 1 else 0)
  | .text s => SettingNumeral.decimal? s
  | _ => none

def fieldAs {α : Type} (read : Value → Option α) (standard : α) (fs : List (String × Value))
    (key : String) : Except Fault α :=
  match Keyed.get? fs key with
  | none => .ok standard
  | some v =>
    match read v with
    | some a => .ok a
    | none => .error .invalidSettings

def requiredAs {α : Type} (read : Value → Option α) (fs : List (String × Value))
    (key : String) : Except Fault α :=
  match (Keyed.get? fs key).bind read with
  | some a => .ok a
  | none => .error .invalidSettings

def optionally {α : Type} (read : Value → Option α) : Value → Option (Option α)
  | .null => some none
  | v => (read v).map some

def limited {α : Type} (read : Value → Option α) (holds : α → Bool) (v : Value) : Option α :=
  (read v).filter holds

end MadeToOrder.Value
