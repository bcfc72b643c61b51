import MadeToOrder.Fault
import MadeToOrder.Value

/-!
# Access to records

Records may be of any shape. Each kind of access fails with its own fault on a
value that is no object, so the first access to a record decides what is
reported of it.
-/

set_option autoImplicit false

namespace MadeToOrder.Value

def fields : Value → Except Fault (List (String × Value))
  | .object fs => .ok fs
  | v => .error (.noAttribute v.kind "get")

def spread : Value → Except Fault (List (String × Value))
  | .object fs => .ok fs
  | v => .error (.notMapping v.kind)

def field (key : String) : Value → Except Fault Value
  | .object fs =>
    match Keyed.get? fs key with
    | some v => .ok v
    | none => .error (.missingKey key)
  | .text _ => .error (.nameIndex .text)
  | .list _ => .error (.nameIndex .list)
  | v => .error (.notIndexable v.kind)

def iterate : Value → Except Fault (List Value)
  | .list items => .ok items
  | .text s => .ok (s.toList.map (fun c => .text (String.singleton c)))
  | .object fs => .ok (fs.map (fun f => .text f.1))
  | v => .error (.notIterable v.kind)

def entry (fs : List (String × Value)) (key : String) : Value := (Keyed.get? fs key).getD .null

def entryOr (fs : List (String × Value)) (key : String) (other : Value) : Value :=
  (Keyed.get? fs key).getD other

def referred : Value → Value
  | .object fs => entry fs "id"
  | v => v

def integer : Value → Except Fault Int
  | .int i => .ok i
  | .bool b => .ok (if b then 1 else 0)
  | .float .nan => .error .integerOfNaN
  | .float d =>
    match d.truncate? with
    | some i => .ok i
    | none => .error .infiniteInteger
  | .text s => integerOf s
  | v => .error (.notNumber v.kind)

theorem fields_eq_ok {v : Value} {fs : List (String × Value)} :
    v.fields = .ok fs ↔ v = .object fs := by
  cases v <;> simp [fields]

theorem spread_eq_ok {v : Value} {fs : List (String × Value)} :
    v.spread = .ok fs ↔ v = .object fs := by
  cases v <;> simp [spread]

theorem field_eq_ok {key : String} {v w : Value} :
    v.field key = .ok w ↔ ∃ fs, v = .object fs ∧ Keyed.get? fs key = some w := by
  cases v with
  | object fs => cases found : Keyed.get? fs key <;> simp [field, found]
  | _ => simp [field]

end MadeToOrder.Value
