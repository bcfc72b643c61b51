import MadeToOrder.Catalog.Snapshot

/-!
# Selections

The values chosen for fields. A normal selection holds an option id as text for
each field, or a list of ids where a field takes several; fields without a
choice are absent. A choice may also be given as a tuple or as a set, which
become lists even where they are empty. An empty list is no choice.
-/

set_option autoImplicit false

namespace MadeToOrder

abbrev Selection := Keyed Value

namespace Selection

def at? (s : Selection) (field : String) : Value := (Keyed.get? s field).getD .null

theorem at?_put_self (s : Selection) (field : String) (v : Value) :
    at? (Keyed.put s field v) field = v := by
  simp [at?, Keyed.get?_put_self]

theorem at?_put_of_ne (s : Selection) {field other : String} (v : Value) (h : other ≠ field) :
    at? (Keyed.put s field v) other = at? s other := by
  simp [at?, Keyed.get?_put_of_ne _ _ h]

def normalValue (several : Bool) : Value → Value
  | .list items => .list (items.map (fun v => .text v.plain))
  | v => if several then .list [.text v.plain] else .text v.plain

/-- A choice as it is given. A set gives its items in some order. -/
inductive Given where
  | value (v : Value)
  | tuple (items : List Value)
  | set (items : List Value)

namespace Given

def isUnset : Given → Bool
  | .value v => v.isUnset
  | .tuple _ | .set _ => false

def normal (several : Bool) : Given → Value
  | .value v => normalValue several v
  | .tuple items | .set items => normalValue several (.list items)

end Given

def takesSeveral (table : FieldTable) (field : String) : Bool :=
  ((table.byField? field).map FieldSpec.multiSelect).getD false

/-- Ids become texts, unset fields go, and a single id becomes a list where a
field takes several. -/
def normalizeGiven (table : FieldTable) : Keyed Given → Selection
  | [] => []
  | (field, g) :: rest =>
    if g.isUnset then normalizeGiven table rest
    else (field, g.normal (takesSeveral table field)) :: normalizeGiven table rest

def given (s : Selection) : Keyed Given := Keyed.mapValues Given.value s

def normalize (table : FieldTable) (s : Selection) : Selection := normalizeGiven table s.given

end Selection

end MadeToOrder
