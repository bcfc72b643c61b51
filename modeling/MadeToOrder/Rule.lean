import MadeToOrder.Value.Access

/-!
# Rules

A rule record as the catalog delivers it. Every part but the id may be of any
shape; what it is good for shows when the rule is compiled. A record is read by
the keys of catalog rows, or given as the fields of a rule themselves.
-/

set_option autoImplicit false

namespace MadeToOrder

structure Rule where
  id : Value
  name : Value
  priority : Value
  active : Value
  condition : Value
  actions : Value
  constraintKind : Value
  constraintField : Value
  constraintValue : Value
  deriving Repr

namespace Rule

open Value (entry entryOr)

/-- The action map has two spellings; the first one that is not null counts. -/
def actionMap (fields : List (String × Value)) : Value :=
  match entry fields "than_that" with
  | .null => entry fields "then_that"
  | v => v

def ofFields (fields : List (String × Value)) : Rule where
  id := entry fields "id"
  name := (entry fields "name").orElse (.text "")
  priority := (entry fields "priority").orElse (.int 0)
  active := entryOr fields "active" (.bool true)
  condition := entry fields "if_this"
  actions := actionMap fields
  constraintKind := entry fields "then_action"
  constraintField := entry fields "then_field"
  constraintValue := entry fields "then_value"

def ofRecord (record : Value) : Except Fault Rule := record.fields.map ofFields

def partNames : List String :=
  ["id", "name", "priority", "active", "if_this", "than_that", "then_action", "then_field",
    "then_value"]

def ofParts : Value → Except Fault Rule
  | .object fields =>
    if !Keyed.has fields "id" || fields.any (fun f => !partNames.contains f.1) then
      .error .badArguments
    else .ok {
      id := entry fields "id"
      name := entryOr fields "name" (.text "")
      priority := entryOr fields "priority" (.int 0)
      active := entryOr fields "active" (.bool true)
      condition := entry fields "if_this"
      actions := entry fields "than_that"
      constraintKind := entry fields "then_action"
      constraintField := entry fields "then_field"
      constraintValue := entry fields "then_value" }
  | _ => .error .badArguments

end Rule

end MadeToOrder
