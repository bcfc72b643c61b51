import MadeToOrder.Condition.Evaluation
import MadeToOrder.Rule.Outcome
import MadeToOrder.Selection

/-!
# The context of a selection

Rules see a selection under context keys: each id as a number where it is one,
and beside it the codes of the chosen options. Fields that the table does not
know are passed on as they are.
-/

set_option autoImplicit false

namespace MadeToOrder.Rule

/-- The text is digits, perhaps behind minus signs, once it is trimmed. -/
def looksNumeric (s : String) : Bool :=
  Text.allDigits (String.ofList ((Text.trimmed s.toList).dropWhile (fun c => c = '-')))

def numeric : Value → Except Fault Value
  | .text s => if looksNumeric s then (integerOf s).map Value.int else .ok (.text s)
  | v => .ok v

def contextEntries (snapshot : Snapshot) (spec : FieldSpec) (v : Value) :
    Except Fault (List (String × Value)) :=
  let codeKey := spec.contextKey ++ Overrides.codeEnding
  match v with
  | .list items => do
    let ids ← items.mapM numeric
    let codes := items.filterMap (fun item =>
      (snapshot.option? spec.collection item.plain).map CatalogOption.code)
    return [(spec.contextKey, .list ids), (codeKey, .list codes)]
  | v => do
    let id ← numeric v
    match snapshot.option? spec.collection v.plain with
    | some o => return [(spec.contextKey, id), (codeKey, o.code)]
    | none => return [(spec.contextKey, id)]

def contextFrom (snapshot : Snapshot) (context : Context) : Selection → Except Fault Context
  | [] => .ok context
  | (field, v) :: rest =>
    if v.isUnset then contextFrom snapshot context rest
    else match snapshot.table.byField? field with
      | none => contextFrom snapshot (Keyed.put context field v) rest
      | some spec => do
        let entries ← contextEntries snapshot spec v
        contextFrom snapshot (Keyed.putAll context entries) rest

def contextOf (snapshot : Snapshot) (selection : Selection) : Except Fault Context :=
  contextFrom snapshot [] selection

def outcomeFor (snapshot : Snapshot) (selection : Selection) : Except Fault Outcome := do
  let context ← contextOf snapshot selection
  evaluate [] snapshot.rules context (some snapshot.table)

end MadeToOrder.Rule
