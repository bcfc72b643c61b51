import MadeToOrder.Condition
import MadeToOrder.Rule.Defect
import MadeToOrder.Text.Search

/-!
# Reading conditions

A condition is written as an object. Logical keys hold lists of such objects, a
field holds a literal, an object of operators, or nested fields whose names are
joined by points. Keys are read in order and the first defect is reported.
-/

set_option autoImplicit false

namespace MadeToOrder.Condition

def isReserved (key : String) : Bool := Text.startsWith key "_"

def operatorLiteral (op : Operator) (literal : Value) : Value :=
  if op.takesList then .list literal.elements else literal

def readOperators (path : String) : List (String × Value) → Except Rule.Defect (List Condition)
  | [] => .ok []
  | (key, literal) :: rest =>
    match Operator.ofKey? key with
    | none => .error (.testOperator key path)
    | some op =>
      (readOperators path rest).map (fun tests =>
        .test op path (operatorLiteral op literal) :: tests)

mutual

def readEntries (path : String) : List (String × Value) → Except Rule.Defect (List Condition)
  | [] => .ok []
  | (key, v) :: rest => do
    let part ← readEntry path key v
    let parts ← readEntries path rest
    return part :: parts
termination_by structural entries => entries

def readEntry (path key : String) : Value → Except Rule.Defect Condition
  | .list items =>
    if key = "_and" then (readItems path key items).map Condition.all
    else if key = "_or" then (readItems path key items).map Condition.any
    else if isReserved key then .error (.conditionOperator key)
    else .ok (.test .oneOf (path ++ key) (.list items))
  | .object fields =>
    if key = "_and" || key = "_or" then .error (.conditionList key)
    else if isReserved key then .error (.conditionOperator key)
    else if fields.isEmpty then .error (.emptyTest (path ++ key))
    else if fields.all (fun f => isReserved f.1) then
      (readOperators (path ++ key) fields).map conjunction
    else if fields.any (fun f => isReserved f.1) then .error (.mixedTest (path ++ key))
    else (readEntries (path ++ key ++ ".") fields).map conjunction
  | v =>
    if key = "_and" || key = "_or" then .error (.conditionList key)
    else if isReserved key then .error (.conditionOperator key)
    else .ok (.test .equal (path ++ key) v)
termination_by structural v => v

def readItems (path key : String) : List Value → Except Rule.Defect (List Condition)
  | [] => .ok []
  | v :: rest => do
    let part ← readItem path key v
    let parts ← readItems path key rest
    return part :: parts
termination_by structural items => items

def readItem (path key : String) : Value → Except Rule.Defect Condition
  | .object fields => (readEntries path fields).map conjunction
  | _ => .error (.conditionEntry key)
termination_by structural v => v

end

def ofValue : Value → Except Rule.Defect Condition
  | .object fields => (readEntries "" fields).map conjunction
  | v => .error (.conditionShape v.kind)

end MadeToOrder.Condition
