import MadeToOrder.Condition.Reading

/-!
# Action maps

An action map assigns values to keys. Nested maps join their keys with
underscores, a wrapper holds the value under its only key `_eq`, and logical
lists are walked in order. Flattening gives the assignments in document order.
-/

set_option autoImplicit false

namespace MadeToOrder.Rule

open Condition (isReserved)

abbrev Assignment := String × Value

def isLogical (key : String) : Bool := key == "_and" || key == "_or"

mutual

def flattenEntries (path : String) : List (String × Value) → Except Defect (List Assignment)
  | [] => .ok []
  | (key, v) :: rest => do
    let first ← flattenEntry path key v
    let others ← flattenEntries path rest
    return first ++ others
termination_by structural entries => entries

def flattenEntry (path key : String) : Value → Except Defect (List Assignment)
  | .list items =>
    if isLogical key then flattenItems path items
    else if isReserved key then .error (.actionOperator key)
    else .ok [(path ++ key, .list items)]
  | .object fields =>
    if isLogical key then .error (.actionList key)
    else if isReserved key then .error (.actionOperator key)
    else match Keyed.get? fields "_eq" with
      | some v => if fields.length > 1 then .error (.mixedAction key) else .ok [(path ++ key, v)]
      | none => flattenEntries (path ++ key ++ "_") fields
  | v =>
    if isLogical key then .error (.actionList key)
    else if isReserved key then .error (.actionOperator key)
    else .ok [(path ++ key, v)]
termination_by structural v => v

def flattenItems (path : String) : List Value → Except Defect (List Assignment)
  | [] => .ok []
  | v :: rest => do
    let first ← flattenMap path v
    let others ← flattenItems path rest
    return first ++ others
termination_by structural items => items

def flattenMap (path : String) : Value → Except Defect (List Assignment)
  | .null => .ok []
  | .object fields => flattenEntries path fields
  | v => .error (.actionShape v.kind)
termination_by structural v => v

end

def assignments (actions : Value) : Except Defect (List Assignment) := flattenMap "" actions

end MadeToOrder.Rule
