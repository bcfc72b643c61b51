import MadeToOrder.Selection

/-!
# Events

What happened to a configuration, in order: what was asked for, how the
selection was adjusted, and what was computed in the end.
-/

set_option autoImplicit false

namespace MadeToOrder

inductive Event where
  | changed (changes : Selection)
  | cleared
  | loaded (sku : Value) (confidence : String)
  | refreshed (asOf : String) (stale : Bool) (error : Option String)
  | adjusted (field : String) (before after : Value)
  | optionsComputed (available : Keyed Nat)
  | rulesEvaluated (matched : List Value)
  | skuBuilt (sku : String)
  deriving Repr

def Event.name : Event → String
  | .changed _ => "selection_changed"
  | .cleared => "selection_changed"
  | .loaded _ _ => "selection_changed"
  | .refreshed _ _ _ => "catalog_refreshed"
  | .adjusted _ _ _ => "selection_adjusted"
  | .optionsComputed _ => "options_recomputed"
  | .rulesEvaluated _ => "rules_evaluated"
  | .skuBuilt _ => "sku_built"

def Event.isAdjustment : Event → Bool
  | .adjusted _ _ _ => true
  | _ => false

end MadeToOrder
