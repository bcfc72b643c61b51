import MadeToOrder.Value.Rendering

/-!
# Defects of rules

The reasons for which a rule cannot be used, and their wording. A defect never
stops other rules: whoever compiles a list of rules reports it and goes on.
-/

set_option autoImplicit false

namespace MadeToOrder.Rule

inductive Defect where
  | conditionShape (kind : Kind)
  | conditionList (key : String)
  | conditionEntry (key : String)
  | conditionOperator (key : String)
  | emptyTest (path : String)
  | mixedTest (path : String)
  | testOperator (key path : String)
  | actionShape (kind : Kind)
  | actionList (key : String)
  | actionOperator (key : String)
  | mixedAction (key : String)
  | priority (raw : Value)
  | noCondition
  | unknownAction (action : Value)
  | actionWithoutField (action : Value)
  deriving Repr

namespace Defect

def message : Defect → String
  | .conditionShape kind => s!"Condition must be an object, got {kind.name}"
  | .conditionList key => s!"'{key}' expects a list of conditions"
  | .conditionEntry key => s!"'{key}' entries must be objects"
  | .conditionOperator key => s!"Unknown operator '{key}'"
  | .emptyTest path => s!"Empty condition for field '{path}'"
  | .mixedTest path => s!"Field '{path}' mixes operators and nested fields"
  | .testOperator key path => s!"Unknown operator '{key}' on field '{path}'"
  | .actionShape kind => s!"Action map must be an object, got {kind.name}"
  | .actionList key => s!"'{key}' in action map expects a list"
  | .actionOperator key => s!"Unknown operator '{key}' in action map"
  | .mixedAction key => s!"Action for '{key}' mixes '_eq' with other keys"
  | .priority raw => s!"Invalid priority {raw.literal}"
  | .noCondition => "Rule has no if_this condition"
  | .unknownAction action => s!"Unknown action '{action.plain}'"
  | .actionWithoutField action => s!"Action '{action.plain}' has no then_field"

end Defect

end MadeToOrder.Rule
