import MadeToOrder.Value.Rendering

/-!
# Diagnostics

Problems that were found and did not stop the work: a rule that could not be
used, an override row without a product or an option, a required field that
leaves a gap in a code. They travel on the results.
-/

set_option autoImplicit false

namespace MadeToOrder

inductive DiagnosticKind where
  | ruleSkipped
  | overrideInconsistent
  | segmentMissing
  deriving DecidableEq, Repr

def DiagnosticKind.name : DiagnosticKind → String
  | .ruleSkipped => "RuleEvaluationSkipped"
  | .overrideInconsistent => "OverrideInconsistent"
  | .segmentMissing => "SkuSegmentMissing"

/-- The subject is the id, product or collection that the problem is about. -/
structure Diagnostic where
  kind : DiagnosticKind
  message : String
  subject : Value
  deriving Repr

end MadeToOrder
