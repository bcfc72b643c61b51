import MadeToOrder.Rule.Outcome
import MadeToOrder.Selection
import MadeToOrder.Sku.FieldOrder

/-!
# Building a code

A code has one segment for each enabled field with a code, in order. A product
code from the rules replaces the whole; a line code or a segment code from the
rules replaces the codes of the chosen options. A required field without a code
leaves an empty segment and a warning, an optional one leaves nothing.
-/

set_option autoImplicit false

namespace MadeToOrder.Sku

structure Separators where
  delimiter : String
  multi : String
  deriving DecidableEq, Repr

def Separators.standard : Separators := ⟨"-", "+"⟩

inductive Origin where
  | option
  | override
  | default
  deriving DecidableEq, Repr

def Origin.name : Origin → String
  | .option => "option"
  | .override => "override"
  | .default => "default"

structure Segment where
  collection : String
  order : Value
  code : String
  origin : Origin
  deriving Repr

structure Built where
  sku : String
  segments : List Segment
  warnings : List Diagnostic
  isOverride : Bool
  deriving Repr

def texts : List Value → Except Fault (List String)
  | [] => .ok []
  | .text s :: rest => (texts rest).map (s :: ·)
  | v :: _ => .error (.notText v.kind)

def chosenCodes (snapshot : Snapshot) (collection : String) (v : Value) : List Value :=
  (v.elements.filterMap (fun item =>
    (snapshot.option? collection item.plain).map CatalogOption.code)).filter Value.truthy

def chosenCode (snapshot : Snapshot) (collection multi : String) (v : Value) :
    Except Fault (Option String) :=
  if v.isUnset then .ok none
  else
    let codes := chosenCodes snapshot collection v
    if codes.isEmpty then .ok none
    else (texts codes).map (fun parts => some (Text.join multi parts))

def fieldCode (snapshot : Snapshot) (selection : Selection) (overrides : Rule.Overrides)
    (multi : String) (spec : FieldSpec) : Except Fault (Option String × Origin) :=
  let lineCode := overrides.line.getD ""
  if spec.isLine && !lineCode.isEmpty then .ok (some lineCode, .override)
  else match Keyed.get? overrides.segments spec.collection with
    | some code => .ok (some code, .override)
    | none =>
      (chosenCode snapshot spec.collection multi (Selection.at? selection spec.field)).map
        (fun code => (code, .option))

def missingWarning (spec : FieldSpec) : Diagnostic :=
  ⟨.segmentMissing, s!"Required field '{spec.field}' has no selection", .text spec.collection⟩

def segmentOf (spec : FieldSpec) (order : Value) :
    Option String × Origin → List Segment × List Diagnostic
  | (some code, origin) => ([⟨spec.collection, order, code, origin⟩], [])
  | (none, _) =>
    if spec.required then
      ([⟨spec.collection, order, "", .default⟩], [missingWarning spec])
    else ([], [])

def buildSegments (snapshot : Snapshot) (selection : Selection) (overrides : Rule.Overrides)
    (multi : String) : List CodeField → Except Fault (List Segment × List Diagnostic)
  | [] => .ok ([], [])
  | entry :: rest => do
    let spec ← snapshot.table.rowOf entry.collection "SKU field order"
    let code ← fieldCode snapshot selection overrides multi spec
    let (segments, warnings) ← buildSegments snapshot selection overrides multi rest
    let (first, warning) := segmentOf spec entry.order code
    return (first ++ segments, warning ++ warnings)

def build (selection : Selection) (overrides : Rule.Overrides) (fields : List CodeField)
    (snapshot : Snapshot) (separators : Separators) : Except Fault Built := do
  let ordered ← enabledOrder fields
  let whole := overrides.product.getD ""
  if !whole.isEmpty then return ⟨whole, [], [], true⟩
  else
    let (segments, warnings) ←
      buildSegments snapshot selection overrides separators.multi ordered
    return ⟨Text.join separators.delimiter (segments.map Segment.code), segments, warnings, false⟩

end MadeToOrder.Sku
