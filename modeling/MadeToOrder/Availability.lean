import MadeToOrder.IdSet
import MadeToOrder.Rule.Outcome
import MadeToOrder.Selection

/-!
# Availability

For every collection of a product line: the options there are, those that can
be chosen, and those that are shown but cannot. Line defaults come first; then
collections that products discriminate are narrowed to what matching products
carry; then override rows of the candidates replace whole collections, once the
trigger says so. Rule constraints come last and only take options away.
-/

set_option autoImplicit false

namespace MadeToOrder

inductive Step where
  | lineDefaults
  | productMatching
  | productOverrides
  | ruleConstraints
  deriving DecidableEq, Repr

def Step.name : Step → String
  | .lineDefaults => "line_defaults"
  | .productMatching => "product_matching"
  | .productOverrides => "product_overrides"
  | .ruleConstraints => "rule_constraints"

structure Choices where
  all : IdSet
  available : IdSet
  disabled : IdSet
  history : List Step
  deriving Repr

namespace Choices

def ofIds (ids : List String) (history : List Step) : Choices :=
  ⟨IdSet.ofList ids, IdSet.ofList ids, [], history⟩

def keep (c : Choices) (kept : IdSet) (step : Step) : Choices where
  all := c.all
  available := kept
  disabled := IdSet.union c.disabled (IdSet.diff c.available kept)
  history := c.history ++ [step]

end Choices

/-- When override rows count: enough discriminating fields are selected, there
are candidates, and not too many of them. -/
structure Trigger where
  minSelected : Int
  maxCandidates : Option Int
  deriving DecidableEq, Repr

namespace Trigger

def standard : Trigger := ⟨1, none⟩

def applies (t : Trigger) (selected candidates : Int) : Bool :=
  if candidates = 0 || selected < t.minSelected then false
  else match t.maxCandidates with
    | some most => decide (candidates ≤ most)
    | none => true

end Trigger

structure Availability where
  choices : Keyed Choices
  candidates : List String
  diagnostics : List Diagnostic
  deriving Repr

namespace Availability

def discriminators (selection : Selection) : List FieldSpec → Keyed String
  | [] => []
  | spec :: rest =>
    let v := Selection.at? selection spec.field
    if v.isUnset || v.isList then discriminators selection rest
    else (spec.collection, v.plain) :: discriminators selection rest

def observed (products : List Product) (selected : Keyed String) (collection : String) : IdSet :=
  let others := Keyed.erase selected collection
  IdSet.ofList ((products.filter (fun p => p.carries others)).filterMap
    (fun p => Keyed.get? p.attributes collection))

def matchOne (products : List Product) (selected : Keyed String) (choices : Keyed Choices)
    (collection : String) : Keyed Choices :=
  match Keyed.get? choices collection with
  | none => choices
  | some c =>
    let seen := observed products selected collection
    if seen.isEmpty then choices
    else Keyed.put choices collection (c.keep (IdSet.inter c.available seen) .productMatching)

def matchProducts (products : List Product) (selected : Keyed String) (choices : Keyed Choices)
    (specs : List FieldSpec) : Keyed Choices :=
  specs.foldl (fun cs spec => matchOne products selected cs spec.collection) choices

def unknownItem (row : OverrideRow) : Diagnostic :=
  ⟨.overrideInconsistent,
    s!"Override for product {row.product} references unknown {row.collection} item {row.item}",
    .text row.collection⟩

def groupItems (snapshot : Snapshot) :
    Keyed IdSet → List OverrideRow → Keyed IdSet × List Diagnostic
  | groups, [] => (groups, [])
  | groups, row :: rest =>
    match snapshot.option? row.collection row.item with
    | none =>
      let (groups, reports) := groupItems snapshot groups rest
      (groups, unknownItem row :: reports)
    | some _ =>
      groupItems snapshot
        (Keyed.adjust groups row.collection (fun g => IdSet.add (g.getD []) row.item)) rest

def replaceOne (choices : Keyed Choices) (group : String × IdSet) : Keyed Choices :=
  Keyed.adjust choices group.1 (fun c =>
    Choices.ofIds group.2 ((c.map Choices.history).getD [] ++ [.productOverrides]))

def startingChoices (defaults : Keyed (List String)) : Keyed Choices :=
  Keyed.mapValues (fun ids => Choices.ofIds ids [.lineDefaults]) defaults

def compute (selection : Selection) (line : Value) (snapshot : Snapshot) (trigger : Trigger) :
    Except Fault Availability := do
  let defaults ← snapshot.lineDefaults line
  let products := snapshot.productsOf line
  let selected := discriminators selection snapshot.table.attributes
  let start := startingChoices defaults
  let matched :=
    if selected.isEmpty then start
    else matchProducts products selected start snapshot.table.attributes
  let candidates := products.filter (fun p => p.carries selected)
  let keys := candidates.map Product.key
  if !selected.isEmpty && trigger.applies selected.length candidates.length then
    let (groups, reports) := groupItems snapshot [] (snapshot.overridesFor keys)
    return ⟨groups.foldl replaceOne matched, keys, reports⟩
  else return ⟨matched, keys, []⟩

def permitted (c : Rule.Constraint) (available : IdSet) : IdSet :=
  IdSet.diff (if c.allow.isEmpty then available else IdSet.inter available c.allow) c.deny

def constrainOne (choices : Keyed Choices) (target : Value × Rule.Constraint) : Keyed Choices :=
  match target.1 with
  | .text collection =>
    match Keyed.get? choices collection with
    | some c =>
      Keyed.put choices collection (c.keep (permitted target.2 c.available) .ruleConstraints)
    | none => choices
  | _ => choices

def constrain (a : Availability) (constraints : Rule.Constraints) : Availability :=
  { a with choices := constraints.foldl constrainOne a.choices }

def availableIn (a : Availability) (collection : String) : IdSet :=
  ((Keyed.get? a.choices collection).map Choices.available).getD []

def disabledIn (a : Availability) (collection : String) : IdSet :=
  ((Keyed.get? a.choices collection).map Choices.disabled).getD []

def invalidIn (a : Availability) (selection : Selection) (spec : FieldSpec) : List String :=
  if spec.isLine then []
  else match Keyed.get? a.choices spec.collection with
    | none => []
    | some c =>
      let v := Selection.at? selection spec.field
      if v.isUnset then []
      else (v.elements.map Value.plain).filter (fun id => id ∉ c.available)

def invalid (a : Availability) (selection : Selection) (table : FieldTable) :
    Keyed (List String) :=
  (table.specs.map (fun spec => (spec.field, a.invalidIn selection spec))).filter
    (fun entry => !entry.2.isEmpty)

/-- The order of ids in answers: ids of digits by number, then the others as
text. An id that counts as digits must be a number. -/
def idRank (id : String) : Except Fault (Option Int) :=
  if Text.allDigits id then (integerOf id).map some else .ok none

def rankedBefore (a b : Option Int × String) : Bool :=
  match a.1, b.1 with
  | some x, some y => if x = y then decide (a.2 ≤ b.2) else decide (x < y)
  | some _, none => true
  | none, some _ => false
  | none, none => decide (a.2 ≤ b.2)

def sortedIds (ids : IdSet) : Except Fault (List String) := do
  let ranked ← ids.mapM (fun id => (idRank id).map (fun rank => (rank, id)))
  return (Sorting.sort rankedBefore ranked).map Prod.snd

end Availability

end MadeToOrder
