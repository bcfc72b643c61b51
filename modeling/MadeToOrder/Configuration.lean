import MadeToOrder.Availability
import MadeToOrder.Event
import MadeToOrder.Rule.Situation
import MadeToOrder.Sku.Build

/-!
# Configurations

From a selection to a configuration: options, rules and constraints are
computed, the first field with an unavailable choice is adjusted, and this is
repeated until every choice is available. Rules may undo each other's
adjustments, so after a budget of passes fields are cleared instead; clearing
shrinks the selection, and the work ends. The code is built from what is left.
-/

set_option autoImplicit false

namespace MadeToOrder

structure Settings where
  trigger : Trigger
  separators : Sku.Separators
  suggestionLimit : Int
  deriving Repr

def Settings.standard : Settings := ⟨Trigger.standard, Sku.Separators.standard, 20⟩

structure Pass where
  availability : Availability
  outcome : Rule.Outcome
  deriving Repr

structure Configured where
  availability : Availability
  outcome : Rule.Outcome
  sku : Sku.Built
  deriving Repr

structure State where
  selection : Selection
  line : Option Value
  configured : Option Configured
  asOf : String
  deriving Repr

namespace Configuration

def pass (snapshot : Snapshot) (trigger : Trigger) (line : Value) (selection : Selection) :
    Except Fault Pass := do
  let filtered ← Availability.compute selection line snapshot trigger
  let outcome ← Rule.outcomeFor snapshot selection
  return ⟨filtered.constrain outcome.constraints, outcome⟩

def firstAvailable (snapshot : Snapshot) (a : Availability) (collection : String) :
    Except Fault (Option String) := do
  let options ← snapshot.optionsFor collection
  return (options.map CatalogOption.key).find? (fun key => key ∈ a.availableIn collection)

def keptIds (bad : List String) (v : Value) : List Value :=
  v.elements.filter (fun item => item.plain ∉ bad)

def replacement (snapshot : Snapshot) (a : Availability) (spec : FieldSpec)
    (previous : Value) (bad : List String) : Except Fault Value :=
  if spec.multiSelect then
    let kept := keptIds bad previous
    .ok (if kept.isEmpty then .null else .list kept)
  else (firstAvailable snapshot a spec.collection).map
    (fun first => (first.map Value.text).getD .null)

def assign (selection : Selection) (field : String) (v : Value) : Selection :=
  if v.isNull then Keyed.erase selection field else Keyed.put selection field v

def firstInvalid? (snapshot : Snapshot) (p : Pass) (selection : Selection) :
    Option (FieldSpec × List String) :=
  snapshot.table.specs.findSome? (fun spec =>
    let bad := p.availability.invalidIn selection spec
    if bad.isEmpty then none else some (spec, bad))

theorem has_of_firstInvalid? {snapshot : Snapshot} {p : Pass} {selection : Selection}
    {spec : FieldSpec} {bad : List String}
    (h : firstInvalid? snapshot p selection = some (spec, bad)) :
    Keyed.has selection spec.field = true := by
  obtain ⟨other, _, found⟩ := List.exists_of_findSome?_eq_some h
  cases missing : Keyed.get? selection spec.field with
  | some v => simp [Keyed.has, missing]
  | none =>
    by_cases empty : (p.availability.invalidIn selection other).isEmpty = true
    · simp [empty] at found
    · simp only [empty, Bool.false_eq_true, if_false, Option.some.injEq, Prod.mk.injEq] at found
      obtain ⟨rfl, _⟩ := found
      exfalso
      apply empty
      unfold Availability.invalidIn
      split
      · rfl
      · split
        · rfl
        · simp [Selection.at?, missing, Value.isUnset]

structure Settled where
  selection : Selection
  pass : Pass
  adjustments : List Event

def Settled.after (event : Event) (s : Settled) : Settled :=
  { s with adjustments := event :: s.adjustments }

def clear (snapshot : Snapshot) (trigger : Trigger) (line : Value) (selection : Selection) :
    Except Fault Settled :=
  match pass snapshot trigger line selection with
  | .error fault => .error fault
  | .ok p =>
    match _h : firstInvalid? snapshot p selection with
    | none => .ok ⟨selection, p, []⟩
    | some (spec, _) =>
      (clear snapshot trigger line (Keyed.erase selection spec.field)).map
        (Settled.after (.adjusted spec.field (Selection.at? selection spec.field) .null))
termination_by selection.length
decreasing_by exact Keyed.length_erase_lt selection (has_of_firstInvalid? _h)

/-- Replaces unavailable choices for `budget` passes, then clears them. -/
def settle (snapshot : Snapshot) (trigger : Trigger) (line : Value) :
    Nat → Selection → Except Fault Settled
  | 0, selection => clear snapshot trigger line selection
  | budget + 1, selection => do
    let p ← pass snapshot trigger line selection
    match firstInvalid? snapshot p selection with
    | none => return ⟨selection, p, []⟩
    | some (spec, bad) =>
      let previous := Selection.at? selection spec.field
      let next ← replacement snapshot p.availability spec previous bad
      let settled ← settle snapshot trigger line budget (assign selection spec.field next)
      return settled.after (.adjusted spec.field previous next)

def passesPerField : Nat := 3

def budget (snapshot : Snapshot) : Nat := passesPerField * snapshot.table.specs.length

def closingEvents (p : Pass) (sku : Sku.Built) : List Event :=
  [.optionsComputed (Keyed.mapValues (fun c => c.available.length) p.availability.choices),
    .rulesEvaluated (p.outcome.matched.map Rule.id), .skuBuilt sku.sku]

def lineOf? (table : FieldTable) (selection : Selection) : Option Value :=
  table.lineSpec?.bind (fun spec => Keyed.get? selection spec.field)

def configure (selection : Selection) (snapshot : Snapshot) (settings : Settings) :
    Except Fault (State × List Event) :=
  match lineOf? snapshot.table selection with
  | none => .ok (⟨selection, none, none, snapshot.asOf⟩, [])
  | some line => do
    let settled ← settle snapshot settings.trigger line (budget snapshot) selection
    let p := settled.pass
    let sku ← Sku.build settled.selection p.outcome.overrides snapshot.codeFields snapshot
      settings.separators
    return (⟨settled.selection, some line, some ⟨p.availability, p.outcome, sku⟩, snapshot.asOf⟩,
      settled.adjustments ++ closingEvents p sku)

def recomputeGiven (choices : Keyed Selection.Given) (snapshot : Snapshot) (settings : Settings) :
    Except Fault (State × List Event) :=
  configure (Selection.normalizeGiven snapshot.table choices) snapshot settings

def recompute (selection : Selection) (snapshot : Snapshot) (settings : Settings) :
    Except Fault (State × List Event) :=
  recomputeGiven selection.given snapshot settings

theorem recompute_eq_configure (selection : Selection) (snapshot : Snapshot)
    (settings : Settings) : recompute selection snapshot settings =
      configure (Selection.normalize snapshot.table selection) snapshot settings := rfl

end Configuration

end MadeToOrder
