import MadeToOrder.Proofs.Configuration.Adjusting
import MadeToOrder.Proofs.Selection.WhereSet

/-!
# Engines pass over what is not set

The options, the rules, the invalid choices and the code of a selection are those of the
choices in it that are set.
-/

set_option autoImplicit false

namespace MadeToOrder.Configuration

variable {s : Snapshot} {trigger : Trigger} {line : Value} {selection : Selection}

theorem discriminators_whereSet (distinct : (Keyed.keys selection).Nodup)
    (specs : List FieldSpec) : Availability.discriminators selection.whereSet specs =
      Availability.discriminators selection specs := by
  induction specs with
  | nil => rfl
  | cons spec rest ih =>
    rw [Availability.discriminators, Availability.discriminators, Selection.at?_whereSet distinct, ih]
    cases unset : (Selection.at? selection spec.field).isUnset with
    | true => rfl
    | false => simp [unset]

theorem contextFrom_whereSet (context : Context) :
    Rule.contextFrom s context selection.whereSet = Rule.contextFrom s context selection := by
  induction selection generalizing context with
  | nil => rfl
  | cons e rest ih =>
    obtain ⟨field, v⟩ := e
    rw [Selection.whereSet_cons]
    cases unset : v.isUnset with
    | true =>
      rw [Rule.contextFrom, if_pos unset]
      exact ih context
    | false =>
      rw [if_neg Bool.false_ne_true, Rule.contextFrom, Rule.contextFrom]
      simp only [unset, Bool.false_eq_true, if_false]
      cases s.table.byField? field with
      | none => exact ih _
      | some spec =>
        show (Rule.contextEntries s spec v >>= _) = (Rule.contextEntries s spec v >>= _)
        cases Rule.contextEntries s spec v with
        | error fault => rfl
        | ok entries => exact ih _

theorem pass_whereSet (distinct : (Keyed.keys selection).Nodup) :
    pass s trigger line selection.whereSet = pass s trigger line selection := by
  unfold pass Availability.compute Rule.outcomeFor Rule.contextOf
  rw [discriminators_whereSet distinct, contextFrom_whereSet]

theorem lineOf?_whereSet (distinct : (Keyed.keys selection).Nodup) :
    lineOf? s.table selection.whereSet =
      (lineOf? s.table selection).filter (fun v => !v.isUnset) := by
  unfold lineOf?
  cases s.table.lineSpec? with
  | none => rfl
  | some spec => exact Selection.get?_whereSet distinct spec.field

theorem invalidIn_whereSet (distinct : (Keyed.keys selection).Nodup) (a : Availability)
    (spec : FieldSpec) : a.invalidIn selection.whereSet spec = a.invalidIn selection spec := by
  unfold Availability.invalidIn
  dsimp only
  rw [Selection.at?_whereSet distinct]
  cases unset : (Selection.at? selection spec.field).isUnset with
  | true => simp [Value.isUnset]
  | false => simp [unset]

theorem firstInvalid?_whereSet (distinct : (Keyed.keys selection).Nodup) (p : Pass) :
    firstInvalid? s p selection.whereSet = firstInvalid? s p selection := by
  unfold firstInvalid?
  simp only [invalidIn_whereSet distinct]

theorem fieldCode_whereSet (distinct : (Keyed.keys selection).Nodup) (overrides : Rule.Overrides)
    (multi : String) (spec : FieldSpec) :
    Sku.fieldCode s selection.whereSet overrides multi spec =
      Sku.fieldCode s selection overrides multi spec := by
  unfold Sku.fieldCode Sku.chosenCode
  rw [Selection.at?_whereSet distinct]
  cases unset : (Selection.at? selection spec.field).isUnset with
  | true => simp [Value.isUnset]
  | false => simp [unset]

theorem buildSegments_whereSet (distinct : (Keyed.keys selection).Nodup)
    (overrides : Rule.Overrides) (multi : String) (fields : List CodeField) :
    Sku.buildSegments s selection.whereSet overrides multi fields =
      Sku.buildSegments s selection overrides multi fields := by
  induction fields with
  | nil => rfl
  | cons entry rest ih => simp only [Sku.buildSegments, fieldCode_whereSet distinct, ih]

theorem build_whereSet (distinct : (Keyed.keys selection).Nodup) (overrides : Rule.Overrides)
    (fields : List CodeField) (separators : Sku.Separators) :
    Sku.build selection.whereSet overrides fields s separators =
      Sku.build selection overrides fields s separators := by
  unfold Sku.build
  simp only [buildSegments_whereSet distinct]

end MadeToOrder.Configuration
