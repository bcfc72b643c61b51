import MadeToOrder.Proofs.Availability.Isolation

/-!
# When override rows count

A trigger asks for a number of selected fields and for few enough candidates. Rows
of the candidates replace collections when the trigger says so and one field at
least is selected: a trigger that asks for no field is as strict as one that asks
for one.
-/

set_option autoImplicit false

namespace MadeToOrder

theorem Trigger.applies_iff (t : Trigger) (selected candidates : Int) :
    t.applies selected candidates = true ↔ candidates ≠ 0 ∧ t.minSelected ≤ selected ∧
      ∀ most, t.maxCandidates = some most → candidates ≤ most := by
  unfold applies
  by_cases refused : candidates = 0 ∨ selected < t.minSelected
  · have stopped : ¬(candidates ≠ 0 ∧ t.minSelected ≤ selected) := by omega
    rw [if_pos (by simpa using refused)]
    constructor
    · intro applied
      cases applied
    · rintro ⟨some, enough, _⟩
      exact absurd ⟨some, enough⟩ stopped
  · have granted : candidates ≠ 0 ∧ t.minSelected ≤ selected := by omega
    rw [if_neg (by simpa using refused)]
    cases limit : t.maxCandidates with
    | none => simp [granted]
    | some most => simp [granted]

namespace Availability

instance (selection : Selection) (spec : FieldSpec) : Decidable (Discriminates selection spec) :=
  inferInstanceAs (Decidable (_ ∧ _))

def selectedFields (selection : Selection) (specs : List FieldSpec) : Nat :=
  specs.countP (fun spec => Discriminates selection spec)

theorem discriminators_cons (selection : Selection) (spec : FieldSpec) (rest : List FieldSpec) :
    discriminators selection (spec :: rest) = if Discriminates selection spec then
      (spec.collection, (Selection.at? selection spec.field).plain) ::
        discriminators selection rest
    else discriminators selection rest := by
  have skips : ((Selection.at? selection spec.field).isUnset ||
      (Selection.at? selection spec.field).isList) = true ↔ ¬Discriminates selection spec := by
    rw [Discriminates, ← Bool.or_eq_false_iff, Bool.not_eq_false]
  rw [discriminators]
  by_cases single : Discriminates selection spec
  · rw [if_pos single, if_neg (mt skips.mp (not_not_intro single))]
  · rw [if_neg single, if_pos (skips.mpr single)]

theorem length_discriminators (selection : Selection) (specs : List FieldSpec) :
    (discriminators selection specs).length = selectedFields selection specs := by
  unfold selectedFields
  induction specs with
  | nil => rfl
  | cons spec rest ih =>
    rw [discriminators_cons, List.countP_cons]
    by_cases single : Discriminates selection spec
    · simp [single, ih]
    · simp [single, ih]

variable {snapshot : Snapshot} {selection : Selection} {line : Value} {trigger : Trigger}
  {a : Availability}

theorem overrides_iff (computed : compute selection line snapshot trigger = .ok a) :
    overrides selection line snapshot trigger = true ↔
      0 < selectedFields selection snapshot.table.attributes ∧
        trigger.applies (selectedFields selection snapshot.table.attributes)
          a.candidates.length = true := by
  have some : (!(discriminators selection snapshot.table.attributes).isEmpty) = true ↔
      0 < selectedFields selection snapshot.table.attributes := by
    rw [← length_discriminators, List.length_pos_iff]
    simp
  rw [overrides, candidates_of_compute computed, List.length_map]
  simp only [Bool.and_eq_true, some, length_discriminators]

/-- The override step changes a collection exactly when a field is selected, the
trigger applies and a candidate has a row with an option of the collection. For a
trigger that asks for a field the trigger decides alone. -/
theorem replaced_iff_applies (snapshot : Snapshot) (selection : Selection) (line : Value)
    (trigger : Trigger) (a : Availability) (collection : String)
    (computed : compute selection line snapshot trigger = .ok a) :
    (a.Replaced collection ↔ 0 < selectedFields selection snapshot.table.attributes ∧
      trigger.applies (selectedFields selection snapshot.table.attributes)
        a.candidates.length = true ∧ ∃ id, Offered snapshot a.candidates collection id) ∧
    (1 ≤ trigger.minSelected → (a.Replaced collection ↔
      trigger.applies (selectedFields selection snapshot.table.attributes)
        a.candidates.length = true ∧ ∃ id, Offered snapshot a.candidates collection id)) := by
  have decided : a.Replaced collection ↔ _ := replaced_iff computed
  rw [overrides_iff computed, and_assoc] at decided
  refine ⟨decided, fun asks => ?_⟩
  rw [decided]
  constructor
  · rintro ⟨_, applied, offered⟩
    exact ⟨applied, offered⟩
  · rintro ⟨applied, offered⟩
    have enough := ((Trigger.applies_iff _ _ _).mp applied).2.1
    exact ⟨by omega, applied, offered⟩

/-- With the color selected the sizes come from the rows of the red product. -/
theorem sizes_replaced_in_red :
    ∃ a, compute [("color", .text "red")] (.text "deco")
        { smallRedLargeBlue with overrides := largeRed } Trigger.standard = .ok a ∧
      1 ≤ Trigger.standard.minSelected ∧ a.Replaced "sizes" ∧ ¬a.Replaced "colors" := by
  obtain ⟨_, sizes⟩ := replaced_iff_applies { smallRedLargeBlue with overrides := largeRed }
    [("color", .text "red")] (.text "deco") Trigger.standard _ "sizes" rfl
  obtain ⟨_, colors⟩ := replaced_iff_applies { smallRedLargeBlue with overrides := largeRed }
    [("color", .text "red")] (.text "deco") Trigger.standard _ "colors" rfl
  refine ⟨_, rfl, by decide, (sizes (by decide)).mpr ⟨by decide, "large", ?_⟩, ?_⟩
  · exact ⟨⟨"1", "sizes", "large"⟩, by decide, by decide, rfl, rfl, rfl⟩
  · intro replaced
    have apart : ∀ row ∈ largeRed, row.product = "1" → row.collection ≠ "colors" := by decide
    obtain ⟨_, id, row, listed, candidate, named, _⟩ := (colors (by decide)).mp replaced
    exact apart row listed (List.mem_singleton.mp candidate) named

def redComesLarge : Snapshot :=
  { smallRedLargeBlue with overrides := [⟨"1", "sizes", "large"⟩] }

/-- A trigger that asks for no field applies where nothing is selected, since every
product is a candidate then, and yet no row counts. -/
theorem rows_wait_for_a_selection :
    ¬∀ (snapshot : Snapshot) (selection : Selection) (line : Value) (trigger : Trigger)
      (a : Availability) (collection : String), 0 ≤ trigger.minSelected →
      (∀ most, trigger.maxCandidates = some most → 1 ≤ most) →
      compute selection line snapshot trigger = .ok a →
      (a.Replaced collection ↔
        trigger.applies (selectedFields selection snapshot.table.attributes)
          a.candidates.length = true ∧ ∃ id, Offered snapshot a.candidates collection id) := by
  intro decides
  have replaced := (decides redComesLarge [] (.text "deco") ⟨0, none⟩ _ "sizes" (by decide)
    (by decide) rfl).mpr ⟨by decide, "large", ⟨"1", "sizes", "large"⟩, by decide, by decide,
      rfl, rfl, rfl⟩
  obtain ⟨c, found, step⟩ := replaced
  cases found
  exact absurd step (by decide)

end Availability

end MadeToOrder
