import MadeToOrder.Selection

/-!
# Normal selections

In a normal selection every field has a choice, written as the id of an option
or, where a field takes several, as a list of ids. Normalizing gives a normal
selection and leaves one as it is.
-/

set_option autoImplicit false

namespace MadeToOrder.Selection

def IsNormal (table : FieldTable) (field : String) (v : Value) : Prop :=
  v.isUnset = false ∧ normalValue (takesSeveral table field) v = v

def Normal (table : FieldTable) (s : Selection) : Prop := ∀ e ∈ s, IsNormal table e.1 e.2

theorem takesSeveral_of_mem {table : FieldTable} {spec : FieldSpec}
    (member : spec ∈ table.specs) : takesSeveral table spec.field = spec.multiSelect := by
  simp [takesSeveral, table.byField?_of_mem member]

theorem keys_given (s : Selection) : Keyed.keys s.given = Keyed.keys s := by
  rw [given, Keyed.keys, Keyed.mapValues, List.map_map]
  rfl

theorem keys_normalizeGiven (table : FieldTable) (choices : Keyed Given) :
    (Keyed.keys (normalizeGiven table choices)).Sublist (Keyed.keys choices) := by
  induction choices with
  | nil => exact .refl _
  | cons e rest ih =>
    obtain ⟨field, g⟩ := e
    rw [normalizeGiven]
    split
    · exact ih.cons field
    · exact ih.cons_cons field

theorem keys_normalize (table : FieldTable) (s : Selection) :
    (Keyed.keys (normalize table s)).Sublist (Keyed.keys s) := by
  rw [← keys_given s]
  exact keys_normalizeGiven table s.given

theorem normalize_nil (table : FieldTable) : normalize table [] = [] := rfl

theorem normalize_cons (table : FieldTable) (field : String) (v : Value) (rest : Selection) :
    normalize table ((field, v) :: rest) =
      if v.isUnset then normalize table rest
      else (field, normalValue (takesSeveral table field) v) :: normalize table rest := rfl

theorem plain_ne_empty {v : Value} (h : v.isUnset = false) : v.plain ≠ "" := by
  intro empty
  rw [(Value.plain_eq_empty_iff v).mp empty] at h
  simp [Value.isUnset] at h

theorem isUnset_normalValue (several : Bool) {v : Value} (h : v.isUnset = false) :
    (normalValue several v).isUnset = false := by
  cases v with
  | list items => simpa [normalValue, Value.isUnset] using h
  | _ =>
    have named := plain_ne_empty h
    cases several <;> simp [normalValue, Value.isUnset, named]

theorem normalValue_normalValue (several : Bool) (v : Value) :
    normalValue several (normalValue several v) = normalValue several v := by
  cases v with
  | list items => simp [normalValue, Function.comp_def, Value.plain_text]
  | _ => cases several <;> simp [normalValue, Value.plain_text]

theorem normal_normalize (table : FieldTable) (s : Selection) :
    Normal table (normalize table s) := by
  induction s with
  | nil => exact fun _ => nofun
  | cons e rest ih =>
    obtain ⟨field, v⟩ := e
    rw [normalize_cons]
    split
    · exact ih
    · rename_i isSet
      intro e member
      rcases List.mem_cons.mp member with rfl | member
      · exact ⟨isUnset_normalValue _ (by simpa using isSet), normalValue_normalValue _ v⟩
      · exact ih e member

/-- A normal selection is left as it is. -/
theorem normalize_eq_self {table : FieldTable} {s : Selection} (h : Normal table s) :
    normalize table s = s := by
  induction s with
  | nil => rfl
  | cons e rest ih =>
    obtain ⟨field, v⟩ := e
    obtain ⟨isSet, normal⟩ := h (field, v) (by simp)
    have others : Normal table rest := fun e member => h e (List.mem_cons_of_mem _ member)
    dsimp only at isSet normal
    rw [normalize_cons, normal, ih others]
    simp [isSet]

theorem isNormal_of_get? {table : FieldTable} {s : Selection} (h : Normal table s)
    {field : String} {v : Value} (found : Keyed.get? s field = some v) : IsNormal table field v :=
  h _ (Keyed.mem_of_get? found)

/-- A text that is not empty is a normal choice of a field that takes one. -/
theorem isNormal_text {table : FieldTable} {field id : String}
    (one : takesSeveral table field = false) (named : id ≠ "") :
    IsNormal table field (.text id) := by
  simp [IsNormal, one, named, normalValue, Value.isUnset, Value.plain_text]

/-- Some of the ids of a normal list make a normal list. -/
theorem isNormal_sublist {table : FieldTable} {field : String} {items kept : List Value}
    (h : IsNormal table field (.list items)) (some : kept ≠ []) (fewer : ∀ v ∈ kept, v ∈ items) :
    IsNormal table field (.list kept) := by
  obtain ⟨_, normal⟩ := h
  have texts : items.map (fun v => Value.text v.plain) = items.map id := by
    simpa [normalValue] using normal
  have kinds : kept.map (fun v => Value.text v.plain) = kept.map id := by
    rw [List.map_inj_left] at texts ⊢
    exact fun v member => texts v (fewer v member)
  refine ⟨by simpa [Value.isUnset] using some, ?_⟩
  simpa [normalValue] using kinds

/-- In a normal selection a field that takes several has a list. -/
theorem eq_list_of_isNormal {table : FieldTable} {field : String} {v : Value}
    (h : IsNormal table field v) (several : takesSeveral table field = true) :
    ∃ items, v = .list items := by
  obtain ⟨_, normal⟩ := h
  rw [several] at normal
  cases v with
  | list items => exact ⟨items, rfl⟩
  | _ => simp [normalValue] at normal

end MadeToOrder.Selection
