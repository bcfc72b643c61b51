import MadeToOrder.Proofs.Selection.Normal

/-!
# Choices that are set

An empty list is no choice, so normalizing a selection again drops what an empty tuple or an
empty set has become. All other choices are set and in normal form, and stay.
-/

set_option autoImplicit false

namespace MadeToOrder

/-- A value is found behind a filter where no other entry can take its place. -/
theorem Keyed.get?_filter {α : Type} {m : Keyed α} (distinct : (keys m).Nodup) (p : α → Bool)
    (key : String) : get? (m.filter (fun e => p e.2)) key = (get? m key).filter p := by
  induction m with
  | nil => rfl
  | cons e rest ih =>
    obtain ⟨k, v⟩ := e
    obtain ⟨fresh, distinct⟩ := List.nodup_cons.mp distinct
    have later := ih distinct
    rw [List.filter_cons]
    by_cases same : k = key
    · subst same
      rw [get?_eq_none fresh, Option.filter_none] at later
      cases kept : p v <;> simp [get?, later, kept, Option.filter]
    · cases p v <;> simp [get?, same, later]

namespace Selection

/-- Every choice that is set is in normal form. -/
def NormalWhereSet (table : FieldTable) (s : Selection) : Prop :=
  ∀ e ∈ s, e.2.isUnset = false → IsNormal table e.1 e.2

def whereSet (s : Selection) : Selection := s.filter (fun e => !e.2.isUnset)

variable {table : FieldTable} {s : Selection}

theorem NormalWhereSet.of_normal (h : Normal table s) : NormalWhereSet table s :=
  fun e member _ => h e member

theorem whereSet_cons (field : String) (v : Value) (rest : Selection) :
    whereSet ((field, v) :: rest) =
      if v.isUnset then rest.whereSet else (field, v) :: rest.whereSet := by
  rw [whereSet, List.filter_cons]
  cases v.isUnset <;> rfl

theorem NormalWhereSet.normalize (h : NormalWhereSet table s) :
    Selection.normalize table s = s.whereSet := by
  induction s with
  | nil => rfl
  | cons e rest ih =>
    obtain ⟨field, v⟩ := e
    obtain ⟨here, others⟩ := List.forall_mem_cons.mp h
    rw [normalize_cons, ih others, whereSet_cons]
    cases unset : v.isUnset with
    | true => rfl
    | false => rw [(here unset).2]

theorem get?_whereSet (distinct : (Keyed.keys s).Nodup) (field : String) :
    Keyed.get? s.whereSet field = (Keyed.get? s field).filter (fun v => !v.isUnset) :=
  Keyed.get?_filter distinct (fun v => !v.isUnset) field

theorem at?_whereSet (distinct : (Keyed.keys s).Nodup) (field : String) :
    at? s.whereSet field = if (at? s field).isUnset then .null else at? s field := by
  rw [at?, at?, get?_whereSet distinct]
  cases Keyed.get? s field with
  | none => rfl
  | some v => cases unset : v.isUnset <;> simp [Option.filter, unset]

def AllSet (s : Selection) : Prop := ∀ e ∈ s, e.2.isUnset = false

theorem AllSet.whereSet (h : AllSet s) : s.whereSet = s :=
  List.filter_eq_self.mpr (fun e member => by simp [h e member])

/-- What is not unset when it is given, and becomes an empty list. -/
def Given.isHollow : Given → Bool
  | .value _ => false
  | .tuple items | .set items => items.isEmpty

theorem isUnset_normal (several : Bool) {g : Given} (h : g.isUnset = false) :
    (g.normal several).isUnset = g.isHollow := by
  cases g with
  | value v => exact isUnset_normalValue several h
  | tuple items | set items => simp [Given.normal, Given.isHollow, normalValue, Value.isUnset]

theorem Given.not_isHollow_of_isUnset {g : Given} (h : g.isUnset = true) : g.isHollow = false := by
  cases g with
  | value v => rfl
  | tuple items | set items => cases h

theorem normalValue_normal (several : Bool) (g : Given) :
    normalValue several (g.normal several) = g.normal several := by
  cases g with
  | value v => exact normalValue_normalValue several v
  | tuple items | set items => exact normalValue_normalValue several (.list items)

theorem normalWhereSet_normalizeGiven (table : FieldTable) (choices : Keyed Given) :
    NormalWhereSet table (normalizeGiven table choices) := by
  induction choices with
  | nil => exact fun _ => nofun
  | cons e rest ih =>
    obtain ⟨field, g⟩ := e
    rw [normalizeGiven]
    split
    · exact ih
    · exact List.forall_mem_cons.mpr ⟨fun isSet => ⟨isSet, normalValue_normal _ g⟩, ih⟩

/-- What is not set in a selection that was just normalized is an empty list. -/
theorem eq_nil_of_mem_normalizeGiven {choices : Keyed Given} {field : String} {v : Value}
    (member : (field, v) ∈ normalizeGiven table choices) (unset : v.isUnset = true) :
    v = .list [] := by
  induction choices with
  | nil => cases member
  | cons e rest ih =>
    obtain ⟨other, g⟩ := e
    rw [normalizeGiven] at member
    split at member
    next => exact ih member
    next isSet =>
      rcases List.mem_cons.mp member with same | later
      · obtain ⟨rfl, rfl⟩ := Prod.mk.inj same
        rw [isUnset_normal _ (by simpa using isSet)] at unset
        cases g with
        | value v => cases unset
        | tuple items | set items =>
          obtain rfl := List.isEmpty_iff.mp unset
          rfl
      · exact ih later

theorem allSet_normalizeGiven_iff (table : FieldTable) (choices : Keyed Given) :
    AllSet (normalizeGiven table choices) ↔ ∀ e ∈ choices, e.2.isHollow = false := by
  induction choices with
  | nil => exact ⟨fun _ _ => nofun, fun _ _ => nofun⟩
  | cons e rest ih =>
    obtain ⟨field, g⟩ := e
    rw [normalizeGiven, List.forall_mem_cons, ← ih]
    split
    next unset => simp [Given.not_isHollow_of_isUnset unset]
    next isSet =>
      rw [AllSet, List.forall_mem_cons, isUnset_normal _ (by simpa using isSet)]
      rfl

end Selection

end MadeToOrder
