import MadeToOrder.Proofs.Availability.Partition
import MadeToOrder.Proofs.Catalog.Alike

/-!
# Options from alike snapshots

Alike snapshots offer the same options. Matching asks which products there are and
override rows which items, neither in which order, so every collection has the same ids,
available or disabled, and the same history.
-/

set_option autoImplicit false

namespace MadeToOrder

structure Choices.Alike (c c' : Choices) : Prop where
  all : ∀ id, id ∈ c'.all ↔ id ∈ c.all
  available : ∀ id, id ∈ c'.available ↔ id ∈ c.available
  disabled : ∀ id, id ∈ c'.disabled ↔ id ∈ c.disabled
  history : c'.history = c.history

structure Availability.Alike (a a' : Availability) : Prop where
  choices : ∀ collection, Option.Rel Choices.Alike (Keyed.get? a.choices collection)
    (Keyed.get? a'.choices collection)
  candidates : a.candidates.Perm a'.candidates

namespace Choices

variable {c c' : Choices}

theorem Alike.refl (c : Choices) : c.Alike c :=
  ⟨fun _ => Iff.rfl, fun _ => Iff.rfl, fun _ => Iff.rfl, rfl⟩

theorem Alike.keep (h : c.Alike c') {kept kept' : IdSet} (same : ∀ id, id ∈ kept' ↔ id ∈ kept)
    (step : Step) : (c.keep kept step).Alike (c'.keep kept' step) where
  all := h.all
  available := same
  disabled id := by
    simp only [Choices.keep, IdSet.mem_union, IdSet.mem_diff, h.disabled, h.available, same]
  history := congrArg (· ++ [step]) h.history

theorem alike_ofIds {ids ids' : List String} (same : ∀ id, id ∈ ids' ↔ id ∈ ids)
    (history : List Step) : (ofIds ids history).Alike (ofIds ids' history) where
  all id := by simp only [ofIds, IdSet.mem_ofList, same]
  available id := by simp only [ofIds, IdSet.mem_ofList, same]
  disabled id := Iff.rfl
  history := rfl

end Choices

namespace Availability

variable {s s' : Snapshot} {selection : Selection} {line : Value} {trigger : Trigger}
  {collection : String}

theorem perm_productsOf (h : s.Alike s') (line : Value) :
    (s.productsOf line).Perm (s'.productsOf line) := h.products.filter _

theorem perm_candidatesOf (h : s.Alike s') (selection : Selection) (line : Value) :
    (candidatesOf selection line s).Perm (candidatesOf selection line s') := by
  unfold candidatesOf
  rw [h.table]
  exact (perm_productsOf h line).filter _

theorem mem_observed_of_perm {products products' : List Product} (perm : products.Perm products')
    (selected : Keyed String) (collection id : String) :
    id ∈ observed products' selected collection ↔ id ∈ observed products selected collection := by
  simp only [mem_observed, perm.mem_iff]

theorem alike_matchChoices {products products' : List Product} (perm : products.Perm products')
    (selected : Keyed String) {c c' : Choices} (h : c.Alike c') :
    (matchChoices products selected collection c).Alike
      (matchChoices products' selected collection c') := by
  have seen := mem_observed_of_perm perm selected collection
  unfold matchChoices
  dsimp only
  by_cases none : observed products selected collection = []
  · have none' : observed products' selected collection = [] := by
      apply List.eq_nil_iff_forall_not_mem.mpr
      intro id member
      rw [seen, none] at member
      cases member
    rw [none, none']
    exact h
  · have some : observed products' selected collection ≠ [] := by
      obtain ⟨id, member⟩ := List.exists_mem_of_ne_nil _ none
      exact List.ne_nil_of_mem ((seen id).mpr member)
    rw [List.isEmpty_eq_false_iff.mpr none, List.isEmpty_eq_false_iff.mpr some]
    apply h.keep
    intro id
    simp only [IdSet.mem_inter, h.available, seen]

theorem get?_startingChoices_of_eq {defaults defaults' : Keyed (List String)}
    (same : ∀ collection, Keyed.get? defaults' collection = Keyed.get? defaults collection)
    (collection : String) :
    Keyed.get? (startingChoices defaults') collection =
      Keyed.get? (startingChoices defaults) collection := by
  rw [startingChoices, startingChoices, Keyed.get?_mapValues, Keyed.get?_mapValues, same]

theorem alike_afterMatching (h : s.Alike s') {defaults defaults' : Keyed (List String)}
    (same : ∀ collection, Keyed.get? defaults' collection = Keyed.get? defaults collection)
    (collection : String) : Option.Rel Choices.Alike
      (Keyed.get? (afterMatching selection line s defaults) collection)
      (Keyed.get? (afterMatching selection line s' defaults') collection) := by
  have attributes : s'.table.attributes = s.table.attributes := by rw [h.table]
  by_cases listed : collection ∈ s.table.attributes.map FieldSpec.collection
  · obtain ⟨spec, member, rfl⟩ := List.mem_map.mp listed
    rw [get?_afterMatching_attribute member,
      get?_afterMatching_attribute (attributes ▸ member), get?_startingChoices_of_eq same,
      attributes]
    cases Keyed.get? (startingChoices defaults) spec.collection with
    | none => exact .none
    | some c =>
      apply Option.Rel.some
      split
      · exact .refl c
      · exact alike_matchChoices (perm_productsOf h line) _ (.refl c)
  · rw [get?_afterMatching_other listed, get?_afterMatching_other (attributes ▸ listed),
      get?_startingChoices_of_eq same]
    cases Keyed.get? (startingChoices defaults) collection with
    | none => exact .none
    | some c => exact .some (.refl c)

theorem overrides_eq (h : s.Alike s') : overrides selection line s' trigger =
    overrides selection line s trigger := by
  unfold overrides
  rw [h.table, (perm_candidatesOf h selection line).length_eq]

theorem mem_overrideItems_of_alike (h : s.Alike s') (id : String) :
    id ∈ itemsIn (overrideItems selection line s').1 collection ↔
      id ∈ itemsIn (overrideItems selection line s).1 collection := by
  have keys := (perm_candidatesOf h selection line).map Product.key
  simp only [overrideItems, mem_itemsIn_groupItems, Snapshot.overridesFor, List.mem_filter,
    h.option?, h.overrides.mem_iff, decide_eq_true_eq, keys.mem_iff]

/-- The rows of a collection name the same items, and some or none in both snapshots. -/
theorem rel_overrideItems (h : s.Alike s') (collection : String) :
    Option.Rel (fun ids ids' : IdSet => ∀ id, id ∈ ids' ↔ id ∈ ids)
      (Keyed.get? (overrideItems selection line s).1 collection)
      (Keyed.get? (overrideItems selection line s').1 collection) := by
  have same := fun id => @mem_overrideItems_of_alike s s' selection line collection h id
  unfold itemsIn at same
  have filled : Filled (overrideItems selection line s).1 := filled_overrideItems
  have filled' : Filled (overrideItems selection line s').1 := filled_overrideItems
  cases found : Keyed.get? (overrideItems selection line s).1 collection with
  | none =>
    cases found' : Keyed.get? (overrideItems selection line s').1 collection with
    | none => exact .none
    | some ids' =>
      obtain ⟨id, member⟩ := List.exists_mem_of_ne_nil _ (filled'.inhabited collection ids' found')
      rw [found, found'] at same
      cases (same id).mp member
  | some ids =>
    cases found' : Keyed.get? (overrideItems selection line s').1 collection with
    | none =>
      obtain ⟨id, member⟩ := List.exists_mem_of_ne_nil _ (filled.inhabited collection ids found)
      rw [found, found'] at same
      cases (same id).mpr member
    | some ids' =>
      rw [found, found'] at same
      exact .some same

theorem rel_replace {group group' : Option IdSet} {c c' : Option Choices}
    (groups : Option.Rel (fun ids ids' : IdSet => ∀ id, id ∈ ids' ↔ id ∈ ids) group group')
    (choices : Option.Rel Choices.Alike c c') :
    Option.Rel Choices.Alike (replace group c) (replace group' c') := by
  cases groups with
  | none => exact choices
  | some same =>
    apply Option.Rel.some
    cases choices with
    | none => exact Choices.alike_ofIds same _
    | some alike =>
      simp only [Option.map_some, Option.getD_some, alike.history]
      exact Choices.alike_ofIds same _

/-- Alike snapshots offer the same options. -/
theorem paired_compute (h : s.Alike s') (selection : Selection) (line : Value)
    (trigger : Trigger) :
    Paired Alike (compute selection line s trigger) (compute selection line s' trigger) := by
  rw [compute_eq, compute_eq]
  apply (h.lineDefaults line).map
  intro defaults defaults' same
  have keys := (perm_candidatesOf h selection line).map Product.key
  have matched := fun collection =>
    @alike_afterMatching s s' selection line h defaults defaults' same collection
  dsimp only
  rw [overrides_eq h]
  split
  · refine ⟨fun collection => ?_, keys⟩
    dsimp only
    rw [get?_foldl_replaceOne filled_overrideItems.distinct,
      get?_foldl_replaceOne filled_overrideItems.distinct]
    exact rel_replace (rel_overrideItems h collection) (matched collection)
  · exact ⟨matched, keys⟩

variable {a a' : Availability}

theorem alike_limits {c c' : Choices} (h : c.Alike c') (ks : List Rule.Constraint) :
    (ks.foldl limit c).Alike (ks.foldl limit c') := by
  induction ks generalizing c c' with
  | nil => exact h
  | cons k rest ih =>
    apply ih
    apply h.keep
    intro id
    rw [mem_permitted, mem_permitted, h.available]

theorem Alike.constrain (h : a.Alike a') (constraints : Rule.Constraints) :
    (a.constrain constraints).Alike (a'.constrain constraints) := by
  refine ⟨fun collection => ?_, h.candidates⟩
  rw [get?_constrain, get?_constrain]
  rcases eq_none_or_some_of_rel (h.choices collection) with
    ⟨none, none'⟩ | ⟨c, c', found, found', alike⟩
  · rw [none, none']
    exact .none
  · rw [found, found']
    exact .some (alike_limits alike _)

theorem Alike.invalidIn (h : a.Alike a') (selection : Selection) (spec : FieldSpec) :
    a'.invalidIn selection spec = a.invalidIn selection spec := by
  unfold Availability.invalidIn
  rcases eq_none_or_some_of_rel (h.choices spec.collection) with
    ⟨none, none'⟩ | ⟨c, c', found, found', alike⟩
  · rw [none, none']
  · rw [found, found']
    simp only [alike.available]

theorem Alike.mem_availableIn (h : a.Alike a') (collection id : String) :
    id ∈ a'.availableIn collection ↔ id ∈ a.availableIn collection := by
  unfold availableIn
  rcases eq_none_or_some_of_rel (h.choices collection) with
    ⟨none, none'⟩ | ⟨c, c', found, found', alike⟩
  · rw [none, none']
  · rw [found, found']
    exact alike.available id

end Availability

end MadeToOrder
