import MadeToOrder.Proofs.Catalog.Filed

/-!
# The defaults of a line

The defaults of a line name collections and items. Items without an option are left
out, the others are shown under the key of their option in display order, and each
collection stands once. So every default is the key of an option that is there.
-/

set_option autoImplicit false

namespace MadeToOrder

namespace Snapshot

variable {s : Snapshot} {line : Value} {collection id : String}

def HasActive (s : Snapshot) (collection id : String) : Prop :=
  ∃ o, s.option? collection id = some o ∧ o.key = id ∧ o.active.truthy = true

theorem option?_key (filed : s.Filed) {o : CatalogOption}
    (found : s.option? collection id = some o) : o.key = id :=
  (filed.optionsIn collection).own (id, o) (Keyed.mem_of_get? found)

theorem HasActive.of_option? (filed : s.Filed) (active : s.Active) {o : CatalogOption}
    (found : s.option? collection id = some o) : s.HasActive collection id :=
  ⟨o, found, option?_key filed found, active.option found⟩

def Stocked (s : Snapshot) (groups : Keyed (List CatalogOption)) : Prop :=
  ∀ e ∈ groups, ∀ o ∈ e.2, ∃ item, s.option? e.1 item = some o

theorem Stocked.add {groups : Keyed (List CatalogOption)} (h : s.Stocked groups)
    {item : String} {o : CatalogOption} (found : s.option? collection item = some o) :
    s.Stocked (Keyed.adjust groups collection (fun g => g.getD [] ++ [o])) := by
  intro e member o' listed
  rcases Keyed.mem_put member with earlier | rfl
  · exact h e earlier o' listed
  · rcases List.mem_append.mp listed with before | new
    · cases present : Keyed.get? groups collection with
      | none =>
        rw [present] at before
        cases before
      | some options =>
        rw [present] at before
        exact h (collection, options) (Keyed.mem_of_get? present) o' before
    · obtain rfl := List.mem_singleton.mp new
      exact ⟨item, found⟩

theorem Stocked.grouped {groups : Keyed (List CatalogOption)} (h : s.Stocked groups)
    (pairs : List (String × String)) : s.Stocked (s.grouped pairs groups) := by
  induction pairs generalizing groups with
  | nil => exact h
  | cons pair rest ih =>
    rw [Snapshot.grouped]
    split
    · rename_i o found
      exact ih (h.add found)
    · exact ih h

theorem nodup_grouped {groups : Keyed (List CatalogOption)} (h : (Keyed.keys groups).Nodup)
    (pairs : List (String × String)) : (Keyed.keys (s.grouped pairs groups)).Nodup := by
  induction pairs generalizing groups with
  | nil => exact h
  | cons pair rest ih =>
    rw [Snapshot.grouped]
    split
    · exact ih (Keyed.nodup_keys_put h _ _)
    · exact ih h

/-- Display order changes neither the collections nor their options. -/
theorem displayKeys_spec {groups : Keyed (List CatalogOption)} {shown : Keyed (List String)}
    (h : displayKeys groups = .ok shown) :
    Keyed.keys shown = Keyed.keys groups ∧
      ∀ e ∈ shown, ∀ id ∈ e.2, ∃ options, (e.1, options) ∈ groups ∧
        ∃ o ∈ options, o.key = id := by
  induction groups generalizing shown with
  | nil =>
    obtain rfl := Except.ok.inj h
    exact ⟨rfl, by simp⟩
  | cons group rest ih =>
    obtain ⟨collection, options⟩ := group
    obtain ⟨sorted, ordered, h⟩ := bind_eq_ok.mp h
    obtain ⟨others, later, h⟩ := bind_eq_ok.mp h
    obtain rfl := Except.ok.inj h
    obtain ⟨names, known⟩ := ih later
    refine ⟨congrArg (collection :: ·) names, List.forall_mem_cons.mpr ⟨?_, ?_⟩⟩
    · intro id shown
      obtain ⟨o, listed, rfl⟩ := List.mem_map.mp shown
      exact ⟨options, by simp, o, (inOrderOf_perm ordered).mem_iff.mp listed, rfl⟩
    · intro e member id shown
      obtain ⟨options', group, own⟩ := known e member id shown
      exact ⟨options', List.mem_cons_of_mem _ group, own⟩

theorem lineDefaults_eq {defaults : Keyed (List String)}
    (h : s.lineDefaults line = .ok defaults) :
    ∃ pairs shown, displayKeys (s.grouped pairs []) = .ok shown ∧ (defaults = shown ∨
      ∃ all, s.optionsFor lineCollection = .ok all ∧
        defaults = Keyed.put shown lineCollection (all.map CatalogOption.key)) := by
  obtain ⟨found, _, h⟩ := bind_eq_ok.mp h
  obtain ⟨shown, displayed, h⟩ := bind_eq_ok.mp h
  refine ⟨found.defaults, shown, displayed, ?_⟩
  split at h
  · obtain ⟨all, listed, h⟩ := bind_eq_ok.mp h
    exact Or.inr ⟨all, listed, (Except.ok.inj h).symm⟩
  · exact Or.inl (Except.ok.inj h).symm

theorem nodup_lineDefaults {defaults : Keyed (List String)}
    (h : s.lineDefaults line = .ok defaults) : (Keyed.keys defaults).Nodup := by
  obtain ⟨pairs, shown, displayed, rest⟩ := lineDefaults_eq h
  have distinct : (Keyed.keys shown).Nodup := by
    rw [(displayKeys_spec displayed).1]
    exact nodup_grouped (by simp [Keyed.keys]) pairs
  rcases rest with rfl | ⟨all, _, rfl⟩
  · exact distinct
  · exact Keyed.nodup_keys_put distinct _ _

theorem hasActive_lineDefaults (filed : s.Filed) (active : s.Active)
    {defaults : Keyed (List String)} (h : s.lineDefaults line = .ok defaults) :
    ∀ e ∈ defaults, ∀ id ∈ e.2, s.HasActive e.1 id := by
  obtain ⟨pairs, shown, displayed, rest⟩ := lineDefaults_eq h
  have stocked : s.Stocked (s.grouped pairs []) :=
    Stocked.grouped (fun _ member => absurd member List.not_mem_nil) pairs
  have own : ∀ e ∈ shown, ∀ id ∈ e.2, s.HasActive e.1 id := by
    intro e member id listed
    obtain ⟨options, group, o, kept, rfl⟩ := (displayKeys_spec displayed).2 e member id listed
    obtain ⟨item, found⟩ := stocked (e.1, options) group o kept
    have key := option?_key filed found
    exact HasActive.of_option? filed active (key ▸ found)
  rcases rest with rfl | ⟨all, listed, rfl⟩
  · exact own
  · intro e member
    rcases Keyed.mem_put member with earlier | rfl
    · exact own e earlier
    · intro id shown
      obtain ⟨o, line, rfl⟩ := List.mem_map.mp shown
      have entry := filed.entry ((s.optionsFor_perm listed).mem_iff.mp line)
      exact HasActive.of_option? filed active
        (Keyed.get?_of_mem (filed.optionsIn lineCollection).distinct entry)

end Snapshot

end MadeToOrder
