/-!
# Ordered dictionaries

Entries under text keys, in the order in which the keys first came. Putting a
value under a known key replaces the value in its place; a new key goes last.
-/

set_option autoImplicit false

namespace MadeToOrder

universe u v

abbrev Keyed (α : Type u) := List (String × α)

namespace Keyed

variable {α : Type u} {β : Type v}

def get? : Keyed α → String → Option α
  | [], _ => none
  | (key, value) :: rest, wanted => if key = wanted then some value else get? rest wanted

def has (m : Keyed α) (key : String) : Bool := (get? m key).isSome

def keys (m : Keyed α) : List String := m.map Prod.fst

def values (m : Keyed α) : List α := m.map Prod.snd

def put : Keyed α → String → α → Keyed α
  | [], key, value => [(key, value)]
  | (k, v) :: rest, key, value =>
    if k = key then (k, value) :: rest else (k, v) :: put rest key value

def putAll (m : Keyed α) : Keyed α → Keyed α
  | [] => m
  | (key, value) :: rest => putAll (put m key value) rest

def ofList (entries : List (String × α)) : Keyed α := putAll [] entries

def erase (m : Keyed α) (key : String) : Keyed α := m.filter (fun e => e.1 ≠ key)

def mapValues (f : α → β) (m : Keyed α) : Keyed β := m.map (fun e => (e.1, f e.2))

def adjust (m : Keyed α) (key : String) (f : Option α → α) : Keyed α :=
  put m key (f (get? m key))

theorem get?_put_self (m : Keyed α) (key : String) (value : α) :
    get? (put m key value) key = some value := by
  induction m with
  | nil => simp [put, get?]
  | cons e rest ih =>
    obtain ⟨k, v⟩ := e
    by_cases h : k = key
    · simp [put, get?, h]
    · simp [put, get?, h, ih]

theorem get?_put_of_ne (m : Keyed α) {key other : String} (value : α) (h : other ≠ key) :
    get? (put m key value) other = get? m other := by
  induction m with
  | nil => simp [put, get?, Ne.symm h]
  | cons e rest ih =>
    obtain ⟨k, v⟩ := e
    by_cases hk : k = key
    · subst hk
      simp [put, get?, Ne.symm h]
    · by_cases ho : k = other
      · subst ho
        simp [put, get?, h]
      · simp [put, get?, hk, ho, ih]

theorem get?_erase_self (m : Keyed α) (key : String) : get? (erase m key) key = none := by
  induction m with
  | nil => rfl
  | cons e rest ih =>
    obtain ⟨k, v⟩ := e
    by_cases h : k = key
    · simpa [erase, h] using ih
    · simpa [erase, get?, h] using ih

theorem get?_erase_of_ne (m : Keyed α) {key other : String} (h : other ≠ key) :
    get? (erase m key) other = get? m other := by
  induction m with
  | nil => rfl
  | cons e rest ih =>
    obtain ⟨k, v⟩ := e
    by_cases hk : k = key
    · subst hk
      simpa [erase, get?, Ne.symm h] using ih
    · by_cases ho : k = other
      · subst ho
        simp [erase, get?, h]
      · simpa [erase, get?, hk, ho] using ih

theorem has_iff_mem_keys (m : Keyed α) (key : String) : has m key = true ↔ key ∈ keys m := by
  induction m with
  | nil => simp [has, get?, keys]
  | cons e rest ih =>
    obtain ⟨k, v⟩ := e
    simp only [has, keys] at ih
    by_cases h : k = key
    · simp [has, get?, keys, h]
    · simp [has, get?, keys, h, ih, Ne.symm h]

theorem get?_eq_none {m : Keyed α} {key : String} (fresh : key ∉ keys m) : get? m key = none := by
  rw [← has_iff_mem_keys, has] at fresh
  simpa using fresh

theorem has_put (m : Keyed α) (key other : String) (value : α) :
    has (put m key value) other = true ↔ other = key ∨ has m other = true := by
  by_cases h : other = key
  · simp [has, h, get?_put_self]
  · simp [has, h, get?_put_of_ne]

theorem has_erase (m : Keyed α) (key other : String) :
    has (erase m key) other = true ↔ other ≠ key ∧ has m other = true := by
  by_cases h : other = key
  · simp [has, h, get?_erase_self]
  · simp [has, h, get?_erase_of_ne]

theorem mem_of_get? {m : Keyed α} {key : String} {value : α} (h : get? m key = some value) :
    (key, value) ∈ m := by
  induction m with
  | nil => simp [get?] at h
  | cons e rest ih =>
    obtain ⟨k, v⟩ := e
    by_cases hk : k = key
    · simp only [get?, hk, if_true, Option.some.injEq] at h
      simp [hk, h]
    · simp only [get?, hk, if_false] at h
      exact List.mem_cons_of_mem _ (ih h)

theorem get?_of_mem {m : Keyed α} (distinct : (keys m).Nodup) {key : String} {value : α}
    (h : (key, value) ∈ m) : get? m key = some value := by
  induction m with
  | nil => simp at h
  | cons e rest ih =>
    obtain ⟨k, v⟩ := e
    obtain ⟨fresh, distinct⟩ := List.nodup_cons.mp distinct
    rcases List.mem_cons.mp h with same | member
    · obtain ⟨rfl, rfl⟩ := Prod.mk.inj same
      simp [get?]
    · have other : k ≠ key := by
        rintro rfl
        exact fresh (List.mem_map.mpr ⟨_, member, rfl⟩)
      simp [get?, other, ih distinct member]

theorem mem_put {m : Keyed α} {key : String} {value : α} {e : String × α}
    (h : e ∈ put m key value) : e ∈ m ∨ e = (key, value) := by
  induction m with
  | nil => exact Or.inr (by simpa [put] using h)
  | cons first rest ih =>
    obtain ⟨k, v⟩ := first
    by_cases hk : k = key
    · simp only [put, hk, if_true, List.mem_cons] at h
      rcases h with rfl | member
      · exact Or.inr rfl
      · exact Or.inl (List.mem_cons_of_mem _ member)
    · simp only [put, hk, if_false, List.mem_cons] at h
      rcases h with rfl | member
      · exact Or.inl (by simp)
      · rcases ih member with earlier | rfl
        · exact Or.inl (List.mem_cons_of_mem _ earlier)
        · exact Or.inr rfl

theorem mem_keys_put {m : Keyed α} {key other : String} {value : α} :
    other ∈ keys (put m key value) ↔ other = key ∨ other ∈ keys m := by
  rw [← has_iff_mem_keys, ← has_iff_mem_keys, has_put]

theorem nodup_keys_put {m : Keyed α} (h : (keys m).Nodup) (key : String) (value : α) :
    (keys (put m key value)).Nodup := by
  induction m with
  | nil => simp [put, keys]
  | cons e rest ih =>
    obtain ⟨k, v⟩ := e
    obtain ⟨fresh, distinct⟩ := List.nodup_cons.mp h
    by_cases same : k = key
    · rw [put, if_pos same]
      exact List.nodup_cons.mpr ⟨fresh, distinct⟩
    · rw [put, if_neg same]
      refine List.nodup_cons.mpr ⟨?_, ih distinct⟩
      intro seen
      rcases mem_keys_put.mp seen with new | old
      · exact same new
      · exact fresh old

theorem mem_of_mem_erase {m : Keyed α} {key : String} {e : String × α}
    (h : e ∈ erase m key) : e ∈ m := (List.mem_filter.mp h).1

theorem get?_mapValues (f : α → β) (m : Keyed α) (key : String) :
    get? (mapValues f m) key = (get? m key).map f := by
  induction m with
  | nil => rfl
  | cons e rest ih =>
    obtain ⟨k, v⟩ := e
    by_cases h : k = key
    · simp [mapValues, get?, h]
    · simpa [mapValues, get?, h] using ih

theorem nodup_keys_erase {m : Keyed α} (h : (keys m).Nodup) (key : String) :
    (keys (erase m key)).Nodup := h.sublist (List.filter_sublist.map Prod.fst)

theorem putAll_append (m first second : Keyed α) :
    putAll m (first ++ second) = putAll (putAll m first) second := by
  induction first generalizing m with
  | nil => rfl
  | cons e rest ih => exact ih _

theorem get?_putAll (m : Keyed α) {entries : Keyed α} (distinct : (keys entries).Nodup)
    (key : String) : get? (putAll m entries) key = (get? entries key).or (get? m key) := by
  induction entries generalizing m with
  | nil => rfl
  | cons e rest ih =>
    obtain ⟨k, v⟩ := e
    obtain ⟨fresh, distinct⟩ := List.nodup_cons.mp distinct
    rw [putAll, ih _ distinct]
    by_cases h : k = key
    · subst h
      simp [get?, get?_put_self, get?_eq_none fresh]
    · simp [get?, h, get?_put_of_ne _ _ (Ne.symm h)]

theorem length_erase_lt (m : Keyed α) {key : String} (h : has m key = true) :
    (erase m key).length < m.length := by
  obtain ⟨e, member, same⟩ := List.mem_map.mp ((has_iff_mem_keys m key).mp h)
  exact List.length_filter_lt_length_iff_exists.mpr ⟨e, member, by simp [same]⟩

end Keyed

end MadeToOrder
