/-!
# Sets of ids

A set of texts as a list without repetition, in the order in which its members
first came. What an answer shows of a set does not depend on that order.
-/

set_option autoImplicit false

namespace MadeToOrder

abbrev IdSet := List String

namespace IdSet

def add (s : IdSet) (id : String) : IdSet := if id ∈ s then s else s ++ [id]

def union : IdSet → List String → IdSet
  | s, [] => s
  | s, id :: rest => union (add s id) rest

def ofList (ids : List String) : IdSet := union [] ids

def inter (s other : IdSet) : IdSet := s.filter (fun id => id ∈ other)

def diff (s other : IdSet) : IdSet := s.filter (fun id => id ∉ other)

theorem mem_add (s : IdSet) (id x : String) : x ∈ add s id ↔ x ∈ s ∨ x = id := by
  unfold add
  split
  · rename_i member
    constructor
    · exact Or.inl
    · rintro (h | rfl)
      · exact h
      · exact member
  · simp

theorem mem_union (s : IdSet) (ids : List String) (x : String) :
    x ∈ union s ids ↔ x ∈ s ∨ x ∈ ids := by
  induction ids generalizing s with
  | nil => simp [union]
  | cons id rest ih => simp [union, ih, mem_add, or_assoc]

theorem mem_ofList (ids : List String) (x : String) : x ∈ ofList ids ↔ x ∈ ids := by
  simp [ofList, mem_union]

theorem mem_inter (s other : IdSet) (x : String) : x ∈ inter s other ↔ x ∈ s ∧ x ∈ other := by
  simp [inter]

theorem mem_diff (s other : IdSet) (x : String) : x ∈ diff s other ↔ x ∈ s ∧ x ∉ other := by
  simp [diff]

theorem nodup_add {s : IdSet} (h : s.Nodup) (id : String) : (add s id).Nodup := by
  unfold add
  split
  · exact h
  · rename_i fresh
    rw [List.nodup_append]
    refine ⟨h, by simp, ?_⟩
    intro a ha b hb
    rw [List.mem_singleton] at hb
    subst hb
    intro same
    exact fresh (same ▸ ha)

theorem nodup_union {s : IdSet} (h : s.Nodup) (ids : List String) : (union s ids).Nodup := by
  induction ids generalizing s with
  | nil => exact h
  | cons id rest ih => exact ih (nodup_add h id)

theorem nodup_ofList (ids : List String) : (ofList ids).Nodup := nodup_union List.nodup_nil ids

end IdSet

end MadeToOrder
