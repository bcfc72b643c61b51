import MadeToOrder.Catalog.Snapshot

/-!
# The snapshot in use

A store keeps the last good snapshot. Every refresh and every install takes a
generation number; a refresh that ends after a newer snapshot was installed is
discarded, and one that fails leaves the snapshot in use, which is then stale.
A refresh is two steps, its begin and its end, so others may come between.
-/

set_option autoImplicit false

namespace MadeToOrder

structure Store where
  snapshot : Option Snapshot
  generation : Nat
  installed : Nat

inductive Fetched where
  | built (s : Snapshot)
  | timedOut (limit : Value)
  | failed (fault : Fault)

structure Refreshed where
  snapshot : Snapshot
  stale : Bool
  error : Option String

namespace Store

def empty : Store := ⟨none, 0, 0⟩

def install (store : Store) (s : Snapshot) : Store :=
  ⟨some s, store.generation + 1, store.generation + 1⟩

def begin (store : Store) : Store × Nat :=
  ({ store with generation := store.generation + 1 }, store.generation + 1)

def fallback (store : Store) (error : String) : Except Fault Refreshed :=
  match store.snapshot with
  | some s => .ok ⟨s, true, some error⟩
  | none => .error (.unavailable error)

def finish (store : Store) (generation : Nat) : Fetched → Store × Except Fault Refreshed
  | .built s =>
    match store.snapshot with
    | some newer =>
      if generation < store.installed then (store, .ok ⟨newer, false, none⟩)
      else (⟨some s, store.generation, generation⟩, .ok ⟨s, false, none⟩)
    | none => (⟨some s, store.generation, generation⟩, .ok ⟨s, false, none⟩)
  | .timedOut limit => (store, store.fallback s!"Catalog refresh timed out after {limit.plain}s")
  | .failed (.unavailable reason) => (store, store.fallback reason)
  | .failed fault =>
    if fault.isDomain then (store, .error fault)
    else (store, store.fallback s!"Catalog refresh failed: {fault.category}: {fault.message}")

/-- A snapshot is discarded for a newer one, and kept otherwise. -/
theorem finish_built (store : Store) (generation : Nat) (s : Snapshot) :
    (∃ newer, store.snapshot = some newer ∧ generation < store.installed ∧
      store.finish generation (.built s) = (store, .ok ⟨newer, false, none⟩)) ∨
    (store.snapshot = none ∨ store.installed ≤ generation) ∧
      store.finish generation (.built s) =
        (⟨some s, store.generation, generation⟩, .ok ⟨s, false, none⟩) := by
  unfold finish
  cases stored : store.snapshot with
  | none => exact Or.inr ⟨Or.inl rfl, rfl⟩
  | some newer =>
    by_cases older : generation < store.installed
    · exact Or.inl ⟨newer, rfl, older, if_pos older⟩
    · exact Or.inr ⟨Or.inr (Nat.le_of_not_lt older), if_neg older⟩

variable {store : Store} {generation : Nat}

theorem finish_of_not_built {fetched : Fetched} (h : ∀ s, fetched ≠ .built s) :
    (store.finish generation fetched).1 = store := by
  cases fetched with
  | built s => exact absurd rfl (h s)
  | timedOut limit => rfl
  | failed fault => cases fault <;> rfl

theorem generation_finish (fetched : Fetched) :
    (store.finish generation fetched).1.generation = store.generation := by
  cases fetched with
  | built s =>
    rcases finish_built store generation s with
      ⟨newer, _, _, same⟩ | ⟨_, same⟩ <;> rw [same]
  | timedOut limit => rfl
  | failed fault => rw [finish_of_not_built (fun s => by simp)]

end Store

end MadeToOrder
