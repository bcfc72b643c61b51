import Mathlib.Data.List.Forall2
import Mathlib.Data.List.Perm.Basic
import MadeToOrder.Fault

/-!
# Traversals and pairs of runs

Going through a list with work that may fail gives a result for every item, in the
order of the items, so rearranged items give rearranged results. Two runs side by
side meet the same fault or give related results; where they go through their items in
different orders, the faults are only of the same category.
-/

set_option autoImplicit false

namespace MadeToOrder

universe u

variable {ε : Type u} {α β : Type} {f : α → Except ε β} {xs : List α} {ys : List β}

theorem mapM_eq_ok_iff :
    xs.mapM f = .ok ys ↔ List.Forall₂ (fun x y => f x = .ok y) xs ys := by
  induction xs generalizing ys with
  | nil => simp [List.forall₂_nil_left_iff, pure, Except.pure, eq_comm]
  | cons x rest ih =>
    rw [List.mapM_cons, List.forall₂_cons_left_iff]
    simp only [← ih]
    cases f x with
    | error defect => simp [bind, Except.bind]
    | ok y => cases rest.mapM f <;> simp [bind, Except.bind, pure, Except.pure, eq_comm]

theorem mapM_cons_eq_ok {x : α} {y : β} (first : f x = .ok y) (later : xs.mapM f = .ok ys) :
    (x :: xs).mapM f = .ok (y :: ys) :=
  mapM_eq_ok_iff.mpr (.cons first (mapM_eq_ok_iff.mp later))

theorem exists_mapM_eq_ok :
    (∃ ys, xs.mapM f = .ok ys) ↔ ∀ x ∈ xs, ∃ y, f x = .ok y := by
  simp only [mapM_eq_ok_iff]
  induction xs with
  | nil => simp
  | cons x rest ih => simp [List.forall₂_cons_left_iff, ← ih]

theorem exists_map_mapM_eq_ok {γ : Type} {join : List β → γ} :
    (∃ z, (xs.mapM f).map join = .ok z) ↔ ∀ x ∈ xs, ∃ y, f x = .ok y := by
  rw [← exists_mapM_eq_ok]
  cases xs.mapM f <;> simp [Except.map]

theorem mem_iff_of_mapM (h : xs.mapM f = .ok ys) {y : β} :
    y ∈ ys ↔ ∃ x ∈ xs, f x = .ok y := by
  have results := mapM_eq_ok_iff.mp h
  clear h
  induction results with
  | nil => simp
  | cons first _ ih => simp [ih, first, eq_comm]

theorem exists_mapM_of_perm {xs' : List α} (perm : xs.Perm xs') (h : xs.mapM f = .ok ys) :
    ∃ ys', xs'.mapM f = .ok ys' ∧ ys.Perm ys' := by
  obtain ⟨ys', results, moved⟩ := List.perm_comp_forall₂ perm.symm (mapM_eq_ok_iff.mp h)
  exact ⟨ys', mapM_eq_ok_iff.mpr results, moved.symm⟩

theorem perm_of_mapM {xs' : List α} {ys' : List β} (perm : xs.Perm xs')
    (h : xs.mapM f = .ok ys) (h' : xs'.mapM f = .ok ys') : ys.Perm ys' := by
  obtain ⟨others, same, moved⟩ := exists_mapM_of_perm perm h
  obtain rfl := Except.ok.inj (h'.symm.trans same)
  exact moved

/-- What holds between any two items holds between what they give. -/
theorem pairwise_of_mapM {R : α → α → Prop} {Q : β → β → Prop} (h : xs.mapM f = .ok ys)
    (pairwise : xs.Pairwise R)
    (given : ∀ x x' y y', f x = .ok y → f x' = .ok y' → R x x' → Q y y') : ys.Pairwise Q := by
  induction xs generalizing ys with
  | nil =>
    obtain rfl := List.forall₂_nil_left_iff.mp (mapM_eq_ok_iff.mp h)
    exact .nil
  | cons x rest ih =>
    obtain ⟨y, others, first, later, rfl⟩ := List.forall₂_cons_left_iff.mp (mapM_eq_ok_iff.mp h)
    obtain ⟨here, behind⟩ := List.pairwise_cons.mp pairwise
    have later := mapM_eq_ok_iff.mpr later
    apply List.pairwise_cons.mpr
    refine ⟨fun y' member => ?_, ih later behind⟩
    obtain ⟨x', listed, result⟩ := (mem_iff_of_mapM later).mp member
    exact given x x' y y' first result (here x' listed)

theorem forall₂_of_mapM {α' β' : Type} {f' : α' → Except ε β'} {xs' : List α'} {ys' : List β'}
    {R : α → α' → Prop} {Q : β → β' → Prop} (related : List.Forall₂ R xs xs')
    (h : xs.mapM f = .ok ys) (h' : xs'.mapM f' = .ok ys')
    (given : ∀ x x' y y', R x x' → f x = .ok y → f' x' = .ok y' → Q y y') :
    List.Forall₂ Q ys ys' := by
  induction related generalizing ys ys' with
  | nil =>
    obtain rfl := List.forall₂_nil_left_iff.mp (mapM_eq_ok_iff.mp h)
    obtain rfl := List.forall₂_nil_left_iff.mp (mapM_eq_ok_iff.mp h')
    exact .nil
  | cons here _ ih =>
    obtain ⟨y, _, first, later, rfl⟩ := List.forall₂_cons_left_iff.mp (mapM_eq_ok_iff.mp h)
    obtain ⟨y', _, first', later', rfl⟩ := List.forall₂_cons_left_iff.mp (mapM_eq_ok_iff.mp h')
    exact .cons (given _ _ y y' here first first')
      (ih (mapM_eq_ok_iff.mpr later) (mapM_eq_ok_iff.mpr later'))

theorem mapM_bind_eq_ok {γ : Type} {g : β → Except ε γ} {zs : List γ} (h : xs.mapM f = .ok ys)
    (next : ys.mapM g = .ok zs) : xs.mapM (fun x => f x >>= g) = .ok zs := by
  induction xs generalizing ys zs with
  | nil =>
    obtain rfl := List.forall₂_nil_left_iff.mp (mapM_eq_ok_iff.mp h)
    exact next
  | cons x rest ih =>
    obtain ⟨y, _, first, later, rfl⟩ := List.forall₂_cons_left_iff.mp (mapM_eq_ok_iff.mp h)
    obtain ⟨z, _, second, last, rfl⟩ := List.forall₂_cons_left_iff.mp (mapM_eq_ok_iff.mp next)
    apply mapM_cons_eq_ok
    · rw [first]
      exact second
    · exact ih (mapM_eq_ok_iff.mpr later) (mapM_eq_ok_iff.mpr last)

/-- The same fault, or results that are related. -/
inductive Paired {α β : Type} (R : α → β → Prop) : Except Fault α → Except Fault β → Prop
  | ok {a : α} {b : β} (related : R a b) : Paired R (.ok a) (.ok b)
  | error (fault : Fault) : Paired R (.error fault) (.error fault)

namespace Paired

variable {α β γ δ : Type} {R : α → β → Prop} {Q : γ → δ → Prop} {first : Except Fault α}
  {second : Except Fault β}

theorem bind {next : α → Except Fault γ} {next' : β → Except Fault δ}
    (h : Paired R first second) (later : ∀ a b, R a b → Paired Q (next a) (next' b)) :
    Paired Q (first >>= next) (second >>= next') := by
  cases h with
  | ok related => exact later _ _ related
  | error fault => exact .error fault

theorem map {f : α → γ} {g : β → δ} (h : Paired R first second)
    (related : ∀ a b, R a b → Q (f a) (g b)) : Paired Q (first.map f) (second.map g) := by
  cases h with
  | ok both => exact .ok (related _ _ both)
  | error fault => exact .error fault

theorem related {a : α} {b : β} (h : Paired R first second) (here : first = .ok a)
    (there : second = .ok b) : R a b := by
  cases h with
  | ok related =>
    obtain rfl := Except.ok.inj here
    obtain rfl := Except.ok.inj there
    exact related
  | error fault => cases here

theorem refl (work : Except Fault α) : Paired Eq work work := by
  cases work with
  | ok a => exact .ok rfl
  | error fault => exact .error fault

theorem eq {first second : Except Fault α} (h : Paired Eq first second) : first = second := by
  cases h with
  | ok related => rw [related]
  | error fault => rfl

theorem exists_ok {a : α} (h : Paired R (.ok a) second) : ∃ b, second = .ok b ∧ R a b := by
  cases h with
  | ok related => exact ⟨_, rfl, related⟩

theorem eq_error {fault : Fault} (h : Paired R (.error fault) second) :
    second = .error fault := by
  cases h with
  | error => rfl

end Paired

/-- Faults of one category, or results that are related. -/
inductive InStep {α β : Type} (R : α → β → Prop) : Except Fault α → Except Fault β → Prop
  | ok {a : α} {b : β} (related : R a b) : InStep R (.ok a) (.ok b)
  | error {fault fault' : Fault} (alike : fault.category = fault'.category) :
    InStep R (.error fault) (.error fault')

namespace InStep

variable {α β γ δ : Type} {R : α → β → Prop} {Q : γ → δ → Prop} {first : Except Fault α}
  {second : Except Fault β}

theorem refl (work : Except Fault α) : InStep Eq work work := by
  cases work with
  | ok a => exact .ok rfl
  | error fault => exact .error rfl

theorem bind {next : α → Except Fault γ} {next' : β → Except Fault δ}
    (h : InStep R first second) (later : ∀ a b, R a b → InStep Q (next a) (next' b)) :
    InStep Q (first >>= next) (second >>= next') := by
  cases h with
  | ok related => exact later _ _ related
  | error alike => exact .error alike

theorem map {f : α → γ} {g : β → δ} (h : InStep R first second)
    (related : ∀ a b, R a b → Q (f a) (g b)) : InStep Q (first.map f) (second.map g) := by
  cases h with
  | ok both => exact .ok (related _ _ both)
  | error alike => exact .error alike

theorem imp {Q : α → β → Prop} (h : InStep R first second)
    (more : ∀ a b, first = .ok a → second = .ok b → R a b → Q a b) :
    InStep Q first second := by
  cases h with
  | ok related => exact .ok (more _ _ rfl rfl related)
  | error alike => exact .error alike

theorem exists_ok {a : α} (h : InStep R (.ok a) second) : ∃ b, second = .ok b ∧ R a b := by
  cases h with
  | ok related => exact ⟨_, rfl, related⟩

theorem exists_error {fault : Fault} (h : InStep R (.error fault) second) :
    ∃ fault', second = .error fault' ∧ fault.category = fault'.category := by
  cases h with
  | error alike => exact ⟨_, rfl, alike⟩

/-- Items in another order are read as the same results in another order, if all that can
stop the reading is of one category. -/
theorem mapM_of_perm {f : α → Except Fault β} {xs xs' : List α} {category : String}
    (perm : xs.Perm xs')
    (stops : ∀ x ∈ xs, FailsOnly (fun fault => fault.category = category) (f x)) :
    InStep List.Perm (xs.mapM f) (xs'.mapM f) := by
  have stops' : ∀ x ∈ xs', FailsOnly (fun fault => fault.category = category) (f x) :=
    fun x member => stops x (perm.mem_iff.mpr member)
  cases here : xs.mapM f with
  | ok ys =>
    obtain ⟨ys', there, moved⟩ := exists_mapM_of_perm perm here
    rw [there]
    exact .ok moved
  | error fault =>
    cases there : xs'.mapM f with
    | ok ys' =>
      obtain ⟨ys, found, _⟩ := exists_mapM_of_perm perm.symm there
      rw [here] at found
      cases found
    | error fault' =>
      apply error
      exact (FailsOnly.mapM stops fault here).trans (FailsOnly.mapM stops' fault' there).symm

end InStep

end MadeToOrder
