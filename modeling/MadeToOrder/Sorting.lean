/-!
# Stable sorting

Insertion sort by a Boolean order. Items that may stand in either order keep
their order. Sorting by a partial comparison is refused when two of the items
cannot be compared. A comparison that is no order leaves the result to the way
of sorting: the run at the front stays, and every later item is put into place
by halving.
-/

set_option autoImplicit false

namespace MadeToOrder.Sorting

universe u

variable {α : Type u}

def insert (le : α → α → Bool) (x : α) : List α → List α
  | [] => [x]
  | y :: rest => if le x y then x :: y :: rest else y :: insert le x rest

def sort (le : α → α → Bool) : List α → List α
  | [] => []
  | x :: rest => insert le x (sort le rest)

def comparable (less? : α → α → Option Bool) : List α → Bool
  | [] => true
  | x :: rest => rest.all (fun y => (less? x y).isSome) && comparable less? rest

def sort? (less? : α → α → Option Bool) (xs : List α) : Option (List α) :=
  if comparable less? xs then some (sort (fun x y => less? y x != some true) xs) else none

/-- How many of the items behind `low` and before `high` go before a new item,
found by comparing it with the one in the middle. -/
def placeBetween (less? : α → α → Option Bool) (x : α) (xs : List α) (low high : Nat) :
    Option Nat :=
  if low < high then
    match xs[low + (high - low) / 2]? with
    | none => some low
    | some y =>
      match less? x y with
      | none => none
      | some true => placeBetween less? x xs low (low + (high - low) / 2)
      | some false => placeBetween less? x xs (low + (high - low) / 2 + 1) high
  else some low
termination_by high - low

def insertByHalving (less? : α → α → Option Bool) (xs : List α) (x : α) : Option (List α) :=
  (placeBetween less? x xs 0 xs.length).map (fun n => xs.take n ++ x :: xs.drop n)

/-- The items behind `last` of which each one is less than the one before it, or
each one is not, and the other items. -/
def runBehind (less? : α → α → Option Bool) (falling : Bool) (last : α) :
    List α → Option (List α × List α)
  | [] => some ([], [])
  | y :: rest =>
    match less? y last with
    | none => none
    | some less =>
      if less == falling then
        (runBehind less? falling y rest).map (fun (run, others) => (y :: run, others))
      else some ([], y :: rest)

def frontRun (less? : α → α → Option Bool) : List α → Option (List α × List α)
  | x :: y :: rest =>
    match less? y x with
    | none => none
    | some falling =>
      (runBehind less? falling y rest).map (fun (run, others) =>
        (if falling then (x :: y :: run).reverse else x :: y :: run, others))
  | xs => some (xs, [])

def halved? (less? : α → α → Option Bool) (xs : List α) : Option (List α) :=
  match frontRun less? xs with
  | none => none
  | some (run, others) => others.foldlM (insertByHalving less?) run

theorem insert_perm (le : α → α → Bool) (x : α) (xs : List α) :
    (insert le x xs).Perm (x :: xs) := by
  induction xs with
  | nil => exact List.Perm.refl _
  | cons y rest ih =>
    by_cases h : le x y
    · simp [insert, h]
    · simp only [insert, h, Bool.false_eq_true, if_false]
      exact (List.Perm.cons y ih).trans (List.Perm.swap x y rest)

theorem sort_perm (le : α → α → Bool) (xs : List α) : (sort le xs).Perm xs := by
  induction xs with
  | nil => exact List.Perm.refl _
  | cons x rest ih => exact (insert_perm le x _).trans (List.Perm.cons x ih)

theorem mem_sort (le : α → α → Bool) (x : α) (xs : List α) : x ∈ sort le xs ↔ x ∈ xs :=
  (sort_perm le xs).mem_iff

theorem insert_map {β : Type u} {le : α → α → Bool} {le' : β → β → Bool} {f : α → β} {x : α}
    {ys : List α} (h : ∀ y ∈ ys, le' (f x) (f y) = le x y) :
    insert le' (f x) (ys.map f) = (insert le x ys).map f := by
  induction ys with
  | nil => rfl
  | cons y rest ih =>
    have others := ih (fun z member => h z (List.mem_cons_of_mem _ member))
    simp only [List.map_cons, insert, h y (by simp), others]
    split <;> rfl

/-- Sorting looks only at items in the order in which they stand, so two orders
that agree there sort alike. -/
theorem sort_map {β : Type u} {le : α → α → Bool} {le' : β → β → Bool} {f : α → β} {xs : List α}
    (h : xs.Pairwise (fun x y => le' (f x) (f y) = le x y)) :
    sort le' (xs.map f) = (sort le xs).map f := by
  induction xs with
  | nil => rfl
  | cons x rest ih =>
    obtain ⟨first, others⟩ := List.pairwise_cons.mp h
    rw [List.map_cons, sort, ih others, sort]
    exact insert_map (fun y member => first y ((mem_sort le y rest).mp member))

theorem pairwise_insert {le : α → α → Bool} {R : α → α → Prop}
    (trans : ∀ a b c, R a b → R b c → R a c) {x : α} {ys : List α}
    (h : ∀ y ∈ ys, if le x y then R x y else R y x) (sorted : ys.Pairwise R) :
    (insert le x ys).Pairwise R := by
  induction ys with
  | nil => simp [insert]
  | cons y rest ih =>
    obtain ⟨first, others⟩ := List.pairwise_cons.mp sorted
    have place := h y (by simp)
    by_cases before : le x y = true
    · rw [if_pos before] at place
      rw [insert, if_pos before, List.pairwise_cons]
      refine ⟨fun z member => ?_, sorted⟩
      rcases List.mem_cons.mp member with rfl | later
      · exact place
      · exact trans x y z place (first z later)
    · rw [if_neg before] at place
      rw [insert, if_neg before, List.pairwise_cons]
      refine ⟨fun z member => ?_, ih (fun z later => h z (by simp [later])) others⟩
      rcases List.mem_cons.mp ((insert_perm le x rest).mem_iff.mp member) with rfl | later
      · exact place
      · exact first z later

/-- Sorting arranges the items by a relation that the order decides for items in
the places where they stand. -/
theorem pairwise_sort {le : α → α → Bool} {R : α → α → Prop}
    (trans : ∀ a b c, R a b → R b c → R a c) {xs : List α}
    (h : xs.Pairwise (fun x y => if le x y then R x y else R y x)) : (sort le xs).Pairwise R := by
  induction xs with
  | nil => exact List.Pairwise.nil
  | cons x rest ih =>
    obtain ⟨first, others⟩ := List.pairwise_cons.mp h
    exact pairwise_insert trans (fun y member => first y ((mem_sort le y rest).mp member))
      (ih others)

/-- Two lists of the same items sort alike where the order tells every two items apart. -/
theorem sort_eq_of_perm {le : α → α → Bool} {R : α → α → Prop}
    (trans : ∀ a b c, R a b → R b c → R a c) {xs ys : List α}
    (antisymm : ∀ a ∈ xs, ∀ b ∈ xs, R a b → R b a → a = b) (perm : xs.Perm ys)
    (h : xs.Pairwise (fun x y => if le x y then R x y else R y x))
    (h' : ys.Pairwise (fun x y => if le x y then R x y else R y x)) : sort le xs = sort le ys := by
  have same : (sort le xs).Perm (sort le ys) :=
    (sort_perm le xs).trans (perm.trans (sort_perm le ys).symm)
  apply List.Perm.eq_of_pairwise _ (pairwise_sort trans h) (pairwise_sort trans h') same
  intro a b first second before behind
  apply antisymm a ((mem_sort le a xs).mp first) b _ before behind
  exact perm.mem_iff.mpr ((mem_sort le b ys).mp second)

theorem comparable_iff_pairwise {less? : α → α → Option Bool} {xs : List α} :
    comparable less? xs = true ↔ xs.Pairwise (fun x y => (less? x y).isSome = true) := by
  induction xs with
  | nil => simp [comparable]
  | cons x rest ih => rw [comparable, Bool.and_eq_true, List.all_eq_true, ih, List.pairwise_cons]

/-- Items are sorted if every two of them can be compared. -/
theorem exists_sort? {less? : α → α → Option Bool} {xs : List α}
    (h : ∀ x ∈ xs, ∀ y ∈ xs, (less? x y).isSome = true) :
    ∃ sorted, sort? less? xs = some sorted :=
  ⟨_, if_pos (comparable_iff_pairwise.mpr (List.pairwise_of_forall_mem_list h))⟩

theorem sort?_perm {less? : α → α → Option Bool} {xs sorted : List α}
    (h : sort? less? xs = some sorted) : sorted.Perm xs := by
  unfold sort? at h
  split at h
  · obtain rfl := Option.some.inj h
    exact sort_perm _ xs
  · simp at h

theorem insertByHalving_perm {less? : α → α → Option Bool} {x : α} {xs placed : List α}
    (h : insertByHalving less? xs x = some placed) : placed.Perm (x :: xs) := by
  obtain ⟨n, _, rfl⟩ := Option.map_eq_some_iff.mp h
  have moved := @List.perm_middle α x (xs.take n) (xs.drop n)
  rwa [List.take_append_drop] at moved

theorem foldlM_insertByHalving_perm {less? : α → α → Option Bool} {others run placed : List α}
    (h : others.foldlM (insertByHalving less?) run = some placed) :
    placed.Perm (run ++ others) := by
  induction others generalizing run with
  | nil =>
    obtain rfl : run = placed := by simpa using h
    simp
  | cons x rest ih =>
    rw [List.foldlM_cons] at h
    obtain ⟨next, inserted, h⟩ := Option.bind_eq_some_iff.mp h
    have moved := (insertByHalving_perm inserted).append_right rest
    exact (ih h).trans (moved.trans List.perm_middle.symm)

theorem runBehind_append {less? : α → α → Option Bool} {falling : Bool} {last : α}
    {xs run others : List α} (h : runBehind less? falling last xs = some (run, others)) :
    run ++ others = xs := by
  induction xs generalizing last run with
  | nil =>
    simp only [runBehind, Option.some.injEq, Prod.mk.injEq] at h
    simp [← h.1, ← h.2]
  | cons y rest ih =>
    unfold runBehind at h
    split at h
    · simp at h
    · split at h
      · obtain ⟨⟨longer, others⟩, found, same⟩ := Option.map_eq_some_iff.mp h
        simp only [Prod.mk.injEq] at same
        obtain ⟨rfl, rfl⟩ := same
        simp [ih found]
      · simp only [Option.some.injEq, Prod.mk.injEq] at h
        simp [← h.1, ← h.2]

theorem frontRun_perm {less? : α → α → Option Bool} {xs run others : List α}
    (h : frontRun less? xs = some (run, others)) : (run ++ others).Perm xs := by
  match xs with
  | [] =>
    simp only [frontRun, Option.some.injEq, Prod.mk.injEq] at h
    simp [← h.1, ← h.2]
  | [x] =>
    simp only [frontRun, Option.some.injEq, Prod.mk.injEq] at h
    simp [← h.1, ← h.2]
  | x :: y :: rest =>
    cases compared : less? y x with
    | none => simp [frontRun, compared] at h
    | some falling =>
      simp only [frontRun, compared] at h
      obtain ⟨⟨longer, others⟩, found, same⟩ := Option.map_eq_some_iff.mp h
      simp only [Prod.mk.injEq] at same
      obtain ⟨rfl, rfl⟩ := same
      have whole : x :: y :: longer ++ others = x :: y :: rest := by
        simp [runBehind_append found]
      rw [← whole]
      split
      · exact (List.reverse_perm _).append_right others
      · exact List.Perm.refl _

theorem halved?_perm {less? : α → α → Option Bool} {xs sorted : List α}
    (h : halved? less? xs = some sorted) : sorted.Perm xs := by
  unfold halved? at h
  split at h
  · simp at h
  · rename_i front
    exact (foldlM_insertByHalving_perm h).trans (frontRun_perm front)

theorem exists_placeBetween {less? : α → α → Option Bool} {x : α} {xs : List α}
    (h : ∀ y ∈ xs, (less? x y).isSome = true) (low high : Nat) :
    ∃ n, placeBetween less? x xs low high = some n := by
  fun_induction placeBetween less? x xs low high with
  | case1 low high _ _ => exact ⟨low, rfl⟩
  | case2 low high _ y found refused =>
    have compared := h y (List.mem_of_getElem? found)
    rw [refused] at compared
    cases compared
  | case3 low high _ y _ _ ih => exact ih
  | case4 low high _ y _ _ ih => exact ih
  | case5 low high _ => exact ⟨low, rfl⟩

theorem exists_foldlM_insertByHalving {less? : α → α → Option Bool} {others run : List α}
    (h : ∀ x ∈ run ++ others, ∀ y ∈ run ++ others, (less? x y).isSome = true) :
    ∃ placed, others.foldlM (insertByHalving less?) run = some placed := by
  induction others generalizing run with
  | nil => exact ⟨run, rfl⟩
  | cons x rest ih =>
    have placed : ∀ y ∈ run, (less? x y).isSome = true :=
      fun y member => h x (by simp) y (by simp [member])
    obtain ⟨n, place⟩ := exists_placeBetween placed 0 run.length
    have inserted : insertByHalving less? run x = some (run.take n ++ x :: run.drop n) := by
      simp [insertByHalving, place]
    have moved : (run.take n ++ x :: run.drop n ++ rest).Perm (run ++ x :: rest) :=
      ((insertByHalving_perm inserted).append_right rest).trans List.perm_middle.symm
    rw [List.foldlM_cons, inserted]
    apply ih
    intro y first z second
    exact h y (moved.mem_iff.mp first) z (moved.mem_iff.mp second)

theorem exists_runBehind {less? : α → α → Option Bool} {falling : Bool} {last : α} {xs : List α}
    (h : ∀ x ∈ last :: xs, ∀ y ∈ last :: xs, (less? x y).isSome = true) :
    ∃ r, runBehind less? falling last xs = some r := by
  induction xs generalizing last with
  | nil => exact ⟨_, rfl⟩
  | cons y rest ih =>
    obtain ⟨less, compared⟩ := Option.isSome_iff_exists.mp (h y (by simp) last (by simp))
    unfold runBehind
    rw [compared]
    dsimp only
    split
    · have others : ∀ a ∈ y :: rest, ∀ b ∈ y :: rest, (less? a b).isSome = true :=
        fun a first b second => h a (List.mem_cons_of_mem _ first) b (List.mem_cons_of_mem _ second)
      obtain ⟨r, found⟩ := ih others
      rw [found]
      exact ⟨_, rfl⟩
    · exact ⟨_, rfl⟩

/-- Halving puts all items into place if every two of them can be compared. -/
theorem exists_halved? {less? : α → α → Option Bool} {xs : List α}
    (h : ∀ x ∈ xs, ∀ y ∈ xs, (less? x y).isSome = true) :
    ∃ sorted, halved? less? xs = some sorted := by
  have front : ∃ r, frontRun less? xs = some r := by
    match xs, h with
    | [], _ => exact ⟨_, rfl⟩
    | [x], _ => exact ⟨_, rfl⟩
    | x :: y :: rest, h =>
      obtain ⟨falling, compared⟩ := Option.isSome_iff_exists.mp (h y (by simp) x (by simp))
      have others : ∀ a ∈ y :: rest, ∀ b ∈ y :: rest, (less? a b).isSome = true :=
        fun a first b second => h a (List.mem_cons_of_mem _ first) b (List.mem_cons_of_mem _ second)
      obtain ⟨r, found⟩ : ∃ r, runBehind less? falling y rest = some r := exists_runBehind others
      simp only [frontRun, compared, found]
      exact ⟨_, rfl⟩
  obtain ⟨⟨run, others⟩, found⟩ := front
  have moved := frontRun_perm found
  unfold halved?
  rw [found]
  apply exists_foldlM_insertByHalving
  intro x first y second
  exact h x (moved.mem_iff.mp first) y (moved.mem_iff.mp second)

end MadeToOrder.Sorting
