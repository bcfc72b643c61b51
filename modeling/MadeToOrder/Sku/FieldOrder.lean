import MadeToOrder.Catalog.Snapshot

/-!
# The order of code fields

The enabled entries of a field order, by position, say which field each segment
of a code stands for. An order is sound when no two enabled entries share a
position or a collection.
-/

set_option autoImplicit false

namespace MadeToOrder.Sku

def enabledOrder (entries : List CodeField) : Except Fault (List CodeField) := do
  let ordered ← CodeField.enabledInOrder entries
  if ordered.isEmpty then .error .noFieldOrder else return ordered

theorem enabledOrder_ne_nil {entries ordered : List CodeField}
    (h : enabledOrder entries = .ok ordered) : ordered ≠ [] := by
  obtain ⟨sorted, _, kept⟩ := bind_eq_ok.mp h
  rintro rfl
  cases sorted with
  | nil => simp at kept
  | cons entry rest => simp [pure, Except.pure] at kept

/-- Integer positions give an order as soon as one entry is enabled. -/
theorem exists_enabledOrder {entries : List CodeField}
    (integers : ∀ e ∈ entries, ∃ i, e.order = .int i)
    (enabled : ∃ e ∈ entries, e.enabled.truthy = true) :
    ∃ ordered, enabledOrder entries = .ok ordered := by
  let kept := entries.filter (fun f => f.enabled.truthy)
  have integer : ∀ e ∈ kept, ∃ i, e.order = .int i :=
    fun e member => integers e (List.mem_filter.mp member).1
  have plain : kept.all (fun e => e.order.isOrdered) = true := by
    rw [List.all_eq_true]
    intro e member
    obtain ⟨i, position⟩ := integer e member
    simp [position, Value.isOrdered, Value.isNaN]
  obtain ⟨sorted, found⟩ := @Sorting.exists_sort? CodeField (fun a b => a.order.less? b.order) kept
    (by
      intro a first b second
      obtain ⟨i, left⟩ := integer a first
      obtain ⟨j, right⟩ := integer b second
      simp [left, right, Value.less?_int])
  have inOrder : CodeField.enabledInOrder entries = .ok sorted := by
    simp only [CodeField.enabledInOrder, CodeField.inOrder, Snapshot.inOrderOf]
    rw [if_pos plain, found]
  obtain ⟨e, member, active⟩ := enabled
  have listed : e ∈ sorted :=
    (Sorting.sort?_perm found).mem_iff.mpr (List.mem_filter.mpr ⟨member, active⟩)
  refine ⟨sorted, ?_⟩
  simp [enabledOrder, inOrder, List.ne_nil_of_mem listed, bind, Except.bind, pure, Except.pure]

def sharing? (entry : CodeField) (earlier : List CodeField) : Option CodeField :=
  earlier.find? (fun other => other.order.agrees entry.order)

def positionProblem (earlier : List CodeField) (entry : CodeField) : List String :=
  match sharing? entry earlier with
  | some other =>
    [s!"Position {entry.order.plain} is used by both '{other.collection}' and '{entry.collection}'"]
  | none => []

def collectionProblem (earlier : List CodeField) (entry : CodeField) : List String :=
  if entry.collection ∈ earlier.map CodeField.collection then
    [s!"Collection '{entry.collection}' appears more than once"]
  else []

def problemsAfter (earlier : List CodeField) : List CodeField → List String
  | [] => []
  | entry :: rest =>
    positionProblem earlier entry ++ collectionProblem earlier entry ++
      problemsAfter (earlier ++ [entry]) rest

def problems (entries : List CodeField) : List String :=
  problemsAfter [] (entries.filter (fun f => f.enabled.truthy))

def check (entries : List CodeField) : Except Fault (List String) :=
  match entries.find? (fun f => f.enabled.truthy && !f.order.isHashable) with
  | some f => .error (.unhashable f.order.kind)
  | none => .ok (problems entries)

end MadeToOrder.Sku
