import MadeToOrder.Proofs.Condition.Meaning
import MadeToOrder.Rule.Actions

/-!
# What action maps assign

The leaves of an action map are the values of its fields that are no objects, and what
its wrappers hold. Each leaf has a position in the document and the names of the fields
around it. Flattening accepts the well-formed maps and no others. It gives one
assignment for each leaf, in the order of the positions, under the names joined by
underscores.
-/

set_option autoImplicit false

namespace MadeToOrder.Rule

open Condition (isReserved isReserved_logical)

mutual

inductive IsActionMap : Value → Prop
  | null : IsActionMap .null
  | object {fields : List (String × Value)} (entries : ∀ f ∈ fields, IsAction f.1 f.2) :
    IsActionMap (.object fields)

/-- A key of an action map may hold the value. -/
inductive IsAction : String → Value → Prop
  | logical {key : String} {items : List Value} (named : key = "_and" ∨ key = "_or")
    (parts : ∀ v ∈ items, IsActionMap v) : IsAction key (.list items)
  | plain {key : String} {v : Value} (free : isReserved key = false)
    (noObject : v.kind ≠ .object) : IsAction key v
  | wrapper {key : String} {v : Value} (free : isReserved key = false) :
    IsAction key (.object [("_eq", v)])
  | nested {key : String} {fields : List (String × Value)} (free : isReserved key = false)
    (unwrapped : ∀ f ∈ fields, f.1 ≠ "_eq") (inner : IsActionMap (.object fields)) :
    IsAction key (.object fields)

end

/-- A place of a document where an action map assigns something. -/
structure Leaf where
  /-- The numbers of the entries and items that lead to it, the outermost first. -/
  position : List Nat
  /-- The names of the fields around it, the outermost first. -/
  names : List String
  value : Value

namespace Leaf

def under (i : Nat) (leaf : Leaf) : Leaf := { leaf with position := i :: leaf.position }

def within (key : String) (leaf : Leaf) : Leaf := { leaf with names := key :: leaf.names }

def assignment (path : String) (leaf : Leaf) : Assignment :=
  (path ++ "_".intercalate leaf.names, leaf.value)

end Leaf

mutual

/-- An action map has the leaf. -/
inductive HasLeaf : Value → Leaf → Prop
  | entry {fields : List (String × Value)} {i : Nat} {f : String × Value} {leaf : Leaf}
    (listed : fields[i]? = some f) (inner : HoldsLeaf f.1 f.2 leaf) :
    HasLeaf (.object fields) (leaf.under i)

inductive HoldsLeaf : String → Value → Leaf → Prop
  | plain {key : String} {v : Value} (free : isReserved key = false)
    (noObject : v.kind ≠ .object) : HoldsLeaf key v ⟨[], [key], v⟩
  | wrapper {key : String} {v : Value} (free : isReserved key = false) :
    HoldsLeaf key (.object [("_eq", v)]) ⟨[0], [key], v⟩
  | nested {key : String} {fields : List (String × Value)} {leaf : Leaf}
    (free : isReserved key = false) (unwrapped : ∀ f ∈ fields, f.1 ≠ "_eq")
    (inner : HasLeaf (.object fields) leaf) : HoldsLeaf key (.object fields) (leaf.within key)
  | logical {key : String} {items : List Value} {i : Nat} {v : Value} {leaf : Leaf}
    (named : key = "_and" ∨ key = "_or") (listed : items[i]? = some v)
    (inner : HasLeaf v leaf) : HoldsLeaf key (.list items) (leaf.under i)

end

section Shapes

variable {key : String} {v : Value} {items : List Value} {fields : List (String × Value)}
  {leaf : Leaf}

theorem isLogical_iff : isLogical key = true ↔ key = "_and" ∨ key = "_or" := by
  simp [isLogical]

theorem not_logical_of_free (free : isReserved key = false) : ¬(key = "_and" ∨ key = "_or") := by
  intro named
  rw [isReserved_logical named] at free
  cases free

theorem isActionMap_object : IsActionMap (.object fields) ↔ ∀ f ∈ fields, IsAction f.1 f.2 :=
  ⟨fun | .object entries => entries, .object⟩

theorem isAction_reserved (reserved : isReserved key = true) (action : IsAction key v) :
    (key = "_and" ∨ key = "_or") ∧ v.kind = .list := by
  cases action with
  | logical named _ => exact ⟨named, rfl⟩
  | plain free | wrapper free | nested free => simp [reserved] at free

theorem isAction_logical (named : key = "_and" ∨ key = "_or") :
    IsAction key (.list items) ↔ ∀ v ∈ items, IsActionMap v := by
  constructor
  · intro action
    cases action with
    | logical _ parts => exact parts
    | plain free => exact absurd named (not_logical_of_free free)
  · exact .logical named

theorem isAction_object (free : isReserved key = false) : IsAction key (.object fields) ↔
    (∃ v, fields = [("_eq", v)]) ∨
      (∀ f ∈ fields, f.1 ≠ "_eq") ∧ IsActionMap (.object fields) := by
  constructor
  · intro action
    cases action with
    | plain _ noObject => exact absurd rfl noObject
    | wrapper => exact Or.inl ⟨_, rfl⟩
    | nested _ unwrapped inner => exact Or.inr ⟨unwrapped, inner⟩
  · rintro (⟨v, rfl⟩ | ⟨unwrapped, inner⟩)
    · exact .wrapper free
    · exact .nested free unwrapped inner

theorem isAction_nested (free : isReserved key = false)
    (unwrapped : ∀ f ∈ fields, f.1 ≠ "_eq") :
    IsAction key (.object fields) ↔ IsActionMap (.object fields) := by
  rw [isAction_object free]
  constructor
  · rintro (⟨v, rfl⟩ | ⟨_, inner⟩)
    · exact absurd rfl (unwrapped _ List.mem_cons_self)
    · exact inner
  · exact fun inner => Or.inr ⟨unwrapped, inner⟩

theorem holdsLeaf_plain (free : isReserved key = false) (noObject : v.kind ≠ .object) :
    HoldsLeaf key v leaf ↔ leaf = ⟨[], [key], v⟩ := by
  constructor
  · intro holds
    cases holds with
    | plain => rfl
    | wrapper | nested => exact absurd rfl noObject
    | logical named => exact absurd named (not_logical_of_free free)
  · rintro rfl
    exact .plain free noObject

theorem holdsLeaf_wrapper (free : isReserved key = false) :
    HoldsLeaf key (.object [("_eq", v)]) leaf ↔ leaf = ⟨[0], [key], v⟩ := by
  constructor
  · intro holds
    cases holds with
    | plain _ noObject => exact absurd rfl noObject
    | wrapper => rfl
    | nested _ unwrapped => exact absurd rfl (unwrapped _ List.mem_cons_self)
  · rintro rfl
    exact .wrapper free

theorem holdsLeaf_nested (free : isReserved key = false)
    (unwrapped : ∀ f ∈ fields, f.1 ≠ "_eq") : HoldsLeaf key (.object fields) leaf ↔
      ∃ inner, HasLeaf (.object fields) inner ∧ leaf = inner.within key := by
  constructor
  · intro holds
    cases holds with
    | plain _ noObject => exact absurd rfl noObject
    | wrapper => exact absurd rfl (unwrapped _ List.mem_cons_self)
    | nested _ _ inner => exact ⟨_, inner, rfl⟩
  · rintro ⟨inner, has, rfl⟩
    exact .nested free unwrapped has

end Shapes

section Ordering

variable {α : Type} {path : String}

/-- The assignments are those of the leaves, one for each, in the order of the positions. -/
def Lists (path : String) (isLeaf : Leaf → Prop) (pairs : List Assignment) : Prop :=
  ∃ leaves : List Leaf, leaves.Pairwise (fun a b => a.position < b.position) ∧
    (∀ leaf, leaf ∈ leaves ↔ isLeaf leaf) ∧ pairs = leaves.map (Leaf.assignment path)

def Among (each : α → Leaf → Prop) (n : Nat) (xs : List α) (leaf : Leaf) : Prop :=
  ∃ i x inner, xs[i]? = some x ∧ each x inner ∧ leaf = inner.under (n + i)

variable {each : α → Leaf → Prop} {n : Nat} {x : α} {xs : List α} {leaf : Leaf}

theorem among_cons : Among each n (x :: xs) leaf ↔
    (∃ inner, each x inner ∧ leaf = inner.under n) ∨ Among each (n + 1) xs leaf := by
  constructor
  · rintro ⟨i, y, inner, listed, has, rfl⟩
    cases i with
    | zero =>
      obtain rfl := Option.some.inj listed
      exact Or.inl ⟨inner, has, rfl⟩
    | succ i =>
      refine Or.inr ⟨i, y, inner, listed, has, ?_⟩
      rw [Nat.add_right_comm, Nat.add_assoc]
  · rintro (⟨inner, has, rfl⟩ | ⟨i, y, inner, listed, has, rfl⟩)
    · exact ⟨0, x, inner, rfl, has, rfl⟩
    · refine ⟨i + 1, y, inner, listed, has, ?_⟩
      rw [Nat.add_right_comm, Nat.add_assoc]

theorem position_lt_of_among {first : Leaf} (h : Among each (n + 1) xs leaf) :
    (first.under n).position < leaf.position := by
  obtain ⟨i, y, inner, _, _, rfl⟩ := h
  exact List.cons_lt_cons_iff.mpr (Or.inl (by omega))

theorem hasLeaf_object {fields : List (String × Value)} :
    HasLeaf (.object fields) leaf ↔ Among (fun f => HoldsLeaf f.1 f.2) 0 fields leaf := by
  constructor
  · intro has
    cases has with
    | entry listed inner => exact ⟨_, _, _, listed, inner, by rw [Nat.zero_add]⟩
  · rintro ⟨i, f, inner, listed, holds, rfl⟩
    rw [Nat.zero_add]
    exact .entry listed holds

theorem holdsLeaf_logical {key : String} {items : List Value}
    (named : key = "_and" ∨ key = "_or") :
    HoldsLeaf key (.list items) leaf ↔ Among HasLeaf 0 items leaf := by
  constructor
  · intro holds
    cases holds with
    | plain free => exact absurd named (not_logical_of_free free)
    | logical _ listed inner => exact ⟨_, _, _, listed, inner, by rw [Nat.zero_add]⟩
  · rintro ⟨i, v, inner, listed, has, rfl⟩
    rw [Nat.zero_add]
    exact .logical named listed has

mutual

theorem HasLeaf.names_ne_nil {v : Value} {leaf : Leaf} : HasLeaf v leaf → leaf.names ≠ []
  | .entry _ inner => inner.names_ne_nil

theorem HoldsLeaf.names_ne_nil {key : String} {v : Value} {leaf : Leaf} :
    HoldsLeaf key v leaf → leaf.names ≠ []
  | .plain _ _ => List.cons_ne_nil _ _
  | .wrapper _ => List.cons_ne_nil _ _
  | .nested _ _ _ => List.cons_ne_nil _ _
  | .logical _ _ inner => inner.names_ne_nil

end

namespace Lists

variable {isLeaf isLeaf' : Leaf → Prop} {pairs : List Assignment}

theorem congr (h : Lists path isLeaf pairs) (same : ∀ leaf, isLeaf' leaf ↔ isLeaf leaf) :
    Lists path isLeaf' pairs := by
  obtain ⟨leaves, ordered, complete, assigned⟩ := h
  exact ⟨leaves, ordered, fun leaf => (complete leaf).trans (same leaf).symm, assigned⟩

theorem nil (none : ∀ leaf, ¬isLeaf leaf) : Lists path isLeaf [] :=
  ⟨[], .nil, fun leaf => by simp [none leaf], rfl⟩

theorem single (only : ∀ other, isLeaf other ↔ other = leaf) :
    Lists path isLeaf [leaf.assignment path] :=
  ⟨[leaf], List.pairwise_singleton _ _, fun other => by simp [only other], rfl⟩

/-- The leaves of items, read one by one. -/
theorem among {f : α → Except Defect (List Assignment)} {parts : List (List Assignment)}
    (read : xs.mapM f = .ok parts)
    (h : ∀ x ∈ xs, ∀ pairs, f x = .ok pairs → Lists path (each x) pairs) (n : Nat) :
    Lists path (Among each n xs) parts.flatten := by
  have steps := mapM_eq_ok_iff.mp read
  clear read
  induction steps generalizing n with
  | nil => exact nil (fun leaf => by simp [Among])
  | @cons x pairs xs parts first _ ih =>
    obtain ⟨here, ordered, complete, rfl⟩ := h x List.mem_cons_self pairs first
    obtain ⟨later, ordered', complete', assigned⟩ :=
      ih (fun y member => h y (List.mem_cons_of_mem _ member)) (n + 1)
    refine ⟨here.map (Leaf.under n) ++ later, ?_, ?_, ?_⟩
    · rw [List.pairwise_append, List.pairwise_map]
      refine ⟨ordered.imp ?_, ordered', ?_⟩
      · intro a b before
        exact List.cons_lt_cons_iff.mpr (Or.inr ⟨rfl, before⟩)
      · intro a member b member'
        obtain ⟨inner, _, rfl⟩ := List.mem_map.mp member
        exact position_lt_of_among ((complete' b).mp member')
    · intro leaf
      rw [among_cons, List.mem_append, List.mem_map, complete']
      simp only [complete, eq_comm]
    · rw [List.flatten_cons, assigned, List.map_append, List.map_map]
      rfl

/-- The leaves of a map under a field, whose name comes in front of theirs. -/
theorem within {key : String} (h : Lists (path ++ key ++ "_") isLeaf pairs)
    (named : ∀ leaf, isLeaf leaf → leaf.names ≠ []) :
    Lists path (fun leaf => ∃ inner, isLeaf inner ∧ leaf = inner.within key) pairs := by
  obtain ⟨leaves, ordered, complete, rfl⟩ := h
  refine ⟨leaves.map (Leaf.within key), ?_, ?_, ?_⟩
  · exact List.pairwise_map.mpr ordered
  · intro leaf
    simp only [List.mem_map, complete, eq_comm]
  · rw [List.map_map]
    apply List.map_congr_left
    intro leaf member
    obtain ⟨name, others, nonempty⟩ :=
      List.exists_cons_of_ne_nil (named leaf ((complete leaf).mp member))
    simp [Leaf.assignment, Leaf.within, nonempty, String.intercalate_cons_cons,
      String.append_assoc]

end Lists

end Ordering

structure Flattens (path : String) (accepted : Prop) (isLeaf : Leaf → Prop)
    (work : Except Defect (List Assignment)) : Prop where
  accepts : (∃ pairs, work = .ok pairs) ↔ accepted
  lists : ∀ pairs, work = .ok pairs → Lists path isLeaf pairs

namespace Flattens

variable {α : Type} {path : String} {accepted : Prop} {isLeaf : Leaf → Prop}
  {work : Except Defect (List Assignment)}

theorem congr {accepted' : Prop} {isLeaf' : Leaf → Prop}
    (h : Flattens path accepted isLeaf work) (accepting : accepted' ↔ accepted)
    (same : ∀ leaf, isLeaf' leaf ↔ isLeaf leaf) : Flattens path accepted' isLeaf' work :=
  ⟨h.accepts.trans accepting.symm, fun pairs done => (h.lists pairs done).congr same⟩

theorem error (defect : Defect) (refused : ¬accepted) :
    Flattens path accepted isLeaf (.error defect) :=
  ⟨by simp [refused], fun _ done => by cases done⟩

theorem ok {pairs : List Assignment} (h : accepted) (lists : Lists path isLeaf pairs) :
    Flattens path accepted isLeaf (.ok pairs) := by
  refine ⟨by simp [h], fun others done => ?_⟩
  cases done
  exact lists

theorem within {key : String} (h : Flattens (path ++ key ++ "_") accepted isLeaf work)
    (named : ∀ leaf, isLeaf leaf → leaf.names ≠ []) :
    Flattens path accepted (fun leaf => ∃ inner, isLeaf inner ∧ leaf = inner.within key) work :=
  ⟨h.accepts, fun pairs done => (h.lists pairs done).within named⟩

theorem among {f : α → Except Defect (List Assignment)} {xs : List α} {accepts : α → Prop}
    {each : α → Leaf → Prop} (h : ∀ x ∈ xs, Flattens path (accepts x) (each x) (f x)) :
    Flattens path (∀ x ∈ xs, accepts x) (Among each 0 xs) ((xs.mapM f).map List.flatten) := by
  constructor
  · rw [exists_map_mapM_eq_ok]
    exact forall₂_congr (fun x member => (h x member).accepts)
  · intro pairs done
    cases read : xs.mapM f with
    | error defect => simp [read, Except.map] at done
    | ok parts =>
      simp only [read, Except.map, Except.ok.injEq] at done
      subst done
      exact Lists.among read (fun x member => (h x member).lists) 0

end Flattens

section Flattening

variable {path key : String} {items : List Value} {fields : List (String × Value)}

theorem flattenEntries_eq_mapM (path : String) (fields : List (String × Value)) :
    flattenEntries path fields =
      (fields.mapM (fun f => flattenEntry path f.1 f.2)).map List.flatten := by
  induction fields with
  | nil => rfl
  | cons f rest ih =>
    rw [List.mapM_cons, flattenEntries, ih]
    cases flattenEntry path f.1 f.2 with
    | error defect => rfl
    | ok pairs => cases rest.mapM (fun f => flattenEntry path f.1 f.2) <;> rfl

theorem flattenItems_eq_mapM (path : String) (items : List Value) :
    flattenItems path items = (items.mapM (flattenMap path)).map List.flatten := by
  induction items with
  | nil => rfl
  | cons v rest ih =>
    rw [List.mapM_cons, flattenItems, ih]
    cases flattenMap path v with
    | error defect => rfl
    | ok pairs => cases rest.mapM (flattenMap path) <;> rfl

theorem flattenEntry_scalar {v : Value} (flat : v.isHashable = true) : flattenEntry path key v =
    if isLogical key then .error (.actionList key)
    else if isReserved key then .error (.actionOperator key)
    else .ok [(path ++ key, v)] := by
  cases v with
  | list | object => cases flat
  | _ => rfl

/-- Only a list can stand under a reserved key. -/
theorem flattens_unlisted {v : Value} {isLeaf : Leaf → Prop}
    {body : Except Defect (List Assignment)} (unlisted : v.kind ≠ .list)
    (h : isReserved key = false → Flattens path (IsAction key v) isLeaf body) :
    Flattens path (IsAction key v) isLeaf
      (if isLogical key then .error (.actionList key)
        else if isReserved key then .error (.actionOperator key) else body) := by
  cases reserved : isReserved key with
  | false =>
    have plain : ¬isLogical key = true := fun h => not_logical_of_free reserved (isLogical_iff.mp h)
    simpa only [plain, if_false, Bool.false_eq_true] using h reserved
  | true =>
    have refused : ¬IsAction key v := fun action =>
      unlisted (isAction_reserved reserved action).2
    split
    · exact .error _ refused
    · rw [if_pos rfl]
      exact .error _ refused

theorem flattens_plain {v : Value} (free : isReserved key = false) (noObject : v.kind ≠ .object) :
    Flattens path (IsAction key v) (HoldsLeaf key v) (.ok [(path ++ key, v)]) := by
  apply Flattens.ok (.plain free noObject)
  have listed : Lists path (HoldsLeaf key v) [Leaf.assignment path ⟨[], [key], v⟩] :=
    .single (fun _ => holdsLeaf_plain free noObject)
  simpa [Leaf.assignment] using listed

theorem flattens_list
    (h : ∀ v ∈ items, Flattens path (IsActionMap v) (HasLeaf v) (flattenMap path v)) :
    Flattens path (IsAction key (.list items)) (HoldsLeaf key (.list items))
      (flattenEntry path key (.list items)) := by
  rw [flattenEntry, flattenItems_eq_mapM]
  split
  next logical =>
    have named := isLogical_iff.mp logical
    exact (Flattens.among h).congr (isAction_logical named) (fun _ => holdsLeaf_logical named)
  next notLogical =>
    split
    next reserved =>
      refine .error _ (fun action => notLogical ?_)
      exact isLogical_iff.mpr (isAction_reserved reserved action).1
    next notReserved => exact flattens_plain (by simpa using notReserved) nofun

theorem eq_single_of_get? {v : Value} (found : Keyed.get? fields "_eq" = some v)
    (alone : ¬fields.length > 1) : fields = [("_eq", v)] := by
  match fields, found, alone with
  | [(key, w)], found, _ =>
    have member := Keyed.mem_of_get? found
    simpa [eq_comm] using member
  | _ :: _ :: _, _, alone => simp at alone

theorem flattens_fields
    (h : ∀ f ∈ fields, Flattens path (IsAction f.1 f.2) (HoldsLeaf f.1 f.2)
      (flattenEntry path f.1 f.2)) :
    Flattens path (IsActionMap (.object fields)) (HasLeaf (.object fields))
      (flattenMap path (.object fields)) := by
  rw [flattenMap, flattenEntries_eq_mapM]
  exact (Flattens.among h).congr isActionMap_object (fun _ => hasLeaf_object)

theorem flattens_object (h : ∀ f ∈ fields, ∀ path,
      Flattens path (IsAction f.1 f.2) (HoldsLeaf f.1 f.2) (flattenEntry path f.1 f.2)) :
    Flattens path (IsAction key (.object fields)) (HoldsLeaf key (.object fields))
      (flattenEntry path key (.object fields)) := by
  rw [flattenEntry]
  refine flattens_unlisted nofun (fun free => ?_)
  cases found : Keyed.get? fields "_eq" with
  | some v =>
    dsimp only
    split
    next several =>
      refine .error _ (fun action => ?_)
      rcases (isAction_object free).mp action with ⟨w, rfl⟩ | ⟨unwrapped, _⟩
      · simp at several
      · exact unwrapped _ (Keyed.mem_of_get? found) rfl
    next alone =>
      obtain rfl := eq_single_of_get? found alone
      apply Flattens.ok (.wrapper free)
      have listed : Lists path (HoldsLeaf key (.object [("_eq", v)]))
          [Leaf.assignment path ⟨[0], [key], v⟩] := .single (fun _ => holdsLeaf_wrapper free)
      simpa [Leaf.assignment] using listed
  | none =>
    have unwrapped : ∀ f ∈ fields, f.1 ≠ "_eq" := by
      intro f member named
      have known := (Keyed.has_iff_mem_keys fields "_eq").mpr (named ▸ List.mem_map_of_mem member)
      rw [Keyed.has, found] at known
      cases known
    have inner := flattens_fields (fun f member => h f member (path ++ key ++ "_"))
    refine (inner.within (fun leaf has => has.names_ne_nil)).congr ?_ ?_
    · exact isAction_nested free unwrapped
    · exact fun leaf => holdsLeaf_nested free unwrapped

theorem flattenMap_scalar {v : Value} (flat : v.isHashable = true) (filled : v ≠ .null) :
    flattenMap path v = .error (.actionShape v.kind) := by
  cases v with
  | null => exact absurd rfl filled
  | list | object => cases flat
  | _ => rfl

theorem flattens_null : Flattens path (IsActionMap .null) (HasLeaf .null) (flattenMap path .null) :=
  .ok .null (.nil nofun)

/-- Flattening at any depth, of a map and of the value of a key. -/
theorem flattens (v : Value) :
    (∀ path, Flattens path (IsActionMap v) (HasLeaf v) (flattenMap path v)) ∧
      ∀ path key, Flattens path (IsAction key v) (HoldsLeaf key v) (flattenEntry path key v) := by
  induction v using Value.induction with
  | scalar v flat =>
    constructor
    · intro path
      by_cases null : v = .null
      · subst null
        exact flattens_null
      · rw [flattenMap_scalar flat null]
        refine .error _ (fun map => ?_)
        cases map with
        | null => exact null rfl
        | object => cases flat
    · intro path key
      have shape : v.kind ≠ .list ∧ v.kind ≠ .object := by
        cases v with
        | list | object => cases flat
        | _ => exact ⟨nofun, nofun⟩
      rw [flattenEntry_scalar flat]
      exact flattens_unlisted shape.1 (fun free => flattens_plain free shape.2)
  | list items ih =>
    refine ⟨fun path => .error _ nofun, fun path key => ?_⟩
    exact flattens_list (fun v member => (ih v member).1 path)
  | object fields ih =>
    constructor
    · intro path
      exact flattens_fields (fun f member => (ih f member).2 path f.1)
    · intro path key
      exact flattens_object (fun f member path => (ih f member).2 path f.1)

end Flattening

/-- Flattening succeeds exactly on the well-formed maps and meets a defect otherwise.
It gives one assignment for each leaf in document order, to the names of the fields
around it joined by underscores. -/
theorem assignments_list_leaves (actions : Value) :
    ((∃ pairs, assignments actions = .ok pairs) ↔ IsActionMap actions) ∧
      (¬IsActionMap actions → ∃ defect, assignments actions = .error defect ∧
        (Fault.defect defect).category = "ConditionParseError") ∧
      ∀ pairs, assignments actions = .ok pairs → ∃ leaves : List Leaf,
        leaves.Pairwise (fun a b => a.position < b.position) ∧
          (∀ leaf, leaf ∈ leaves ↔ HasLeaf actions leaf) ∧
          pairs = leaves.map (fun leaf => ("_".intercalate leaf.names, leaf.value)) := by
  have flattened := (flattens actions).1 ""
  refine ⟨flattened.accepts, ?_, ?_⟩
  · intro malformed
    cases done : assignments actions with
    | error defect => exact ⟨defect, rfl, rfl⟩
    | ok pairs => exact absurd (flattened.accepts.mp ⟨pairs, done⟩) malformed
  · intro pairs done
    obtain ⟨leaves, ordered, complete, assigned⟩ := flattened.lists pairs done
    refine ⟨leaves, ordered, complete, assigned.trans (List.map_congr_left ?_)⟩
    intro leaf _
    rw [Leaf.assignment, String.empty_append]

def frameActions : Value :=
  .object [
    ("size", .object [("_eq", .object [("id", .int 1)])]),
    ("_and", .list [.null, .object [("frame", .object [("color", .text "red"),
      ("_or", .list [.object [("sku_code", .object [("_eq", .text "A")])]])])]])]

def mixedFrame : Value :=
  .object [("frame", .object [("_eq", .text "A"), ("color", .text "red")])]

theorem frame_is_flattened :
    IsActionMap frameActions ∧
    HasLeaf frameActions ⟨[1, 1, 0, 1, 0, 0, 0], ["frame", "sku_code"], .text "A"⟩ ∧
    (∃ leaves : List Leaf, leaves.Pairwise (fun a b => a.position < b.position) ∧
      (∀ leaf, leaf ∈ leaves ↔ HasLeaf frameActions leaf) ∧
      leaves.map (fun leaf => ("_".intercalate leaf.names, leaf.value)) =
        [("size", .object [("id", .int 1)]), ("frame_color", .text "red"),
          ("frame_sku_code", .text "A")]) ∧
    ¬IsActionMap mixedFrame ∧ ∃ defect, assignments mixedFrame = .error defect ∧
      (Fault.defect defect).category = "ConditionParseError" := by
  have done : assignments frameActions = .ok [("size", .object [("id", .int 1)]),
      ("frame_color", .text "red"), ("frame_sku_code", .text "A")] := rfl
  have malformed : ¬IsActionMap mixedFrame := by
    intro map
    obtain ⟨pairs, done⟩ := (assignments_list_leaves mixedFrame).1.mpr map
    cases done
  obtain ⟨accepts, _, lists⟩ := assignments_list_leaves frameActions
  obtain ⟨leaves, ordered, complete, assigned⟩ := lists _ done
  refine ⟨accepts.mp ⟨_, done⟩, ?_, ⟨leaves, ordered, complete, assigned.symm⟩, malformed,
    (assignments_list_leaves mixedFrame).2.1 malformed⟩
  have code : HoldsLeaf "sku_code" (.object [("_eq", .text "A")]) _ := .wrapper rfl
  have coded : HasLeaf (.object [("sku_code", .object [("_eq", .text "A")])]) _ :=
    .entry (i := 0) rfl code
  have part : HoldsLeaf "_or" (.list [.object [("sku_code", .object [("_eq", .text "A")])]]) _ :=
    .logical (Or.inr rfl) (i := 0) rfl coded
  have frame : HoldsLeaf "frame" (.object [("color", .text "red"), ("_or", _)]) _ :=
    .nested rfl (by decide) (.entry (i := 1) rfl part)
  have framed : HasLeaf (.object [("frame", _)]) _ := .entry (i := 0) rfl frame
  have parts : HoldsLeaf "_and" (.list [.null, _]) _ :=
    .logical (Or.inl rfl) (i := 1) rfl framed
  exact hasLeaf_object.mpr ⟨1, _, _, rfl, parts, rfl⟩

end MadeToOrder.Rule
