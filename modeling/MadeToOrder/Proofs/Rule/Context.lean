import Mathlib.Data.List.Nodup
import Mathlib.Data.List.Pairwise
import MadeToOrder.Proofs.Selection.Reordered
import MadeToOrder.Proofs.Text.Splitting

/-!
# Contexts of reordered selections

A field of a selection puts its own names into the context of rules. Where no two fields
share one, it does not matter in which order the fields are gone through: each name has
the same value, and conditions and rules look values up by name alone.
-/

set_option autoImplicit false

namespace MadeToOrder

def FieldTable.contextNames (table : FieldTable) : List String :=
  table.specs.flatMap (fun spec =>
    [spec.contextKey, spec.contextKey ++ Rule.Overrides.codeEnding])

/-- Fields that the table does not know keep away from those names. -/
def Selection.Apart (table : FieldTable) (s : Selection) : Prop :=
  ∀ e ∈ s, table.byField? e.1 = none → e.1 ∉ table.contextNames

theorem Selection.Apart.of_keys {table : FieldTable} {a b : Selection} (h : a.Apart table)
    (fewer : Keyed.keys b ⊆ Keyed.keys a) : b.Apart table := by
  intro e member unmapped
  obtain ⟨e', member', same⟩ := List.mem_map.mp (fewer (List.mem_map_of_mem member))
  rw [← same] at unmapped ⊢
  exact h e' member' unmapped

/-- The value of a row of the table can be anything. -/
theorem Selection.Apart.assign {table : FieldTable} {a : Selection} (h : a.Apart table)
    {spec : FieldSpec} (row : spec ∈ table.specs) (v : Value) :
    Apart table (Configuration.assign a spec.field v) := by
  intro e member unmapped
  unfold Configuration.assign at member
  split at member
  · exact h e (Keyed.mem_of_mem_erase member) unmapped
  · rcases Keyed.mem_put member with earlier | rfl
    · exact h e earlier unmapped
    · rw [table.byField?_of_mem row] at unmapped
      cases unmapped

def Context.Same (context context' : Context) : Prop :=
  ∀ key, Keyed.get? context key = Keyed.get? context' key

namespace Condition

variable {context context' : Context}

theorem resolve?_congr (h : Context.Same context context') (path : String) :
    resolve? context path = resolve? context' path := by
  have nested : walk (Text.split "." path) (.object context) =
      walk (Text.split "." path) (.object context') := by
    cases names : Text.split "." path with
    | nil => exact absurd (List.map_eq_nil_iff.mp names) (Text.pieces_ne_nil _ _ _)
    | cons name rest => rw [walk, walk, h name]
  unfold resolve?
  rw [h path, nested, h (Text.replace path '.' '_')]

mutual

theorem evaluate_congr (h : Context.Same context context') :
    ∀ c : Condition, evaluate context c = evaluate context' c
  | .all parts => evaluateAll_congr h parts
  | .any parts => evaluateAny_congr h parts
  | .test op path literal => by rw [evaluate, evaluate, resolve?_congr h]

theorem evaluateAll_congr (h : Context.Same context context') :
    ∀ parts : List Condition, evaluateAll context parts = evaluateAll context' parts
  | [] => rfl
  | part :: rest => by
    rw [evaluateAll, evaluateAll, evaluate_congr h part, evaluateAll_congr h rest]

theorem evaluateAny_congr (h : Context.Same context context') :
    ∀ parts : List Condition, evaluateAny context parts = evaluateAny context' parts
  | [] => rfl
  | part :: rest => by
    rw [evaluateAny, evaluateAny, evaluate_congr h part, evaluateAny_congr h rest]

end

end Condition

namespace Rule

open Overrides (codeEnding)

variable {s : Snapshot}

theorem matching_congr {context context' : Context} (h : Context.Same context context')
    (compiled : List Compiled) : matching context compiled = matching context' compiled := by
  induction compiled with
  | nil => rfl
  | cons c rest ih => rw [matching, matching, Condition.evaluate_congr h, ih]

theorem evaluate_congr {context context' : Context} (h : Context.Same context context')
    (ready : List Compiled) (rules : List Rule) (table : Option FieldTable) :
    evaluate ready rules context table = evaluate ready rules context' table := by
  unfold evaluate outcomeOf
  simp only [matching_congr h]

def entriesOf (s : Snapshot) (e : String × Value) : Except Fault (List (String × Value)) :=
  if e.2.isUnset then .ok []
  else match s.table.byField? e.1 with
    | none => .ok [e]
    | some spec => contextEntries s spec e.2

theorem contextFrom_eq (context : Context) (selection : Selection) :
    contextFrom s context selection =
      (selection.mapM (entriesOf s)).map (fun entries => Keyed.putAll context entries.flatten) := by
  induction selection generalizing context with
  | nil => rfl
  | cons e rest ih =>
    obtain ⟨field, v⟩ := e
    have joins : ∀ first : Except Fault (List (String × Value)),
        (first >>= fun entries => contextFrom s (Keyed.putAll context entries) rest) =
          (first >>= fun entries => (rest.mapM (entriesOf s)).map (fun others =>
            Keyed.putAll context (entries ++ others.flatten))) := by
      intro first
      congr 1
      funext entries
      rw [ih]
      simp only [Keyed.putAll_append]
    have here : contextFrom s context ((field, v) :: rest) =
        entriesOf s (field, v) >>= fun entries =>
          contextFrom s (Keyed.putAll context entries) rest := by
      rw [contextFrom, entriesOf]
      by_cases unset : v.isUnset = true
      · simp only [unset, if_true]
        rfl
      · simp only [unset]
        cases s.table.byField? field <;> rfl
    rw [here, joins, List.mapM_cons]
    cases entriesOf s (field, v) with
    | error fault => rfl
    | ok entries => cases rest.mapM (entriesOf s) <;> rfl

def entryNames (table : FieldTable) (field : String) : List String :=
  match table.byField? field with
  | none => [field]
  | some spec => [spec.contextKey, spec.contextKey ++ codeEnding]

theorem keys_contextEntries {spec : FieldSpec} {v : Value} {entries : List (String × Value)}
    (h : contextEntries s spec v = .ok entries) :
    (Keyed.keys entries).Sublist [spec.contextKey, spec.contextKey ++ codeEnding] := by
  unfold contextEntries at h
  dsimp only at h
  split at h
  · obtain ⟨ids, _, h⟩ := bind_eq_ok.mp h
    obtain rfl := Except.ok.inj h
    exact .refl _
  · obtain ⟨id, _, h⟩ := bind_eq_ok.mp h
    split at h
    · obtain rfl := Except.ok.inj h
      exact .refl _
    · obtain rfl := Except.ok.inj h
      exact List.sublist_append_left [spec.contextKey] _

theorem keys_entriesOf {e : String × Value} {entries : List (String × Value)}
    (h : entriesOf s e = .ok entries) :
    (Keyed.keys entries).Sublist (entryNames s.table e.1) := by
  unfold entriesOf at h
  unfold entryNames
  by_cases unset : e.2.isUnset = true
  · rw [if_pos unset] at h
    obtain rfl := Except.ok.inj h
    exact List.nil_sublist _
  · rw [if_neg unset] at h
    cases row : s.table.byField? e.1 with
    | none =>
      rw [row] at h
      obtain rfl := Except.ok.inj h
      exact .refl _
    | some spec =>
      rw [row] at h
      exact keys_contextEntries h

section

variable {table : FieldTable} (names : table.contextNames.Nodup)
include names

theorem nodup_entryNames (field : String) : (entryNames table field).Nodup := by
  unfold entryNames
  cases row : table.byField? field with
  | none => exact List.nodup_singleton field
  | some spec =>
    exact (List.nodup_flatMap.mp names).1 spec (table.byField?_spec row).1

/-- Two fields put different names into the context. -/
theorem disjoint_entryNames {selection : Selection} (apart : selection.Apart table)
    {e e' : String × Value} (here : e ∈ selection) (there : e' ∈ selection) (h : e.1 ≠ e'.1) :
    (entryNames table e.1).Disjoint (entryNames table e'.1) := by
  have unmapped : ∀ e ∈ selection, ∀ spec ∈ table.specs, table.byField? e.1 = none →
      e.1 ∉ [spec.contextKey, spec.contextKey ++ codeEnding] :=
    fun e member spec known none listed =>
      apart e member none (List.mem_flatMap.mpr ⟨spec, known, listed⟩)
  unfold entryNames
  cases row : table.byField? e.1 with
  | none =>
    rw [List.singleton_disjoint]
    cases row' : table.byField? e'.1 with
    | none => simpa using h
    | some spec' => exact unmapped e here spec' (table.byField?_spec row').1 row
  | some spec =>
    obtain ⟨known, named⟩ := table.byField?_spec row
    cases row' : table.byField? e'.1 with
    | none =>
      rw [List.disjoint_singleton]
      exact unmapped e' there spec known row'
    | some spec' =>
      obtain ⟨known', named'⟩ := table.byField?_spec row'
      have other : spec ≠ spec' := by
        rintro rfl
        exact h (named.symm.trans named')
      have : Std.Symm (Function.onFun List.Disjoint fun spec : FieldSpec =>
          [spec.contextKey, spec.contextKey ++ codeEnding]) := ⟨fun _ _ => List.disjoint_symm⟩
      exact (List.nodup_flatMap.mp names).2.forall known known' other

end

theorem nodup_keys_flatten {selection : Selection} (names : s.table.contextNames.Nodup)
    (apart : selection.Apart s.table) (distinct : (Keyed.keys selection).Nodup)
    {entries : List (List (String × Value))} (h : selection.mapM (entriesOf s) = .ok entries) :
    (Keyed.keys entries.flatten).Nodup := by
  rw [Keyed.keys, List.map_flatten, List.nodup_flatten]
  constructor
  · intro keys member
    obtain ⟨own, listed, rfl⟩ := List.mem_map.mp member
    obtain ⟨e, _, read⟩ := (mem_iff_of_mapM h).mp listed
    exact (nodup_entryNames names e.1).sublist (keys_entriesOf read)
  · have pairs : selection.Pairwise (fun e e' => e ∈ selection ∧ e' ∈ selection ∧ e.1 ≠ e'.1) :=
      (List.pairwise_map.mp distinct).imp_of_mem fun here there other => ⟨here, there, other⟩
    rw [List.pairwise_map]
    apply pairwise_of_mapM h pairs
    intro e e' own own' read read' related
    obtain ⟨here, there, other⟩ := related
    intro name inOwn inOther
    exact disjoint_entryNames names apart here there other
      ((keys_entriesOf read).subset inOwn) ((keys_entriesOf read').subset inOther)

/-- Reordered entries put the same values under the same names. -/
theorem same_of_perm {entries entries' : List (List (String × Value))}
    (perm : entries.Perm entries') (distinct : (Keyed.keys entries.flatten).Nodup) :
    Context.Same (Keyed.putAll [] entries.flatten) (Keyed.putAll [] entries'.flatten) := by
  intro key
  have distinct' : (Keyed.keys entries'.flatten).Nodup :=
    (perm.flatten.map Prod.fst).nodup_iff.mp distinct
  rw [Keyed.get?_putAll _ distinct, Keyed.get?_putAll _ distinct',
    Keyed.get?_eq_of_perm perm.flatten distinct]

end Rule

end MadeToOrder
