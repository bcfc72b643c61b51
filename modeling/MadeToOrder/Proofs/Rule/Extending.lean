import Mathlib.Data.List.Perm.Subperm
import MadeToOrder.Proofs.Condition.Sameness
import MadeToOrder.Proofs.Text.Editing

/-!
# Contexts that say more

In a flat context a path has one place to look, so a context with more entries
resolves every path that resolved before, and to the same value. A test of a path
that does not resolve fails whatever its operator, and compounds never deny
their parts: what held before holds still.
-/

set_option autoImplicit false

namespace MadeToOrder

namespace Context

def Flat (context : Context) : Prop :=
  ∀ key v, Keyed.get? context key = some v → '.' ∉ key.toList ∧ v.kind ≠ .object

/-- What the first context says, the second says too. -/
def Extends (context context' : Context) : Prop :=
  ∀ key v, Keyed.get? context key = some v → Keyed.get? context' key = some v

theorem Extends.flat {context context' : Context} (more : Extends context context')
    (flat : Flat context') : Flat context :=
  fun key v found => flat key v (more key v found)

end Context

namespace Condition

variable {context context' : Context}

/-- Where a flat context has the value of a path. -/
def flatName (path : String) : String :=
  if path.toList.contains '.' then Text.replace path '.' '_' else path

theorem walk_of_flat (flat : context.Flat) {path : String} (dotted : '.' ∈ path.toList) :
    walk (Text.split "." path) (.object context) = none := by
  have several : 2 ≤ (Text.split "." path).length := by
    have counted : (Text.pieces ['.'] 0 path.toList).length = path.toList.count '.' + 1 :=
      Text.length_pieces path.toList
    have := List.count_pos_iff.mpr dotted
    rw [Text.split, List.length_map]
    exact counted.symm ▸ Nat.succ_le_succ this
  cases names : Text.split "." path with
  | nil => simp [names] at several
  | cons name others =>
    cases others with
    | nil => simp [names] at several
    | cons next rest =>
      rw [walk]
      cases found : Keyed.get? context name with
      | none => rfl
      | some v =>
        have plain := (flat name v found).2
        cases v with
        | object fields => exact absurd rfl plain
        | _ => rfl

theorem resolve?_of_flat (flat : context.Flat) (path : String) :
    resolve? context path = Keyed.get? context (flatName path) := by
  by_cases dotted : '.' ∈ path.toList
  · have contained : path.toList.contains '.' = true := by simpa using dotted
    have absent : Keyed.get? context path = none := by
      cases found : Keyed.get? context path with
      | none => rfl
      | some v => exact absurd dotted (flat path v found).1
    rw [resolve?, absent, flatName, if_pos contained, walk_of_flat flat dotted]
    simp only [contained, if_true]
  · have free : path.toList.contains '.' = false := by simpa using dotted
    rw [resolve?, flatName, free]
    cases found : Keyed.get? context path <;> simp [found]

theorem resolve?_extends (more : context.Extends context') (flat : context'.Flat)
    {path : String} {v : Value} (found : resolve? context path = some v) :
    resolve? context' path = some v := by
  rw [resolve?_of_flat (more.flat flat)] at found
  rw [resolve?_of_flat flat, more _ _ found]

theorem evaluate_test_extends (more : context.Extends context') (flat : context'.Flat)
    {op : Operator} {path : String} {literal : Value}
    (held : evaluate context (.test op path literal) = .ok true) :
    evaluate context' (.test op path literal) = .ok true := by
  rw [evaluate] at held ⊢
  cases found : resolve? context path with
  | none => simp [found] at held
  | some v =>
    rw [found] at held
    rw [resolve?_extends more flat found]
    exact held

mutual

theorem evaluate_extends (more : context.Extends context') (flat : context'.Flat) :
    ∀ (c : Condition) {answer : Bool}, evaluate context c = .ok true →
      evaluate context' c = .ok answer → answer = true
  | .all parts, _, held, now => evaluateAll_extends more flat parts held now
  | .any parts, _, held, now => evaluateAny_extends more flat parts held now
  | .test _ _ _, _, held, now =>
    (Except.ok.inj ((evaluate_test_extends more flat held).symm.trans now)).symm

theorem evaluateAll_extends (more : context.Extends context') (flat : context'.Flat) :
    ∀ (parts : List Condition) {answer : Bool}, evaluateAll context parts = .ok true →
      evaluateAll context' parts = .ok answer → answer = true
  | [], _, _, now => (Except.ok.inj now).symm
  | part :: rest, _, held, now => by
    rw [evaluateAll] at held now
    obtain ⟨first, heldFirst, held⟩ := bind_eq_ok.mp held
    obtain ⟨first', nowFirst, now⟩ := bind_eq_ok.mp now
    cases first with
    | false => cases held
    | true =>
      obtain rfl := evaluate_extends more flat part heldFirst nowFirst
      exact evaluateAll_extends more flat rest held now

theorem evaluateAny_extends (more : context.Extends context') (flat : context'.Flat) :
    ∀ (parts : List Condition) {answer : Bool}, evaluateAny context parts = .ok true →
      evaluateAny context' parts = .ok answer → answer = true
  | [], _, held, _ => by simp [evaluateAny] at held
  | part :: rest, _, held, now => by
    rw [evaluateAny] at held now
    obtain ⟨first, heldFirst, held⟩ := bind_eq_ok.mp held
    obtain ⟨first', nowFirst, now⟩ := bind_eq_ok.mp now
    cases first' with
    | true => exact (Except.ok.inj now).symm
    | false =>
      cases first with
      | true => cases evaluate_extends more flat part heldFirst nowFirst
      | false => exact evaluateAny_extends more flat rest held now

end

end Condition

namespace Rule

variable {context context' : Context}

theorem matching_extends (more : context.Extends context') (flat : context'.Flat)
    {cs ms ms' : List Compiled} (before : matching context cs = .ok ms)
    (now : matching context' cs = .ok ms') : ms.Sublist ms' := by
  induction cs generalizing ms ms' with
  | nil =>
    obtain rfl := Except.ok.inj before
    exact List.nil_sublist _
  | cons c rest ih =>
    obtain ⟨held, evaluated, before⟩ := bind_eq_ok.mp before
    obtain ⟨others, earlier, before⟩ := bind_eq_ok.mp before
    obtain ⟨holds, evaluated', now⟩ := bind_eq_ok.mp now
    obtain ⟨others', later, now⟩ := bind_eq_ok.mp now
    obtain rfl := Except.ok.inj before
    obtain rfl := Except.ok.inj now
    have tail := ih earlier later
    cases held with
    | true =>
      obtain rfl := Condition.evaluate_extends more flat c.condition evaluated evaluated'
      exact tail.cons_cons c
    | false =>
      cases holds with
      | true => exact tail.cons c
      | false => exact tail

/-- The matched rules of an outcome are those whose condition holds, in some order. -/
theorem matched_perm {table : Option FieldTable} {cs : List Compiled} {notes : List Diagnostic}
    {outcome : Outcome} (h : outcomeOf table context cs notes = .ok outcome) :
    ∃ ms, matching context cs = .ok ms ∧ outcome.matched.Perm (ms.map Compiled.rule) := by
  obtain ⟨ms, matched, h⟩ := bind_eq_ok.mp h
  obtain ⟨_, _, h⟩ := bind_eq_ok.mp h
  obtain rfl := Except.ok.inj h
  exact ⟨ms, matched, (Sorting.sort_perm _ ms).map Compiled.rule⟩

theorem matched_extends (more : context.Extends context') (flat : context'.Flat)
    {ready : List Compiled} {rules : List Rule} {table : Option FieldTable}
    {outcome outcome' : Outcome} (before : evaluate ready rules context table = .ok outcome)
    (now : evaluate ready rules context' table = .ok outcome') :
    outcome.matched.Subperm outcome'.matched := by
  obtain ⟨⟨compiled, notes⟩, read, before⟩ := bind_eq_ok.mp before
  obtain ⟨⟨compiled', notes'⟩, read', now⟩ := bind_eq_ok.mp now
  obtain ⟨rfl, rfl⟩ := Prod.mk.inj (Except.ok.inj (read.symm.trans read'))
  obtain ⟨ms, matched, sorted⟩ := matched_perm before
  obtain ⟨ms', matched', sorted'⟩ := matched_perm now
  have kept := (matching_extends more flat matched matched').map Compiled.rule
  exact (sorted.subperm.trans kept.subperm).trans sorted'.symm.subperm

/-- A context that says more un-matches nothing. -/
theorem more_context_matches_more (more : context.Extends context') (flat : context'.Flat) :
    (∀ (c : Condition) (answer : Bool), c.evaluate context = .ok true →
      c.evaluate context' = .ok answer → answer = true) ∧
    ∀ (ready : List Compiled) (rules : List Rule) (table : Option FieldTable)
      (outcome outcome' : Outcome), evaluate ready rules context table = .ok outcome →
      evaluate ready rules context' table = .ok outcome' →
      outcome.matched.Subperm outcome'.matched :=
  ⟨fun c _ held now => Condition.evaluate_extends more flat c held now,
    fun _ _ _ _ _ before now => matched_extends more flat before now⟩

def notBlue : Rule := asking "color" (.object [("_neq", .text "blue")])

def smallOnly : Rule := asking "size" (.text "S")

/-- A size joins the color. The rule against blue is matched with and without it. -/
theorem size_joins_color :
    ∃ context context' outcome outcome', Context.Extends context context' ∧
      Context.Flat context' ∧ evaluate [] [smallOnly, notBlue] context none = .ok outcome ∧
      evaluate [] [smallOnly, notBlue] context' none = .ok outcome' ∧
      outcome.matched = [notBlue] ∧ outcome.matched.Subperm outcome'.matched ∧
      ∃ answer, Condition.evaluate context (.test .notEqual "color" (.text "blue")) = .ok true ∧
        Condition.evaluate context' (.test .notEqual "color" (.text "blue")) = .ok answer ∧
        answer = true := by
  let red : Context := [("color", .text "red")]
  let redSmall : Context := [("size", .text "S"), ("color", .text "red")]
  have more : Context.Extends red redSmall := by
    intro key v found
    obtain ⟨rfl, rfl⟩ := Prod.mk.inj (List.mem_singleton.mp (Keyed.mem_of_get? found))
    rfl
  have flat : Context.Flat redSmall := by
    intro key v found
    rcases List.mem_pair.mp (Keyed.mem_of_get? found) with same | same
    all_goals
      obtain ⟨rfl, rfl⟩ := Prod.mk.inj same
      exact ⟨by decide, by decide⟩
  obtain ⟨single, whole⟩ := more_context_matches_more more flat
  exact ⟨red, redSmall, _, _, more, flat, rfl, rfl, rfl,
    whole [] [smallOnly, notBlue] none _ _ rfl rfl, _, rfl, rfl,
    single (.test .notEqual "color" (.text "blue")) _ rfl rfl⟩

end Rule

end MadeToOrder
