import Mathlib.Data.Prod.Lex
import MadeToOrder.Rule.Outcome

/-!
# Ranks of compiled rules

A compiled rule is ranked by its priority and, among equal priorities, by its
place in the list it was compiled from. Places are distinct and priorities are
finite, so the ranks of a list are distinct, and merging goes strictly up.
-/

set_option autoImplicit false

namespace MadeToOrder

def Double.steps : Double → Int
  | .finite negative units => if negative then -(units : Int) else units
  | _ => 0

theorem Double.place?_of_isFinite {d : Double} (h : d.isFinite = true) :
    d.place? = some (.steps d.steps) := by
  cases d with
  | finite negative units => rfl
  | infinite negative => simp [isFinite] at h
  | nan => simp [isFinite] at h

theorem Double.less_iff {a b : Double} (ha : a.isFinite = true) (hb : b.isFinite = true) :
    a.less b = true ↔ a.steps < b.steps := by
  simp [less, related, place?_of_isFinite ha, place?_of_isFinite hb, Place.before]

theorem Double.equal_iff {a b : Double} (ha : a.isFinite = true) (hb : b.isFinite = true) :
    a.equal b = true ↔ a.steps = b.steps := by
  simp [equal, related, place?_of_isFinite ha, place?_of_isFinite hb]

namespace Rule

def Compiled.rank (c : Compiled) : Int ×ₗ Nat := toLex (c.priority.steps, c.position)

theorem isFinite_of_priorityOf {raw : Value} {d : Double} (h : priorityOf raw = .ok d) :
    d.isFinite = true := by
  obtain ⟨e, _, h⟩ := bind_eq_ok.mp h
  split at h
  · rename_i finite
    exact Except.ok.inj h ▸ finite
  · simp at h

/-- A compiled rule keeps its rule and its place, and has a finite priority. -/
theorem compile_eq_ok {rule : Rule} {position : Nat} {c : Compiled}
    (h : compile rule position = .ok c) :
    c.rule = rule ∧ c.position = position ∧ c.priority.isFinite = true := by
  obtain ⟨condition, _, h⟩ := bind_eq_ok.mp h
  obtain ⟨assigned, _, h⟩ := bind_eq_ok.mp h
  obtain ⟨restriction, _, h⟩ := bind_eq_ok.mp h
  obtain ⟨priority, read, h⟩ := bind_eq_ok.mp h
  obtain rfl := Except.ok.inj h
  exact ⟨rfl, rfl, isFinite_of_priorityOf read⟩

def compileOne (rule : Rule) (position : Nat) :
    Except Fault (List Compiled × List Diagnostic) :=
  if !rule.active.truthy then .ok ([], [])
  else match compile rule position with
    | .ok c => .ok ([c], [])
    | .error (.defect d) => .ok ([], [skipped rule d])
    | .error fault => .error fault

/-- Rules are compiled one by one. -/
theorem compileFrom_cons (start : Nat) (rule : Rule) (rest : List Rule) :
    compileFrom start (rule :: rest) = do
      let (c, report) ← compileOne rule start
      let (cs, notes) ← compileFrom (start + 1) rest
      return (c ++ cs, report ++ notes) := by
  by_cases active : rule.active.truthy = true
  · simp only [compileFrom, compileOne, active, Bool.not_true, Bool.false_eq_true, if_false]
    cases compile rule start with
    | ok c => cases compileFrom (start + 1) rest <;> rfl
    | error fault =>
      cases fault with
      | defect d => cases compileFrom (start + 1) rest <;> rfl
      | _ => rfl
  · simp only [compileFrom, compileOne, active, Bool.not_false, if_true]
    cases compileFrom (start + 1) rest <;> rfl

theorem compileOne_eq_ok {rule : Rule} {position : Nat} {cs : List Compiled}
    {report : List Diagnostic} (h : compileOne rule position = .ok (cs, report)) :
    (∃ c, rule.active.truthy = true ∧ compile rule position = .ok c ∧ cs = [c]) ∨
      (∀ c, rule.active.truthy = true → compile rule position ≠ .ok c) ∧ cs = [] := by
  unfold compileOne at h
  by_cases active : rule.active.truthy = true
  · simp only [active, Bool.not_true, Bool.false_eq_true, if_false] at h
    split at h
    · rename_i c compiled
      obtain ⟨rfl, _⟩ := Prod.mk.inj (Except.ok.inj h)
      exact Or.inl ⟨c, active, compiled, rfl⟩
    · rename_i d defective
      obtain ⟨rfl, _⟩ := Prod.mk.inj (Except.ok.inj h)
      exact Or.inr ⟨fun c _ sound => by simp [defective] at sound, rfl⟩
    · simp at h
  · simp only [active, Bool.not_false, if_true] at h
    obtain ⟨rfl, _⟩ := Prod.mk.inj (Except.ok.inj h)
    exact Or.inr ⟨fun c sound => absurd sound active, rfl⟩

/-- A list compiles to its active sound rules, each at its place. -/
theorem mem_compileFrom {start : Nat} {rules : List Rule} {cs : List Compiled}
    {notes : List Diagnostic} (h : compileFrom start rules = .ok (cs, notes)) (c : Compiled) :
    c ∈ cs ↔ ∃ k rule, rules[k]? = some rule ∧ rule.active.truthy = true ∧
      compile rule (start + k) = .ok c := by
  induction rules generalizing start cs notes with
  | nil =>
    obtain ⟨rfl, rfl⟩ := Prod.mk.inj (Except.ok.inj h)
    simp
  | cons first rest ih =>
    rw [compileFrom_cons] at h
    obtain ⟨⟨one, report⟩, here, h⟩ := bind_eq_ok.mp h
    obtain ⟨⟨others, reports⟩, later, h⟩ := bind_eq_ok.mp h
    obtain ⟨rfl, _⟩ := Prod.mk.inj (Except.ok.inj h)
    have front : c ∈ one ↔ first.active.truthy = true ∧ compile first start = .ok c := by
      rcases compileOne_eq_ok here with ⟨d, active, compiled, rfl⟩ | ⟨unsound, rfl⟩
      · simp [active, compiled, eq_comm]
      · simpa using unsound c
    rw [List.mem_append, front, ih later]
    constructor
    · rintro (⟨active, compiled⟩ | ⟨k, rule, listed, active, compiled⟩)
      · exact ⟨0, first, rfl, active, compiled⟩
      · exact ⟨k + 1, rule, listed, active, by rwa [Nat.add_right_comm] at compiled⟩
    · rintro ⟨k, rule, listed, active, compiled⟩
      cases k with
      | zero =>
        obtain rfl := Option.some.inj listed
        exact Or.inl ⟨active, compiled⟩
      | succ k => exact Or.inr ⟨k, rule, listed, active, by rwa [Nat.add_right_comm]⟩

theorem pairwise_compileFrom {start : Nat} {rules : List Rule} {cs : List Compiled}
    {notes : List Diagnostic} (h : compileFrom start rules = .ok (cs, notes)) :
    cs.Pairwise (fun a b => a.position < b.position) := by
  induction rules generalizing start cs notes with
  | nil =>
    obtain ⟨rfl, rfl⟩ := Prod.mk.inj (Except.ok.inj h)
    exact List.Pairwise.nil
  | cons first rest ih =>
    rw [compileFrom_cons] at h
    obtain ⟨⟨one, report⟩, here, h⟩ := bind_eq_ok.mp h
    obtain ⟨⟨others, reports⟩, later, h⟩ := bind_eq_ok.mp h
    obtain ⟨rfl, _⟩ := Prod.mk.inj (Except.ok.inj h)
    rcases compileOne_eq_ok here with ⟨c, _, compiled, rfl⟩ | ⟨_, rfl⟩
    · rw [List.singleton_append, List.pairwise_cons]
      refine ⟨fun d member => ?_, ih later⟩
      obtain ⟨k, rule, _, _, behind⟩ := (mem_compileFrom later d).mp member
      have first := (compile_eq_ok compiled).2.1
      have second := (compile_eq_ok behind).2.1
      omega
    · exact ih later

variable {context : Context}

theorem matching_sublist {cs ms : List Compiled} (h : matching context cs = .ok ms) :
    ms.Sublist cs := by
  induction cs generalizing ms with
  | nil => exact Except.ok.inj h ▸ List.Sublist.refl _
  | cons c rest ih =>
    obtain ⟨holds, _, h⟩ := bind_eq_ok.mp h
    obtain ⟨others, later, h⟩ := bind_eq_ok.mp h
    obtain rfl := Except.ok.inj h
    split
    · exact (ih later).cons_cons c
    · exact (ih later).cons c

theorem mem_matching {cs ms : List Compiled} (h : matching context cs = .ok ms) (c : Compiled) :
    c ∈ ms ↔ c ∈ cs ∧ c.condition.evaluate context = .ok true := by
  induction cs generalizing ms with
  | nil => simp [← Except.ok.inj h]
  | cons first rest ih =>
    obtain ⟨holds, evaluated, h⟩ := bind_eq_ok.mp h
    obtain ⟨others, later, h⟩ := bind_eq_ok.mp h
    obtain rfl := Except.ok.inj h
    cases holds with
    | true =>
      simp only [if_true, List.mem_cons, ih later]
      constructor
      · rintro (rfl | ⟨member, met⟩)
        · exact ⟨Or.inl rfl, evaluated⟩
        · exact ⟨Or.inr member, met⟩
      · rintro ⟨rfl | member, met⟩
        · exact Or.inl rfl
        · exact Or.inr ⟨member, met⟩
    | false =>
      simp only [Bool.false_eq_true, if_false, List.mem_cons, ih later]
      constructor
      · rintro ⟨member, met⟩
        exact ⟨Or.inr member, met⟩
      · rintro ⟨rfl | member, met⟩
        · simp [evaluated] at met
        · exact ⟨member, met⟩

/-- What an active rule of a list compiles to at its place, where its condition holds. -/
structure Matched (rules : List Rule) (context : Context) (c : Compiled) : Prop where
  listed : rules[c.position]? = some c.rule
  active : c.rule.active.truthy = true
  compiled : compile c.rule c.position = .ok c
  holds : c.condition.evaluate context = .ok true

theorem matched_iff {rules : List Rule} {cs ms : List Compiled} {notes : List Diagnostic}
    (compiled : compileAll rules = .ok (cs, notes)) (matched : matching context cs = .ok ms)
    (c : Compiled) : c ∈ ms ↔ Matched rules context c := by
  rw [mem_matching matched, mem_compileFrom compiled]
  constructor
  · rintro ⟨⟨k, rule, listed, active, sound⟩, holds⟩
    obtain ⟨rfl, here, _⟩ := compile_eq_ok sound
    rw [Nat.zero_add] at here sound
    subst here
    exact ⟨listed, active, sound, holds⟩
  · intro matched
    refine ⟨⟨c.position, c.rule, matched.listed, matched.active, ?_⟩, matched.holds⟩
    rw [Nat.zero_add, matched.compiled]

/-- Of two compiled rules the merge takes the lower rank first. -/
theorem mergesBefore_iff {a b : Compiled} (ha : a.priority.isFinite = true)
    (hb : b.priority.isFinite = true) (apart : a.position ≠ b.position) :
    if a.mergesBefore b then a.rank < b.rank else b.rank < a.rank := by
  have compared : a.mergesBefore b = true ↔ a.priority.steps < b.priority.steps ∨
      a.priority.steps = b.priority.steps ∧ a.position ≤ b.position := by
    simp only [Compiled.mergesBefore, Compiled.sameRank, Bool.or_eq_true, Bool.and_eq_true,
      decide_eq_true_eq, Double.less_iff ha hb, Double.equal_iff ha hb]
  simp only [Compiled.rank, Prod.Lex.toLex_lt_toLex]
  split
  · rename_i merged
    have := compared.mp merged
    omega
  · rename_i merged
    have := mt compared.mpr merged
    omega

theorem evaluate_nil (rules : List Rule) (context : Context) (table : Option FieldTable) :
    evaluate [] rules context table =
      compileAll rules >>= fun r => outcomeOf table context r.1 r.2 := by
  unfold evaluate
  simp only [List.length_nil, Nat.zero_add, List.nil_append, List.map_id']

/-- Evaluating a list merges the rules that apply, each one higher than those before it. -/
theorem exists_ranked {rules : List Rule} {table : Option FieldTable} {outcome : Outcome}
    (h : evaluate [] rules context table = .ok outcome) :
    ∃ ranked : List Compiled, ranked.Pairwise (fun a b => a.rank < b.rank) ∧
      (∀ c, c ∈ ranked ↔ Matched rules context c) ∧
      merge table Overrides.empty [] ranked = .ok (outcome.overrides, outcome.constraints) := by
  rw [evaluate_nil] at h
  obtain ⟨⟨cs, notes⟩, compiled, h⟩ := bind_eq_ok.mp h
  obtain ⟨ms, matched, h⟩ := bind_eq_ok.mp h
  obtain ⟨⟨overrides, constraints⟩, merged, h⟩ := bind_eq_ok.mp h
  obtain rfl := Except.ok.inj h
  refine ⟨Sorting.sort Compiled.mergesBefore ms, ?_, ?_, merged⟩
  · have climbs : ∀ a b c : Compiled, a.rank < b.rank → b.rank < c.rank → a.rank < c.rank :=
      fun a b c => lt_trans
    apply Sorting.pairwise_sort climbs
    -- Places grow along the list, so no two of the rules have the same rank.
    have placed := (pairwise_compileFrom compiled).sublist (matching_sublist matched)
    refine placed.imp_of_mem (fun {a b} aMember bMember earlier => ?_)
    have finite : ∀ c ∈ ms, c.priority.isFinite = true := fun c member =>
      (compile_eq_ok ((matched_iff compiled matched c).mp member).compiled).2.2
    exact mergesBefore_iff (finite a aMember) (finite b bMember) (Nat.ne_of_lt earlier)
  · intro c
    rw [Sorting.mem_sort, matched_iff compiled matched]

end Rule

end MadeToOrder
