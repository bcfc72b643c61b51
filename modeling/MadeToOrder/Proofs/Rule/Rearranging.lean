import Mathlib.Data.Fintype.Card
import Mathlib.Data.List.FinRange
import MadeToOrder.Proofs.Rule.Defects

/-!
# Rules in another order

Only rules that apply in a context do anything there: they are active, they compile,
and their condition holds. Among these the order matters within a priority only. Rules
that do not apply can stand anywhere, and what they change is the reports.
-/

set_option autoImplicit false

namespace MadeToOrder.Rule

def applies (context : Context) (rule : Rule) : Bool :=
  match sound? rule with
  | none => false
  | some c =>
    match c.condition.evaluate context with
    | .ok holds => holds
    | .error _ => false

def applying (context : Context) (rules : List Rule) : List Rule :=
  rules.filter (applies context)

def SamePriority (a b : Rule) : Prop :=
  ∃ x y, priorityOf a.priority = .ok x ∧ priorityOf b.priority = .ok y ∧ x.equal y = true

/-- The second list is the first one with its rules in other places, where those of
equal priority keep their order. -/
def Rearranges (first second : List Rule) : Prop :=
  ∃ place : Fin first.length ≃ Fin second.length,
    (∀ i, second.get (place i) = first.get i) ∧
    ∀ i j, i < j → SamePriority (first.get i) (first.get j) → place i < place j

theorem Rearranges.refl (rules : List Rule) : Rearranges rules rules :=
  ⟨Equiv.refl _, fun _ => rfl, fun _ _ earlier _ => earlier⟩

theorem sound?_eq_some {rule : Rule} {c : Compiled} :
    sound? rule = some c ↔ rule.active.truthy = true ∧ compile rule 0 = .ok c := by
  unfold sound?
  by_cases active : rule.active.truthy = true
  · cases compile rule 0 <;> simp [active]
  · simp [active]

theorem priorityOf_compile {rule : Rule} {position : Nat} {c : Compiled}
    (h : compile rule position = .ok c) : priorityOf rule.priority = .ok c.priority := by
  obtain ⟨condition, _, h⟩ := bind_eq_ok.mp h
  obtain ⟨assigned, _, h⟩ := bind_eq_ok.mp h
  obtain ⟨restriction, _, h⟩ := bind_eq_ok.mp h
  obtain ⟨priority, read, h⟩ := bind_eq_ok.mp h
  obtain rfl := Except.ok.inj h
  exact read

/-- What one rule compiles to in two places is alike. -/
theorem alike_of_compile {rule : Rule} {a b : Compiled} {m n : Nat}
    (ha : compile rule m = .ok a) (hb : compile rule n = .ok b) : a.Alike b := by
  rw [compile_eq_moved] at ha hb
  obtain ⟨c, compiled, rfl⟩ := map_eq_ok.mp ha
  obtain ⟨d, compiled', rfl⟩ := map_eq_ok.mp hb
  rw [compiled] at compiled'
  obtain rfl := Except.ok.inj compiled'
  rfl

section

variable {context : Context}

theorem applying_cons (rule : Rule) (rest : List Rule) :
    applying context (rule :: rest) =
      if applies context rule then rule :: applying context rest else applying context rest :=
  List.filter_cons

theorem map_rule_matching {start : Nat} {rules : List Rule} {ms : List Compiled}
    (h : matching context (compiledFrom start rules) = .ok ms) :
    ms.map Compiled.rule = applying context rules := by
  induction rules generalizing start ms with
  | nil =>
    obtain rfl := Except.ok.inj h
    rfl
  | cons rule rest ih =>
    rw [compiledFrom] at h
    rw [applying_cons, applies]
    cases sound : sound? rule with
    | none =>
      rw [sound] at h
      simpa using ih h
    | some c =>
      rw [sound] at h
      obtain ⟨holds, evaluated, h⟩ := bind_eq_ok.mp h
      obtain ⟨others, later, h⟩ := bind_eq_ok.mp h
      obtain rfl := Except.ok.inj h
      have same : (c.moved start).rule = rule := (compile_eq_ok (sound?_eq_some.mp sound).2).1
      have held : c.condition.evaluate context = .ok holds := evaluated
      simp only [held]
      cases holds with
      | true => simpa [same] using ih later
      | false => simpa using ih later

/-- The places of a list in which rules of another one stand, each pair in the order of the
first list. -/
theorem exists_placed_pairs {xs ys : List Compiled}
    (moved : Rearranges (xs.map Compiled.rule) (ys.map Compiled.rule))
    (placed : ys.Pairwise (fun a b => a.position < b.position)) :
    ∃ zs : List (Compiled × Compiled), zs.map Prod.fst = xs ∧ (zs.map Prod.snd).Perm ys ∧
      (∀ z ∈ zs, z.1.rule = z.2.rule) ∧
      zs.Pairwise (fun z w => SamePriority z.1.rule w.1.rule → z.2.position < w.2.position) := by
  obtain ⟨place, same, kept⟩ := moved
  let at₁ : Fin xs.length ≃ Fin (xs.map Compiled.rule).length := finCongr (by simp)
  let at₂ : Fin (ys.map Compiled.rule).length ≃ Fin ys.length := finCongr (by simp)
  let move : Fin xs.length ≃ Fin ys.length := (at₁.trans place).trans at₂
  have rule_eq : ∀ i, (xs.get i).rule = (ys.get (move i)).rule := by
    intro i
    have here := same (at₁ i)
    simpa [move, at₁, at₂] using here.symm
  refine ⟨(List.finRange xs.length).map (fun i => (xs.get i, ys.get (move i))), ?_, ?_, ?_, ?_⟩
  · rw [List.map_map]
    exact List.map_get_finRange xs
  · have shuffled : ((List.finRange xs.length).map move).Perm (List.finRange ys.length) := by
      apply (List.perm_ext_iff_of_nodup _ (List.nodup_finRange _)).mpr
      · intro j
        simpa using ⟨move.symm j, move.apply_symm_apply j⟩
      · exact (List.nodup_finRange _).map move.injective
    have moved := shuffled.map ys.get
    rw [List.map_get_finRange, List.map_map] at moved
    rw [List.map_map]
    exact moved
  · intro z member
    obtain ⟨i, _, rfl⟩ := List.mem_map.mp member
    exact rule_eq i
  · rw [List.pairwise_map]
    apply (List.pairwise_lt_finRange xs.length).imp
    intro i j earlier equal
    have before : move i < move j := by
      apply kept (at₁ i) (at₁ j) earlier
      simpa [at₁] using equal
    exact List.pairwise_iff_get.mp placed _ _ before

theorem applies_of_matching {start : Nat} {rules : List Rule} {ms : List Compiled}
    (reads : ∀ rule ∈ rules, Reads rule)
    (h : matching context (compiledFrom start rules) = .ok ms) :
    ms.Pairwise (fun a b => a.position < b.position) ∧
      ∀ c ∈ ms, compile c.rule c.position = .ok c := by
  have compiled := compileFrom_eq_ok_iff.mpr ⟨reads, @rfl _ (compiledFrom start rules, _)⟩
  constructor
  · exact (pairwise_compileFrom compiled).sublist (matching_sublist h)
  · intro c member
    have listed := ((mem_matching h c).mp member).1
    obtain ⟨k, rule, _, _, sound⟩ := (mem_compileFrom compiled c).mp listed
    obtain ⟨same, place, _⟩ := compile_eq_ok sound
    rw [same, place]
    exact sound

def Compiled.shownRank (c : Compiled) : Int ×ₗ Nat := toLex (-c.priority.steps, c.position)

theorem listedBefore_iff {a b : Compiled} (ha : a.priority.isFinite = true)
    (hb : b.priority.isFinite = true) (apart : a.position ≠ b.position) :
    if a.listedBefore b then a.shownRank < b.shownRank else b.shownRank < a.shownRank := by
  have compared : a.listedBefore b = true ↔ b.priority.steps < a.priority.steps ∨
      a.priority.steps = b.priority.steps ∧ a.position ≤ b.position := by
    simp only [Compiled.listedBefore, Compiled.sameRank, Bool.or_eq_true, Bool.and_eq_true,
      decide_eq_true_eq, Double.less_iff hb ha, Double.equal_iff ha hb]
  simp only [Compiled.shownRank, Prod.Lex.toLex_lt_toLex]
  split
  · rename_i shown
    have := compared.mp shown
    omega
  · rename_i shown
    have := mt compared.mpr shown
    omega

/-- Rules at different places are sorted alike from every order. -/
theorem sort_eq_of_rank {le : Compiled → Compiled → Bool} {rank : Compiled → Int ×ₗ Nat}
    (decides : ∀ {a b : Compiled}, a.priority.isFinite = true → b.priority.isFinite = true →
      a.position ≠ b.position → if le a b then rank a < rank b else rank b < rank a)
    {xs ys : List Compiled} (perm : xs.Perm ys) (finite : ∀ c ∈ ys, c.priority.isFinite = true)
    (placed : ys.Pairwise (fun a b => a.position < b.position)) :
    Sorting.sort le xs = Sorting.sort le ys := by
  have apart : ys.Pairwise (fun a b => a.position ≠ b.position) := placed.imp Nat.ne_of_lt
  have apart' : xs.Pairwise (fun a b => a.position ≠ b.position) :=
    perm.symm.pairwise apart (fun different => different.symm)
  apply Sorting.sort_eq_of_perm (R := fun a b => rank a < rank b) (fun a b c => lt_trans)
    (fun a _ b _ before behind => absurd behind (lt_asymm before)) perm
  · apply apart'.imp_of_mem
    intro a b aMember bMember different
    exact decides (finite a (perm.mem_iff.mp aMember)) (finite b (perm.mem_iff.mp bMember))
      different
  · apply apart.imp_of_mem
    intro a b aMember bMember different
    exact decides (finite a aMember) (finite b bMember) different

/-- Rules that are rearranged stand in the same order wherever places decide it. -/
theorem exists_alike_pairs {xs ys : List Compiled}
    (moved : Rearranges (xs.map Compiled.rule) (ys.map Compiled.rule))
    (xsPlaced : xs.Pairwise (fun a b => a.position < b.position))
    (ysPlaced : ys.Pairwise (fun a b => a.position < b.position))
    (xsSound : ∀ c ∈ xs, compile c.rule c.position = .ok c)
    (ysSound : ∀ c ∈ ys, compile c.rule c.position = .ok c) :
    ∃ zs : List (Compiled × Compiled), (∀ z ∈ zs, z.1.Alike z.2) ∧ zs.map Prod.fst = xs ∧
      (zs.map Prod.snd).Perm ys ∧
      zs.Pairwise (fun z w => z.1.sameRank w.1 = z.2.sameRank w.2) := by
  obtain ⟨zs, left, right, same, kept⟩ := exists_placed_pairs moved ysPlaced
  have alike : ∀ z ∈ zs, z.1.Alike z.2 := by
    intro z member
    have here := xsSound z.1 (left ▸ List.mem_map_of_mem member)
    have there := ysSound z.2 (right.mem_iff.mp (List.mem_map_of_mem member))
    rw [same z member] at here
    exact alike_of_compile here there
  refine ⟨zs, alike, left, right, ?_⟩
  rw [← left, List.pairwise_map] at xsPlaced
  apply (xsPlaced.and kept).imp_of_mem
  intro z w first second ⟨earlier, order⟩
  rw [Compiled.sameRank, Compiled.sameRank, (alike z first).priority, (alike w second).priority]
  by_cases equal : z.2.priority.equal w.2.priority = true
  · have priorities : SamePriority z.1.rule w.1.rule := by
      have here := priorityOf_compile (xsSound z.1 (left ▸ List.mem_map_of_mem first))
      have there := priorityOf_compile (xsSound w.1 (left ▸ List.mem_map_of_mem second))
      rw [(alike z first).priority] at here
      rw [(alike w second).priority] at there
      exact ⟨_, _, here, there, equal⟩
    rw [decide_eq_true (Nat.le_of_lt earlier), decide_eq_true (Nat.le_of_lt (order priorities))]
  · simp [equal]

variable {table : Option FieldTable} {first second : List Rule} {outcome other : Outcome}

theorem outcome_of_rearranged (h : evaluate [] first context table = .ok outcome)
    (h' : evaluate [] second context table = .ok other)
    (moved : Rearranges (applying context first) (applying context second)) :
    other.matched = outcome.matched ∧ other.overrides = outcome.overrides ∧
      other.constraints = outcome.constraints := by
  obtain ⟨reads, h⟩ := evaluate_eq_ok.mp h
  obtain ⟨reads', h'⟩ := evaluate_eq_ok.mp h'
  obtain ⟨ms, matched, h⟩ := bind_eq_ok.mp h
  obtain ⟨ns, matched', h'⟩ := bind_eq_ok.mp h'
  obtain ⟨⟨o, cs⟩, merged, h⟩ := bind_eq_ok.mp h
  obtain ⟨⟨o', cs'⟩, merged', h'⟩ := bind_eq_ok.mp h'
  obtain rfl := Except.ok.inj h
  obtain rfl := Except.ok.inj h'
  rw [← map_rule_matching matched, ← map_rule_matching matched'] at moved
  obtain ⟨placed, sound⟩ := applies_of_matching reads matched
  obtain ⟨placed', sound'⟩ := applies_of_matching reads' matched'
  obtain ⟨zs, alike, rfl, right, ranks⟩ := exists_alike_pairs moved placed placed' sound sound'
  have finite : ∀ c ∈ ns, c.priority.isFinite = true := fun c member =>
    (compile_eq_ok (sound' c member)).2.2
  -- Both sorts, for merging and for display, take the rules of the first list pair by pair to
  -- those of the second one.
  obtain ⟨merges, mergesAlike, mergeLeft, mergeRight⟩ :=
    sort_pairs alike (ranks.imp_of_mem (fun {z w} a b rank =>
      (alike z a).mergesBefore (alike w b) rank))
  obtain ⟨lists, listsAlike, listLeft, listRight⟩ :=
    sort_pairs alike (ranks.imp_of_mem (fun {z w} a b rank =>
      (alike z a).listedBefore (alike w b) rank))
  rw [sort_eq_of_rank mergesBefore_iff right finite placed'] at mergeRight
  rw [sort_eq_of_rank listedBefore_iff right finite placed'] at listRight
  rw [mergeLeft, merge_pairs mergesAlike, ← mergeRight, merged'] at merged
  obtain ⟨rfl, rfl⟩ := Prod.mk.inj (Except.ok.inj merged)
  refine ⟨?_, rfl, rfl⟩
  rw [listLeft, listRight, map_rule_pairs listsAlike]

/-- Evaluation of fewer rules returns where that of all of them does. -/
theorem exists_evaluate_of_sublist (h : evaluate [] first context table = .ok outcome)
    (fewer : second.Sublist first) : ∃ other, evaluate [] second context table = .ok other := by
  have harmless := exists_evaluate.mp ⟨outcome, h⟩
  exact exists_evaluate.mpr (fun rule member => harmless rule (fewer.subset member))

theorem outcome_of_bystanders (h : evaluate [] first context table = .ok outcome)
    (h' : evaluate [] second context table = .ok other)
    (same : applying context second = applying context first) :
    other = { outcome with diagnostics := second.filterMap report? } := by
  obtain ⟨matched, overrides, constraints⟩ :=
    outcome_of_rearranged h h' (same ▸ Rearranges.refl _)
  have reports := (outcomeOf_notes (evaluate_eq_ok.mp h').2).1
  cases other
  simp_all

end

/-- What rules do is settled by those that apply and, among these, by their order within a
priority. Rules that do not apply can be left out anywhere, and put in anywhere where
evaluation still returns, and only the reports change. -/
theorem evaluate_rearranged (context : Context) (table : Option FieldTable)
    (first second : List Rule) (outcome : Outcome)
    (h : evaluate [] first context table = .ok outcome) :
    (∀ other, evaluate [] second context table = .ok other →
      Rearranges (applying context first) (applying context second) →
      other.matched = outcome.matched ∧ other.overrides = outcome.overrides ∧
        other.constraints = outcome.constraints) ∧
    (second.Sublist first → applying context second = applying context first →
      evaluate [] second context table =
        .ok { outcome with diagnostics := second.filterMap report? }) ∧
    (first.Sublist second → applying context second = applying context first →
      ∀ other, evaluate [] second context table = .ok other →
        other = { outcome with diagnostics := second.filterMap report? }) := by
  refine ⟨fun other h' moved => outcome_of_rearranged h h' moved, fun fewer same => ?_,
    fun _ same other h' => outcome_of_bystanders h h' same⟩
  obtain ⟨other, h'⟩ := exists_evaluate_of_sublist h fewer
  rw [h', outcome_of_bystanders h h' same]

def strongRule : Rule := { codeRule true "A" with priority := .float (.finite false 2) }

def weakRule : Rule := codeRule true "B"

/-- A rule of a higher priority may change places with one of a lower priority, and an
inactive rule may stand between them. -/
theorem strong_and_weak_exchanged :
    ∃ outcome other, evaluate [] [strongRule, weakRule] [] none = .ok outcome ∧
      evaluate [] [weakRule, codeRule false "X", strongRule] [] none = .ok other ∧
      other.matched = outcome.matched ∧ other.overrides = outcome.overrides ∧
      other.constraints = outcome.constraints ∧
      evaluate [] [weakRule, strongRule] [] none =
        .ok { other with diagnostics := [weakRule, strongRule].filterMap report? } := by
  have apart : ¬SamePriority strongRule weakRule := by
    rintro ⟨x, y, high, low, equal⟩
    obtain rfl := Except.ok.inj high
    obtain rfl := Except.ok.inj low
    exact absurd equal (by decide)
  have moved : Rearranges (applying [] [strongRule, weakRule])
      (applying [] [weakRule, codeRule false "X", strongRule]) := by
    show Rearranges [strongRule, weakRule] [weakRule, strongRule]
    refine ⟨Fin.revPerm, fun i => ?_, fun i j earlier equal => ?_⟩
    · match i with
      | 0 => rfl
      | 1 => rfl
    · match i, j with
      | 0, 1 => exact absurd equal apart
      | 0, 0 | 1, 0 | 1, 1 => exact absurd earlier (by decide)
  have both := evaluate_rearranged [] none [strongRule, weakRule]
    [weakRule, codeRule false "X", strongRule] _ rfl
  have alone := evaluate_rearranged [] none [weakRule, codeRule false "X", strongRule]
    [weakRule, strongRule] _ rfl
  obtain ⟨matched, overrides, constraints⟩ := both.1 _ rfl moved
  exact ⟨_, _, rfl, rfl, matched, overrides, constraints, alone.2.1 (by simp) rfl⟩

end MadeToOrder.Rule
