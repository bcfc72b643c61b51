import MadeToOrder.Proofs.Condition.Range
import MadeToOrder.Proofs.Rule.Precompiled

/-!
# Defective rules

A rule with a defect is reported and left out, and the others do what they do without
it. What stops all rules is no defect but an integer past the range of doubles, as a
priority or where a condition compares it, or a constraint on a list or an object.
-/

set_option autoImplicit false

namespace MadeToOrder.Rule

def isDefective (rule : Rule) : Bool :=
  rule.active.truthy && (match compile rule 0 with
    | .ok _ => false
    | .error _ => true)

def report? (rule : Rule) : Option Diagnostic :=
  if rule.active.truthy then
    match compile rule 0 with
    | .error (.defect d) => some (skipped rule d)
    | _ => none
  else none

def sound? (rule : Rule) : Option Compiled :=
  if rule.active.truthy then
    match compile rule 0 with
    | .ok c => some c
    | .error _ => none
  else none

def Reads (rule : Rule) : Prop :=
  rule.active.truthy = true →
    (∃ c, compile rule 0 = .ok c) ∨ ∃ d, compile rule 0 = .error (.defect d)

theorem compile_eq_moved (rule : Rule) (position : Nat) :
    compile rule position = (compile rule 0).map (Compiled.moved position) :=
  compile_moved rule position 0

theorem compileOne_eq_ok_iff {rule : Rule} {position : Nat}
    {r : List Compiled × List Diagnostic} :
    compileOne rule position = .ok r ↔
      Reads rule ∧ r = ((sound? rule).toList.map (Compiled.moved position),
        (report? rule).toList) := by
  unfold compileOne Reads sound? report?
  rw [compile_eq_moved rule position]
  cases rule.active.truthy with
  | false => simp [eq_comm]
  | true =>
    cases compile rule 0 with
    | ok c => simp [Except.map, eq_comm]
    | error fault => cases fault <;> simp [Except.map, eq_comm]

theorem isDefective_eq {rule : Rule} (reads : Reads rule) :
    rule.isDefective = (report? rule).isSome := by
  unfold isDefective report?
  cases active : rule.active.truthy with
  | false => rfl
  | true =>
    rcases reads active with ⟨c, sound⟩ | ⟨d, defect⟩
    · rw [sound]
      rfl
    · rw [defect]
      rfl

theorem sound?_of_report? {rule : Rule} (reported : (report? rule).isSome = true) :
    sound? rule = none := by
  unfold report? at reported
  unfold sound?
  cases active : rule.active.truthy with
  | false => rfl
  | true =>
    cases compiled : compile rule 0 with
    | error fault => rfl
    | ok c => simp [active, compiled] at reported

theorem subject_of_report? {rule : Rule} {d : Diagnostic} (reported : report? rule = some d) :
    d.subject = .text rule.id.plain := by
  unfold report? at reported
  split at reported
  · split at reported
    · obtain rfl := Option.some.inj reported
      rfl
    · cases reported
  · cases reported

theorem subjects_of_reports {rules : List Rule} (reads : ∀ rule ∈ rules, Reads rule) :
    (rules.filterMap report?).map Diagnostic.subject =
      (rules.filter isDefective).map (fun rule => .text rule.id.plain) := by
  induction rules with
  | nil => rfl
  | cons rule rest ih =>
    obtain ⟨here, others⟩ := List.forall_mem_cons.mp reads
    rw [List.filter_cons, isDefective_eq here]
    cases reported : report? rule with
    | none => simpa [reported] using ih others
    | some d => simpa [reported, subject_of_report? reported] using ih others

def compiledFrom (start : Nat) : List Rule → List Compiled
  | [] => []
  | rule :: rest =>
    (sound? rule).toList.map (Compiled.moved start) ++ compiledFrom (start + 1) rest

/-- A list whose rules can be read compiles to its sound rules and reports the others
in order. -/
theorem compileFrom_eq_ok_iff {start : Nat} {rules : List Rule}
    {r : List Compiled × List Diagnostic} :
    compileFrom start rules = .ok r ↔
      (∀ rule ∈ rules, Reads rule) ∧ r = (compiledFrom start rules, rules.filterMap report?) := by
  induction rules generalizing start r with
  | nil => simp [compileFrom, compiledFrom, eq_comm]
  | cons rule rest ih =>
    rw [compileFrom_cons, List.forall_mem_cons]
    constructor
    · intro compiled
      obtain ⟨one, here, compiled⟩ := bind_eq_ok.mp compiled
      obtain ⟨others, later, compiled⟩ := bind_eq_ok.mp compiled
      obtain ⟨reads, rfl⟩ := compileOne_eq_ok_iff.mp here
      obtain ⟨read, rfl⟩ := ih.mp later
      obtain rfl := Except.ok.inj compiled
      refine ⟨⟨reads, read⟩, Prod.ext rfl ?_⟩
      cases reported : report? rule <;> simp [reported]
    · rintro ⟨⟨reads, read⟩, rfl⟩
      rw [compileOne_eq_ok_iff.mpr ⟨reads, rfl⟩]
      have later : compileFrom (start + 1) rest = .ok _ := ih.mpr ⟨read, rfl⟩
      simp only [bind, Except.bind, later, pure, Except.pure, compiledFrom]
      cases reported : report? rule <;> simp [reported]

/-- Leaving out the rules that are reported only moves the others. -/
theorem exists_unreported (start : Nat) (rules : List Rule) :
    ∀ start', ∃ zs : List (Compiled × Compiled), (∀ z ∈ zs, z.1.Alike z.2) ∧
      zs.map Prod.fst = compiledFrom start rules ∧
      zs.map Prod.snd = compiledFrom start' (rules.filter (fun rule => (report? rule).isNone)) := by
  -- The places of the two lists drift apart by one at each reported rule.
  induction rules generalizing start with
  | nil => exact fun _ => ⟨[], by simp, rfl, rfl⟩
  | cons rule rest ih =>
    intro start'
    by_cases reported : (report? rule).isSome = true
    · obtain ⟨zs, alike, left, right⟩ := ih (start + 1) start'
      refine ⟨zs, alike, ?_, ?_⟩
      · rw [left, compiledFrom, sound?_of_report? reported]
        rfl
      · rw [right, List.filter_cons_of_neg]
        simpa using Option.isSome_iff_ne_none.mp reported
    · obtain ⟨zs, alike, left, right⟩ := ih (start + 1) (start' + 1)
      have kept : (report? rule).isNone = true := by simpa using reported
      rw [List.filter_cons, if_pos kept, compiledFrom, compiledFrom, ← left, ← right]
      refine ⟨(sound? rule).toList.map (fun c => (c.moved start, c.moved start')) ++ zs, ?_, ?_, ?_⟩
      · intro z member
        rcases List.mem_append.mp member with here | later
        · obtain ⟨c, _, rfl⟩ := List.mem_map.mp here
          rfl
        · exact alike z later
      · simp [Function.comp_def]
      · simp [Function.comp_def]

theorem keepsRank_of_placed {context : Context} {zs : List (Compiled × Compiled)}
    (alike : ∀ z ∈ zs, z.1.Alike z.2)
    (left : (zs.map Prod.fst).Pairwise (fun a b => a.position < b.position))
    (right : (zs.map Prod.snd).Pairwise (fun a b => a.position < b.position)) :
    KeepsRank context zs := by
  -- Places grow along both lists, so rules of equal priority keep their order.
  rw [List.pairwise_map] at left right
  refine (left.and right).imp_of_mem (fun {z w} first second placed _ _ => ?_)
  obtain ⟨before, before'⟩ := placed
  rw [Compiled.sameRank, Compiled.sameRank, (alike z first).priority, (alike w second).priority,
    decide_eq_true (Nat.le_of_lt before), decide_eq_true (Nat.le_of_lt before')]

theorem outcomeOf_notes {table : Option FieldTable} {context : Context} {cs : List Compiled}
    {notes : List Diagnostic} {outcome : Outcome}
    (h : outcomeOf table context cs notes = .ok outcome) :
    outcome.diagnostics = notes ∧ ∀ others, outcomeOf table context cs others =
      .ok { outcome with diagnostics := others } := by
  obtain ⟨ms, matched, h⟩ := bind_eq_ok.mp h
  obtain ⟨⟨o, constraints⟩, merged, h⟩ := bind_eq_ok.mp h
  obtain rfl := Except.ok.inj h
  refine ⟨rfl, fun others => ?_⟩
  simp only [outcomeOf, matched, merged, bind, Except.bind, pure, Except.pure]

theorem evaluate_eq_ok {rules : List Rule} {context : Context} {table : Option FieldTable}
    {outcome : Outcome} :
    evaluate [] rules context table = .ok outcome ↔ (∀ rule ∈ rules, Reads rule) ∧
      outcomeOf table context (compiledFrom 0 rules) (rules.filterMap report?) = .ok outcome := by
  rw [evaluate_nil]
  constructor
  · intro h
    obtain ⟨r, compiled, h⟩ := bind_eq_ok.mp h
    obtain ⟨reads, rfl⟩ := compileFrom_eq_ok_iff.mp compiled
    exact ⟨reads, h⟩
  · rintro ⟨reads, h⟩
    exact bind_eq_ok.mpr ⟨_, compileFrom_eq_ok_iff.mpr ⟨reads, rfl⟩, h⟩

theorem evaluate_unreported {rules : List Rule} {context : Context} {table : Option FieldTable}
    {outcome : Outcome} (h : evaluate [] rules context table = .ok outcome) :
    evaluate [] (rules.filter (fun rule => (report? rule).isNone)) context table =
      .ok { outcome with diagnostics := [] } := by
  obtain ⟨reads, h⟩ := evaluate_eq_ok.mp h
  have read : ∀ rule ∈ rules.filter (fun rule => (report? rule).isNone), Reads rule :=
    fun rule member => reads rule (List.mem_filter.mp member).1
  have silent : (rules.filter (fun rule => (report? rule).isNone)).filterMap report? = [] := by
    rw [List.filterMap_eq_nil_iff]
    intro rule member
    simpa using (List.mem_filter.mp member).2
  obtain ⟨zs, alike, left, right⟩ := exists_unreported 0 rules 0
  refine evaluate_eq_ok.mpr ⟨read, ?_⟩
  rw [silent, ← right, ← outcomeOf_pairs alike [], left]
  · exact (outcomeOf_notes h).2 []
  · refine keepsRank_of_placed alike ?_ ?_
    · rw [left]
      exact pairwise_compileFrom (compileFrom_eq_ok_iff.mpr ⟨reads, rfl⟩)
    · rw [right]
      exact pairwise_compileFrom (compileFrom_eq_ok_iff.mpr ⟨read, rfl⟩)

def Compiled.Harmless (context : Context) (c : Compiled) : Prop :=
  ∃ holds, c.condition.evaluate context = .ok holds ∧
    (holds = true → ∀ r, c.restriction = some r → r.field.isHashable = true)

/-- An active rule has a defect, or it is compiled and then does not stop evaluation. -/
def Harmless (context : Context) (rule : Rule) : Prop :=
  rule.active.truthy = true → (∃ d, compile rule 0 = .error (.defect d)) ∨
    ∃ c, compile rule 0 = .ok c ∧ c.Harmless context

section Stopping

variable {context : Context} {table : Option FieldTable} {rules : List Rule}

theorem exists_matching {cs : List Compiled} : (∃ ms, matching context cs = .ok ms) ↔
    ∀ c ∈ cs, ∃ holds, c.condition.evaluate context = .ok holds := by
  induction cs with
  | nil => simp [matching]
  | cons c rest ih =>
    rw [List.forall_mem_cons, ← ih]
    constructor
    · rintro ⟨ms, h⟩
      obtain ⟨holds, evaluated, h⟩ := bind_eq_ok.mp h
      obtain ⟨others, later, _⟩ := bind_eq_ok.mp h
      exact ⟨⟨holds, evaluated⟩, others, later⟩
    · rintro ⟨⟨holds, evaluated⟩, others, later⟩
      exact ⟨_, bind_eq_ok.mpr ⟨holds, evaluated, bind_eq_ok.mpr ⟨others, later, rfl⟩⟩⟩

theorem exists_mergeOne (table : Option FieldTable) (o : Overrides) (cs : Constraints)
    (c : Compiled) : (∃ r, mergeOne table o cs c = .ok r) ↔
      ∀ r, c.restriction = some r → r.field.isHashable = true := by
  unfold mergeOne
  cases c.restriction with
  | none => simp
  | some r =>
    by_cases key : r.field.isHashable = true <;> simp [Constraints.restrict, key, Except.map]

theorem exists_merge {o : Overrides} {cs : Constraints} {ranked : List Compiled} :
    (∃ r, merge table o cs ranked = .ok r) ↔
      ∀ c ∈ ranked, ∀ r, c.restriction = some r → r.field.isHashable = true := by
  induction ranked generalizing o cs with
  | nil => simp [merge]
  | cons c rest ih =>
    rw [List.forall_mem_cons, ← exists_mergeOne table o cs, merge]
    cases mergeOne table o cs c with
    | error fault => simp
    | ok r => simp [ih]

theorem exists_outcomeOf {cs : List Compiled} {notes : List Diagnostic} :
    (∃ outcome, outcomeOf table context cs notes = .ok outcome) ↔
      ∀ c ∈ cs, c.Harmless context := by
  constructor
  · rintro ⟨outcome, h⟩ c member
    obtain ⟨ms, matched, h⟩ := bind_eq_ok.mp h
    obtain ⟨merged, together, _⟩ := bind_eq_ok.mp h
    obtain ⟨holds, evaluated⟩ := exists_matching.mp ⟨ms, matched⟩ c member
    refine ⟨holds, evaluated, fun applies r constrains => ?_⟩
    subst applies
    have applied := (Sorting.mem_sort Compiled.mergesBefore c ms).mpr
      ((mem_matching matched c).mpr ⟨member, evaluated⟩)
    exact exists_merge.mp ⟨merged, together⟩ c applied r constrains
  · intro harmless
    obtain ⟨ms, matched⟩ := exists_matching.mpr (fun c member =>
      let ⟨holds, evaluated, _⟩ := harmless c member
      ⟨holds, evaluated⟩)
    have keyed : ∀ c ∈ Sorting.sort Compiled.mergesBefore ms, ∀ r, c.restriction = some r →
        r.field.isHashable = true := by
      intro c applied r constrains
      obtain ⟨member, applies⟩ := (mem_matching matched c).mp ((Sorting.mem_sort _ c ms).mp applied)
      obtain ⟨holds, evaluated, keyed⟩ := harmless c member
      obtain rfl := Except.ok.inj (evaluated.symm.trans applies)
      exact keyed rfl r constrains
    obtain ⟨merged, together⟩ : ∃ r, merge table Overrides.empty []
        (Sorting.sort Compiled.mergesBefore ms) = .ok r := exists_merge.mpr keyed
    exact ⟨_, bind_eq_ok.mpr ⟨ms, matched, bind_eq_ok.mpr ⟨merged, together, rfl⟩⟩⟩

theorem harmless_compiledFrom {start : Nat} :
    (∀ c ∈ compiledFrom start rules, c.Harmless context) ↔
      ∀ rule ∈ rules, ∀ c, sound? rule = some c → c.Harmless context := by
  induction rules generalizing start with
  | nil => simp [compiledFrom]
  | cons rule rest ih =>
    rw [compiledFrom, List.forall_mem_append, List.forall_mem_cons, ih]
    refine and_congr_left (fun _ => ?_)
    cases sound? rule with
    | none => simp
    | some c =>
      have moved : (c.moved start).Harmless context ↔ c.Harmless context := Iff.rfl
      simpa using moved

theorem harmless_iff {rule : Rule} : Harmless context rule ↔
    Reads rule ∧ ∀ c, sound? rule = some c → c.Harmless context := by
  unfold Harmless Reads sound?
  cases rule.active.truthy with
  | false => simp
  | true => cases compile rule 0 <;> simp

theorem exists_evaluate : (∃ outcome, evaluate [] rules context table = .ok outcome) ↔
    ∀ rule ∈ rules, Harmless context rule := by
  simp only [evaluate_eq_ok, exists_and_left, exists_outcomeOf, harmless_compiledFrom, harmless_iff]
  exact forall₂_and.symm

end Stopping

/-- No integer of the rule that counts as a number is past the range of doubles, and
its constraint, if it has one, is on something that can be a key. -/
structure InRange (rule : Rule) : Prop where
  priority : ∀ i, rule.priority = .int i → (Double.ofInt? i).isSome = true
  condition : rule.condition.isMeasurable = true
  field : rule.constraintKind.isNull = true ∨ rule.constraintField.isHashable = true

section Ranges

variable {rule : Rule} {position : Nat} {c : Compiled} {context : Context} {wide : Prop}

theorem orFault_eq_ok {α : Type} {read : Except Defect α} {a : α} :
    orFault read = .ok a ↔ read = .ok a := by
  cases read <;> simp [orFault]

theorem compile_parts (h : compile rule position = .ok c) :
    conditionOf rule = .ok c.condition ∧ restrictionOf rule = .ok c.restriction := by
  obtain ⟨condition, read, h⟩ := bind_eq_ok.mp h
  obtain ⟨assigned, _, h⟩ := bind_eq_ok.mp h
  obtain ⟨restriction, limits, h⟩ := bind_eq_ok.mp h
  obtain ⟨priority, _, h⟩ := bind_eq_ok.mp h
  obtain rfl := Except.ok.inj h
  exact ⟨orFault_eq_ok.mp read, orFault_eq_ok.mp limits⟩

def IsRefusal (wide : Prop) (fault : Fault) : Prop :=
  (∃ d, fault = .defect d) ∨ fault.IsOverflow wide

theorem failsOnly_orFault {α : Type} (read : Except Defect α) :
    FailsOnly (IsRefusal wide) (orFault read) := by
  cases read with
  | ok a => exact failsOnly_ok a
  | error d => exact failsOnly_error (Or.inl ⟨d, rfl⟩)

theorem failsOnly_readPriority {raw : Value}
    (h : ∀ i, raw = .int i → Double.ofInt? i = none → wide) :
    FailsOnly (IsRefusal wide) (readPriority raw) := by
  fun_cases readPriority raw with
  | case3 i past => exact failsOnly_error (Or.inr ⟨rfl, h i rfl past⟩)
  | case7 | case8 => exact failsOnly_error (Or.inl ⟨_, rfl⟩)
  | case1 | case2 | case4 | case5 | case6 => exact failsOnly_ok _

theorem failsOnly_compile (h : ∀ i, rule.priority = .int i → Double.ofInt? i = none → wide) :
    FailsOnly (IsRefusal wide) (compile rule position) := by
  refine (failsOnly_orFault _).bind (fun condition => (failsOnly_orFault _).bind
    (fun assigned => (failsOnly_orFault _).bind (fun restriction => ?_)))
  refine FailsOnly.bind ?_ (fun priority => failsOnly_ok _)
  refine (failsOnly_readPriority h).bind (fun d => ?_)
  split
  · exact failsOnly_ok _
  · exact failsOnly_error (Or.inl ⟨_, rfl⟩)

theorem InRange.reads (h : rule.InRange) : Reads rule := by
  intro _
  cases compiled : compile rule 0 with
  | ok c => exact Or.inl ⟨c, rfl⟩
  | error fault =>
    have narrow : ∀ i, rule.priority = .int i → Double.ofInt? i = none → False := by
      intro i priority past
      have small := h.priority i priority
      rw [past] at small
      cases small
    rcases failsOnly_compile narrow fault compiled with ⟨d, rfl⟩ | ⟨_, wide⟩
    · exact Or.inr ⟨d, rfl⟩
    · exact wide.elim

theorem InRange.isMeasurable (h : rule.InRange) (compiled : compile rule position = .ok c) :
    c.condition.isMeasurable = true := by
  have read := (compile_parts compiled).1
  unfold conditionOf at read
  split at read
  · cases read
  · exact Condition.isMeasurable_ofValue h.condition read

theorem InRange.isHashable (h : rule.InRange) (compiled : compile rule position = .ok c)
    {r : Restriction} (constrains : c.restriction = some r) : r.field.isHashable = true := by
  have read := (compile_parts compiled).2
  rw [constrains] at read
  unfold restrictionOf at read
  split at read
  · cases read
  · rename_i restricted
    split at read
    · cases read
    · split at read
      · cases read
        exact h.field.resolve_left restricted
      · cases read

/-- In a context whose integers have doubles a rule in range does not stop evaluation. -/
theorem InRange.harmless (h : rule.InRange)
    (measured : ∀ e ∈ context, e.2.isMeasurable = true) : Harmless context rule := by
  intro active
  rcases h.reads active with ⟨c, compiled⟩ | defective
  · have narrow : OverflowsOnlyIf False (c.condition.evaluate context) := by
      apply Condition.overflows_evaluate
      · intro past
        rw [(Value.isMeasurable_object context).mpr measured] at past
        cases past
      · intro past
        rw [h.isMeasurable compiled] at past
        cases past
    obtain ⟨holds, evaluated⟩ := narrow.returns (fun _ overflow => overflow.2)
    exact Or.inr ⟨c, compiled, holds, evaluated, fun _ r => h.isHashable compiled⟩
  · exact Or.inl defective

def Stops (fault : Fault) : Prop := fault = .integerTooLarge ∨ ∃ kind, fault = .unhashable kind

theorem stops_of_overflow {fault : Fault} (h : fault.IsOverflow True) : Stops fault := Or.inl h.1

theorem failsOnly_compileOne : FailsOnly Stops (compileOne rule position) := by
  have refused : FailsOnly (IsRefusal True) (compile rule position) :=
    failsOnly_compile (fun _ _ _ => trivial)
  unfold compileOne
  cases rule.active.truthy with
  | false => exact failsOnly_ok _
  | true =>
    cases compiled : compile rule position with
    | ok c => exact failsOnly_ok _
    | error fault =>
      rcases refused fault compiled with ⟨d, rfl⟩ | ⟨rfl, _⟩
      · exact failsOnly_ok _
      · exact failsOnly_error (Or.inl rfl)

theorem failsOnly_compileFrom {start : Nat} (rules : List Rule) :
    FailsOnly Stops (compileFrom start rules) := by
  induction rules generalizing start with
  | nil => exact failsOnly_ok _
  | cons rule rest ih =>
    rw [compileFrom_cons]
    exact failsOnly_compileOne.bind (fun _ => ih.bind (fun _ => failsOnly_ok _))

theorem failsOnly_matching (cs : List Compiled) : FailsOnly Stops (matching context cs) := by
  induction cs with
  | nil => exact failsOnly_ok _
  | cons c rest ih =>
    have tested : OverflowsOnlyIf True (c.condition.evaluate context) :=
      Condition.overflows_evaluate (fun _ => trivial) c.condition (fun _ => trivial)
    exact (tested.mono (fun _ => stops_of_overflow)).bind
      (fun _ => ih.bind (fun _ => failsOnly_ok _))

theorem failsOnly_mergeOne {table : Option FieldTable} {o : Overrides} {cs : Constraints} :
    FailsOnly Stops (mergeOne table o cs c) := by
  unfold mergeOne
  cases c.restriction with
  | none => exact failsOnly_ok _
  | some r =>
    dsimp only
    unfold Constraints.restrict
    split
    · exact failsOnly_ok _
    · exact failsOnly_error (Or.inr ⟨_, rfl⟩)

theorem failsOnly_merge {table : Option FieldTable} {o : Overrides} {cs : Constraints}
    (ranked : List Compiled) : FailsOnly Stops (merge table o cs ranked) := by
  induction ranked generalizing o cs with
  | nil => exact failsOnly_ok _
  | cons c rest ih =>
    rw [merge]
    have here : FailsOnly Stops (mergeOne table o cs c) := failsOnly_mergeOne
    cases merged : mergeOne table o cs c with
    | ok r => exact ih
    | error fault => exact failsOnly_error (here fault merged)

theorem failsOnly_evaluate (rules : List Rule) (context : Context) (table : Option FieldTable) :
    FailsOnly Stops (evaluate [] rules context table) := by
  rw [evaluate_nil]
  refine (failsOnly_compileFrom rules).bind (fun r => (failsOnly_matching r.1).bind (fun ms => ?_))
  exact (failsOnly_merge _).bind (fun _ => failsOnly_ok _)

end Ranges

/-- Evaluation returns exactly when no active rule stops it, and always where rules and
context are in range; two kinds of fault can stop it. Where it returns, the active rules
that cannot be compiled are reported, each once and in order, under their ids, and the
others do what they do without them. -/
theorem evaluate_despite_defects (rules : List Rule) (context : Context)
    (table : Option FieldTable) :
    ((∃ outcome, evaluate [] rules context table = .ok outcome) ↔
      ∀ rule ∈ rules, Harmless context rule) ∧
    (∀ fault, evaluate [] rules context table = .error fault → Stops fault) ∧
    ((∀ rule ∈ rules, rule.active.truthy = true → InRange rule) →
      (∀ e ∈ context, e.2.isMeasurable = true) →
      ∃ outcome, evaluate [] rules context table = .ok outcome) ∧
    ∀ outcome, evaluate [] rules context table = .ok outcome →
      outcome.diagnostics = rules.filterMap report? ∧
      outcome.diagnostics.map Diagnostic.subject =
        (rules.filter isDefective).map (fun rule => .text rule.id.plain) ∧
      evaluate [] (rules.filter (fun rule => !rule.isDefective)) context table =
        .ok { outcome with diagnostics := [] } := by
  refine ⟨exists_evaluate, failsOnly_evaluate rules context table, fun inRange measured => ?_,
    fun outcome h => ?_⟩
  · refine exists_evaluate.mpr (fun rule member active => ?_)
    exact (inRange rule member active).harmless measured active
  · obtain ⟨reads, merged⟩ := evaluate_eq_ok.mp h
    have reported := (outcomeOf_notes merged).1
    refine ⟨reported, ?_, ?_⟩
    · rw [reported]
      exact subjects_of_reports reads
    · have same : rules.filter (fun rule => !rule.isDefective) =
          rules.filter (fun rule => (report? rule).isNone) := by
        apply List.filter_congr
        intro rule member
        rw [isDefective_eq (reads rule member), Option.not_isSome]
      rw [same]
      exact evaluate_unreported h

def sizeRecord (id : String) (sizes : Value) (code : String) : List (String × Value) :=
  [("id", .text id), ("if_this", .object [("size", sizes)]),
    ("than_that", .object [("sku_code", .text code)])]

def likeRule : Rule := ofFields (sizeRecord "like" (.object [("_like", .int 1)]) "A")

def oneRule : Rule := ofFields (sizeRecord "one" (.int 1) "B")

theorem unknown_operator_skipped :
    ∃ outcome, evaluate [] [likeRule, oneRule] [("size", .int 1)] none = .ok outcome ∧
      outcome.diagnostics.map Diagnostic.subject = [.text "like"] ∧
      evaluate [] [oneRule] [("size", .int 1)] none = .ok { outcome with diagnostics := [] } := by
  obtain ⟨_, _, returns, skips⟩ :=
    evaluate_despite_defects [likeRule, oneRule] [("size", .int 1)] none
  have small : (Double.ofInt? 0).isSome = true := by decide +kernel
  have inRange : ∀ rule ∈ [likeRule, oneRule], rule.active.truthy = true → InRange rule := by
    refine List.forall_mem_cons.mpr ⟨fun _ => ?_, List.forall_mem_singleton.mpr (fun _ => ?_)⟩
    · exact ⟨fun i priority => by cases priority; exact small, by decide +kernel, Or.inl rfl⟩
    · exact ⟨fun i priority => by cases priority; exact small, by decide +kernel, Or.inl rfl⟩
  obtain ⟨outcome, h⟩ := returns inRange (by decide +kernel)
  obtain ⟨_, subjects, others⟩ := skips outcome h
  have bad : likeRule.isDefective = true := by decide +kernel
  have good : oneRule.isDefective = false := by decide +kernel
  simp only [List.filter_cons, List.filter_nil, bad, good] at subjects others
  exact ⟨outcome, h, subjects, others⟩

def isFlat : Value → Bool
  | .text _ | .int _ => true
  | .list items => items.all (fun item => item.kind = .text || item.kind = .int)
  | _ => false

def pastDoubles : Value := .int (Nat.pow 10 400)

def hugePriority : List (String × Value) := ("priority", pastDoubles) :: sizeRecord "p" (.int 1) "A"

def hugeSize : List (String × Value) := sizeRecord "s" pastDoubles "A"

def listedField : List (String × Value) :=
  [("id", .text "f"), ("if_this", .object []), ("then_action", .text "set_value"),
    ("then_field", .list [.text "size"]), ("then_value", .int 1)]

/-- Each of these rules stops a sound one, although the context is flat. -/
theorem bad_rules_stop_others :
    (∀ bad ∈ [hugePriority, hugeSize, listedField],
      (evaluate [] [ofFields bad, oneRule] [("size", .int 1)] (some FieldTable.empty)).isOk =
        false) ∧
    ¬∀ (records : List (List (String × Value))) (context : Context) (table : FieldTable),
      (∀ e ∈ context, isFlat e.2 = true) →
      ∃ outcome, evaluate [] (records.map ofFields) context (some table) = .ok outcome := by
  have stopped : ∀ bad ∈ [hugePriority, hugeSize, listedField],
      (evaluate [] [ofFields bad, oneRule] [("size", .int 1)] (some FieldTable.empty)).isOk =
        false := by decide +kernel
  refine ⟨stopped, fun returns => ?_⟩
  obtain ⟨outcome, h⟩ := returns [hugePriority, sizeRecord "one" (.int 1) "B"] [("size", .int 1)]
    FieldTable.empty (by decide)
  have failed : (Except.ok outcome : Except Fault Outcome).isOk = false :=
    h ▸ stopped hugePriority (by simp)
  cases failed

end MadeToOrder.Rule
