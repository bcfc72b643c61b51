import MadeToOrder.Proofs.Rule.Ranking

/-!
# Rules compiled beforehand

Compiling a list in two parts gives the rules of the whole list and its reports.
Only their places differ: a rule of the second part counts from the number of
compiled rules of the first one, although those keep the places of the list.
Equal priorities are settled by places, so the two ways agree unless two rules
of equal priority that apply change their order.
-/

set_option autoImplicit false

namespace MadeToOrder.Rule

def Compiled.moved (k : Nat) (c : Compiled) : Compiled := { c with position := k + c.position }

def Compiled.unplaced (c : Compiled) : Compiled := { c with position := 0 }

def Compiled.Alike (a b : Compiled) : Prop := a.unplaced = b.unplaced

def evaluateSplit (n : Nat) (rules : List Rule) (context : Context)
    (table : Option FieldTable) : Except Fault Outcome := do
  let (ready, reports) ← compileAll (rules.take n)
  let outcome ← evaluate ready (rules.drop n) context table
  return { outcome with diagnostics := reports ++ outcome.diagnostics }

theorem compile_moved (rule : Rule) (k position : Nat) :
    compile rule (k + position) = (compile rule position).map (Compiled.moved k) := by
  unfold compile
  cases orFault (conditionOf rule) with
  | error fault => rfl
  | ok condition =>
    cases orFault (assignments rule.actions) with
    | error fault => rfl
    | ok assigned =>
      cases orFault (restrictionOf rule) with
      | error fault => rfl
      | ok restriction =>
        cases priorityOf rule.priority with
        | error fault => rfl
        | ok priority => rfl

theorem compileOne_moved (rule : Rule) (k position : Nat) :
    compileOne rule (k + position) =
      (compileOne rule position).map (fun r => (r.1.map (Compiled.moved k), r.2)) := by
  unfold compileOne
  split
  · rfl
  · rw [compile_moved]
    cases compile rule position with
    | ok c => rfl
    | error fault => cases fault <;> rfl

/-- Compiling further on gives the same rules, each moved. -/
theorem compileFrom_moved (k start : Nat) (rules : List Rule) :
    compileFrom (k + start) rules =
      (compileFrom start rules).map (fun r => (r.1.map (Compiled.moved k), r.2)) := by
  induction rules generalizing start with
  | nil => rfl
  | cons rule rest ih =>
    rw [compileFrom_cons, compileFrom_cons, compileOne_moved, Nat.add_assoc, ih]
    cases compileOne rule start with
    | error fault => rfl
    | ok one =>
      cases compileFrom (start + 1) rest with
      | error fault => rfl
      | ok others => simp [Except.map, bind, Except.bind, pure, Except.pure]

theorem compileFrom_append (start : Nat) (first second : List Rule) :
    compileFrom start (first ++ second) = do
      let (cs, notes) ← compileFrom start first
      let (ds, others) ← compileFrom (start + first.length) second
      return (cs ++ ds, notes ++ others) := by
  induction first generalizing start with
  | nil =>
    rw [List.nil_append, List.length_nil, Nat.add_zero]
    cases compileFrom start second <;> rfl
  | cons rule rest ih =>
    have size : start + 1 + rest.length = start + (rule :: rest).length := by
      rw [List.length_cons]
      omega
    rw [List.cons_append, compileFrom_cons, compileFrom_cons, ih, size]
    cases compileOne rule start with
    | error fault => rfl
    | ok one =>
      cases compileFrom (start + 1) rest with
      | error fault => rfl
      | ok others =>
        cases compileFrom (start + (rule :: rest).length) second with
        | error fault => rfl
        | ok behind => simp [bind, Except.bind, pure, Except.pure]

namespace Compiled.Alike

variable {a b c d : Compiled}

theorem rule (h : a.Alike b) : a.rule = b.rule := by
  show a.unplaced.rule = b.unplaced.rule
  rw [h]

theorem condition (h : a.Alike b) : a.condition = b.condition := by
  show a.unplaced.condition = b.unplaced.condition
  rw [h]

theorem priority (h : a.Alike b) : a.priority = b.priority := by
  show a.unplaced.priority = b.unplaced.priority
  rw [h]

theorem mergesBefore (h : a.Alike b) (h' : c.Alike d) (rank : a.sameRank c = b.sameRank d) :
    a.mergesBefore c = b.mergesBefore d := by
  rw [Compiled.mergesBefore, Compiled.mergesBefore, h.priority, h'.priority, rank]

theorem listedBefore (h : a.Alike b) (h' : c.Alike d) (rank : a.sameRank c = b.sameRank d) :
    a.listedBefore c = b.listedBefore d := by
  rw [Compiled.listedBefore, Compiled.listedBefore, h.priority, h'.priority, rank]

end Compiled.Alike

/-- Each rule beside itself at another place: those that apply stand in the same
order there, as far as places decide it. -/
def KeepsRank (context : Context) (zs : List (Compiled × Compiled)) : Prop :=
  zs.Pairwise (fun z w => z.1.condition.evaluate context = .ok true →
    w.1.condition.evaluate context = .ok true → z.1.sameRank w.1 = z.2.sameRank w.2)

section

variable {context : Context} {table : Option FieldTable} {zs : List (Compiled × Compiled)}
  (alike : ∀ z ∈ zs, z.1.Alike z.2)

include alike

/-- Rules in other places match alike. -/
theorem matching_pairs (context : Context) :
    (∃ fault, matching context (zs.map Prod.fst) = .error fault ∧
      matching context (zs.map Prod.snd) = .error fault) ∨
    ∃ ws : List (Compiled × Compiled), ws.Sublist zs ∧
      matching context (zs.map Prod.fst) = .ok (ws.map Prod.fst) ∧
      matching context (zs.map Prod.snd) = .ok (ws.map Prod.snd) := by
  induction zs with
  | nil => exact Or.inr ⟨[], List.Sublist.refl _, rfl, rfl⟩
  | cons z rest ih =>
    obtain ⟨here, others⟩ := List.forall_mem_cons.mp alike
    simp only [List.map_cons, matching, here.condition]
    cases z.2.condition.evaluate context with
    | error fault => exact Or.inl ⟨fault, rfl, rfl⟩
    | ok holds =>
      rcases ih others with ⟨fault, left, right⟩ | ⟨ws, below, left, right⟩
      · exact Or.inl ⟨fault, by rw [left]; rfl, by rw [right]; rfl⟩
      · rw [left, right]
        cases holds with
        | true => exact Or.inr ⟨z :: ws, below.cons_cons z, rfl, rfl⟩
        | false => exact Or.inr ⟨ws, below.cons z, rfl, rfl⟩

theorem map_rule_pairs :
    (zs.map Prod.fst).map Compiled.rule = (zs.map Prod.snd).map Compiled.rule := by
  rw [List.map_map, List.map_map]
  apply List.map_congr_left
  intro z member
  exact (alike z member).rule

/-- Both orders sort the pairs themselves in one way. -/
theorem sort_pairs {le : Compiled → Compiled → Bool}
    (ordered : zs.Pairwise (fun z w => le z.1 w.1 = le z.2 w.2)) :
    ∃ ws : List (Compiled × Compiled), (∀ w ∈ ws, w.1.Alike w.2) ∧
      Sorting.sort le (zs.map Prod.fst) = ws.map Prod.fst ∧
      Sorting.sort le (zs.map Prod.snd) = ws.map Prod.snd := by
  refine ⟨Sorting.sort (fun z w => le z.2 w.2) zs, ?_, Sorting.sort_map ordered,
    Sorting.sort_map (List.pairwise_of_forall (fun _ _ => rfl))⟩
  intro w member
  exact alike w ((Sorting.mem_sort _ w zs).mp member)

/-- Merging does not look at places. -/
theorem merge_pairs (o : Overrides) (cs : Constraints) :
    merge table o cs (zs.map Prod.fst) = merge table o cs (zs.map Prod.snd) := by
  induction zs generalizing o cs with
  | nil => rfl
  | cons z rest ih =>
    obtain ⟨here, others⟩ := List.forall_mem_cons.mp alike
    have same : mergeOne table o cs z.1 = mergeOne table o cs z.2 := by
      show mergeOne table o cs z.1.unplaced = mergeOne table o cs z.2.unplaced
      rw [here]
    simp only [List.map_cons, merge, same, ih others]

/-- Rules in other places do the same if those of equal priority keep their order. -/
theorem outcomeOf_pairs (notes : List Diagnostic) (kept : KeepsRank context zs) :
    outcomeOf table context (zs.map Prod.fst) notes =
      outcomeOf table context (zs.map Prod.snd) notes := by
  unfold outcomeOf
  rcases matching_pairs alike context with ⟨fault, left, right⟩ | ⟨ws, below, left, right⟩
  · rw [left, right]
  · -- The list is sorted twice, for merging and for display, and both times as pairs.
    have same : ∀ w ∈ ws, w.1.Alike w.2 := fun w member => alike w (below.subset member)
    have holds : ∀ w ∈ ws, w.1.condition.evaluate context = .ok true := fun w member =>
      ((mem_matching left w.1).mp (List.mem_map_of_mem member)).2
    have ranks : ws.Pairwise (fun z w => z.1.sameRank w.1 = z.2.sameRank w.2) :=
      (kept.sublist below).imp_of_mem (fun {z w} first second rank =>
        rank (holds z first) (holds w second))
    obtain ⟨merges, mergesAlike, mergeLeft, mergeRight⟩ :=
      sort_pairs same (ranks.imp_of_mem (fun {z w} first second rank =>
        (same z first).mergesBefore (same w second) rank))
    obtain ⟨lists, listsAlike, listLeft, listRight⟩ :=
      sort_pairs same (ranks.imp_of_mem (fun {z w} first second rank =>
        (same z first).listedBefore (same w second) rank))
    rw [left, right]
    simp only [bind, Except.bind]
    rw [mergeLeft, mergeRight, merge_pairs mergesAlike, listLeft, listRight,
      map_rule_pairs listsAlike]

/-- In any places the same rules are shown. -/
theorem perm_matched_of_pairs {notes : List Diagnostic} {first second : Outcome}
    (h : outcomeOf table context (zs.map Prod.fst) notes = .ok first)
    (h' : outcomeOf table context (zs.map Prod.snd) notes = .ok second) :
    first.diagnostics = second.diagnostics ∧ first.matched.Perm second.matched := by
  obtain ⟨ms, found, h⟩ := bind_eq_ok.mp h
  obtain ⟨_, _, h⟩ := bind_eq_ok.mp h
  obtain ⟨ms', found', h'⟩ := bind_eq_ok.mp h'
  obtain ⟨_, _, h'⟩ := bind_eq_ok.mp h'
  obtain rfl := Except.ok.inj h
  obtain rfl := Except.ok.inj h'
  rcases matching_pairs alike context with ⟨fault, left, _⟩ | ⟨ws, below, left, right⟩
  · rw [left] at found
    cases found
  · rw [left] at found
    rw [right] at found'
    obtain rfl := Except.ok.inj found
    obtain rfl := Except.ok.inj found'
    have same : ∀ w ∈ ws, w.1.Alike w.2 := fun w member => alike w (below.subset member)
    have front := (Sorting.sort_perm Compiled.listedBefore (ws.map Prod.fst)).map Compiled.rule
    have back := (Sorting.sort_perm Compiled.listedBefore (ws.map Prod.snd)).map Compiled.rule
    rw [map_rule_pairs same] at front
    exact ⟨rfl, front.trans back.symm⟩

end

/-- Two rules of equal priority apply, one among the first `n`, and the places
that they get put the other one before it. -/
def Crosses (n : Nat) (rules : List Rule) (context : Context) : Prop :=
  ∃ ready reports later notes, compileAll (rules.take n) = .ok (ready, reports) ∧
    compileAll (rules.drop n) = .ok (later, notes) ∧
    ∃ a ∈ ready, ∃ b ∈ later, a.condition.evaluate context = .ok true ∧
      b.condition.evaluate context = .ok true ∧ a.priority.equal b.priority = true ∧
      ready.length + b.position < a.position

theorem position_lt_of_mem {rules : List Rule} {cs : List Compiled} {notes : List Diagnostic}
    (h : compileAll rules = .ok (cs, notes)) {c : Compiled} (member : c ∈ cs) :
    c.position < rules.length := by
  obtain ⟨k, rule, listed, _, compiled⟩ := (mem_compileFrom h c).mp member
  have place := (compile_eq_ok compiled).2.1
  have inside := (List.getElem?_eq_some_iff.mp listed).1
  omega

/-- Nothing crosses where at most one of the first rules is left out. -/
theorem not_crosses_of_complete {n : Nat} {rules : List Rule} {context : Context}
    {ready : List Compiled} {reports : List Diagnostic}
    (h : compileAll (rules.take n) = .ok (ready, reports))
    (complete : (rules.take n).length ≤ ready.length + 1) : ¬Crosses n rules context := by
  rintro ⟨_, _, _, _, compiled, _, a, member, b, _, _, _, _, behind⟩
  rw [h] at compiled
  obtain ⟨rfl, _⟩ := Prod.mk.inj (Except.ok.inj compiled)
  have inside := position_lt_of_mem h member
  omega

/-- Reports found before go in front. -/
theorem outcomeOf_reports (table : Option FieldTable) (context : Context) (cs : List Compiled)
    (reports notes : List Diagnostic) :
    (do
      let outcome ← outcomeOf table context cs notes
      return { outcome with diagnostics := reports ++ outcome.diagnostics }) =
      outcomeOf table context cs (reports ++ notes) := by
  unfold outcomeOf
  cases matching context cs with
  | error fault => rfl
  | ok ms =>
    simp only [bind, Except.bind]
    cases merge table Overrides.empty [] (Sorting.sort Compiled.mergesBefore ms) <;> rfl

/-- Compiling the parts of a list one after the other. -/
theorem compileAll_parts (n : Nat) (rules : List Rule) :
    compileAll rules = do
      let (ready, reports) ← compileAll (rules.take n)
      let (later, notes) ← compileAll (rules.drop n)
      return (ready ++ later.map (Compiled.moved (rules.take n).length), reports ++ notes) := by
  have parts := compileFrom_append 0 (rules.take n) (rules.drop n)
  rw [List.take_append_drop, Nat.zero_add, ← Nat.add_zero (rules.take n).length,
    compileFrom_moved] at parts
  unfold compileAll
  rw [parts]
  cases compileFrom 0 (rules.take n) with
  | error fault => rfl
  | ok first => cases compileFrom 0 (rules.drop n) <;> rfl

def placements (n : Nat) (ready later : List Compiled) : List (Compiled × Compiled) :=
  ready.map (fun c => (c, c)) ++ later.map (fun c => (c.moved ready.length, c.moved n))

theorem fst_placements (n : Nat) (ready later : List Compiled) :
    (placements n ready later).map Prod.fst = ready ++ later.map (Compiled.moved ready.length) := by
  simp [placements, Function.comp_def]

theorem snd_placements (n : Nat) (ready later : List Compiled) :
    (placements n ready later).map Prod.snd = ready ++ later.map (Compiled.moved n) := by
  simp [placements, Function.comp_def]

theorem alike_placements (n : Nat) (ready later : List Compiled) :
    ∀ z ∈ placements n ready later, z.1.Alike z.2 := by
  intro z member
  rcases List.mem_append.mp member with member | member
  · obtain ⟨c, _, rfl⟩ := List.mem_map.mp member
    rfl
  · obtain ⟨c, _, rfl⟩ := List.mem_map.mp member
    rfl

/-- Within a part all places move alike, so only a pair across the split can change
its order, and only where priorities are equal. -/
theorem keepsRank_placements {n : Nat} {ready later : List Compiled} {context : Context}
    (inside : ∀ a ∈ ready, a.position < n)
    (clear : ∀ a ∈ ready, ∀ b ∈ later, a.condition.evaluate context = .ok true →
      b.condition.evaluate context = .ok true → a.priority.equal b.priority = true →
      a.position ≤ ready.length + b.position) :
    KeepsRank context (placements n ready later) := by
  rw [KeepsRank, placements, List.pairwise_append, List.pairwise_map, List.pairwise_map]
  refine ⟨List.pairwise_of_forall (fun _ _ _ _ => rfl), ?_, ?_⟩
  · apply List.pairwise_of_forall
    intro c d _ _
    simp [Compiled.sameRank, Compiled.moved]
  · intro z zMember w wMember zHolds wHolds
    obtain ⟨a, aMember, rfl⟩ := List.mem_map.mp zMember
    obtain ⟨b, bMember, rfl⟩ := List.mem_map.mp wMember
    by_cases equal : a.priority.equal b.priority = true
    · have kept := clear a aMember b bMember zHolds wHolds equal
      have placed : a.position ≤ n + b.position := by
        have := inside a aMember
        omega
      simp only [Compiled.sameRank, Compiled.moved, kept, placed]
    · simp [Compiled.sameRank, Compiled.moved, equal]

/-- Both ways compile the same rules, those of the second part in other places. -/
theorem exists_placements (n : Nat) (rules : List Rule) (context : Context)
    (table : Option FieldTable) :
    (∃ fault, evaluateSplit n rules context table = .error fault ∧
      evaluate [] rules context table = .error fault) ∨
    ∃ (zs : List (Compiled × Compiled)) (notes : List Diagnostic),
      (∀ z ∈ zs, z.1.Alike z.2) ∧ (¬Crosses n rules context → KeepsRank context zs) ∧
      evaluateSplit n rules context table = outcomeOf table context (zs.map Prod.fst) notes ∧
      evaluate [] rules context table = outcomeOf table context (zs.map Prod.snd) notes := by
  have parts := compileAll_parts n rules
  rw [evaluate_nil]
  unfold evaluateSplit evaluate
  cases first : compileAll (rules.take n) with
  | error fault =>
    rw [first] at parts
    exact Or.inl ⟨fault, rfl, by rw [parts]; rfl⟩
  | ok r =>
    obtain ⟨ready, reports⟩ := r
    cases second : compileAll (rules.drop n) with
    | error fault =>
      rw [first, second] at parts
      exact Or.inl ⟨fault, rfl, by rw [parts]; rfl⟩
    | ok r =>
      obtain ⟨later, notes⟩ := r
      rw [first, second] at parts
      refine Or.inr ⟨placements (rules.take n).length ready later, reports ++ notes,
        alike_placements _ ready later, fun clear => ?_, ?_, ?_⟩
      · apply keepsRank_placements (fun a member => position_lt_of_mem first member)
        intro a aMember b bMember aHolds bHolds equal
        by_contra behind
        exact clear ⟨ready, reports, later, notes, first, second, a, aMember, b, bMember,
          aHolds, bHolds, equal, not_le.mp behind⟩
      · rw [fst_placements, ← outcomeOf_reports]
        rfl
      · rw [snd_placements, parts]
        rfl

/-- Both ways give the same reports and show the same rules. They do the same
unless rules of equal priority cross. -/
theorem evaluateSplit_agrees (n : Nat) (rules : List Rule) (context : Context)
    (table : Option FieldTable) :
    (¬Crosses n rules context →
      evaluateSplit n rules context table = evaluate [] rules context table) ∧
    ∀ split whole, evaluateSplit n rules context table = .ok split →
      evaluate [] rules context table = .ok whole →
      split.diagnostics = whole.diagnostics ∧ split.matched.Perm whole.matched := by
  rcases exists_placements n rules context table with
    ⟨fault, first, second⟩ | ⟨zs, notes, alike, kept, first, second⟩
  · rw [first, second]
    exact ⟨fun _ => rfl, fun split whole found => by cases found⟩
  · rw [first, second]
    refine ⟨fun clear => outcomeOf_pairs alike notes (kept clear), ?_⟩
    intro split whole found found'
    exact perm_matched_of_pairs alike found found'

def codeRule (active : Bool) (code : String) : Rule where
  id := .null
  name := .null
  priority := .null
  active := .bool active
  condition := .object []
  actions := .object [("sku_code", .text code)]
  constraintKind := .null
  constraintField := .null
  constraintValue := .null

/-- With one inactive rule in front nothing crosses. -/
theorem one_inactive_agrees :
    ¬Crosses 2 [codeRule false "X", codeRule true "A", codeRule true "B"] [] ∧
      evaluateSplit 2 [codeRule false "X", codeRule true "A", codeRule true "B"] [] none =
        evaluate [] [codeRule false "X", codeRule true "A", codeRule true "B"] [] none := by
  have clear : ¬Crosses 2 [codeRule false "X", codeRule true "A", codeRule true "B"] [] :=
    not_crosses_of_complete rfl (by decide)
  exact ⟨clear, (evaluateSplit_agrees 2 _ [] none).1 clear⟩

/-- With two inactive rules in front a compiled rule stands at place 2 and the rule
behind it at place 1, so the code of the earlier one wins. -/
theorem two_inactive_disagree :
    ¬∀ (n : Nat) (rules : List Rule) (context : Context) (table : Option FieldTable)
      (split whole : Outcome), evaluateSplit n rules context table = .ok split →
      evaluate [] rules context table = .ok whole →
      split.matched = whole.matched ∧ split.overrides = whole.overrides ∧
        split.constraints = whole.constraints ∧ split.diagnostics = whole.diagnostics := by
  intro agree
  have same := (agree 3
    [codeRule false "X", codeRule false "Y", codeRule true "A", codeRule true "B"] [] none _ _
    rfl rfl).2.1
  have codes : some "A" = some "B" := congrArg Overrides.product same
  exact absurd codes (by decide)

end MadeToOrder.Rule
