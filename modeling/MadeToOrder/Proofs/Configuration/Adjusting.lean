import MadeToOrder.Configuration

/-!
# The adjusting loop

A configuration settles turn by turn. Each turn runs the engines and gives one
field with an unavailable choice another value, or none once the budget is used
up. The replacements of one field can invalidate another for ever, so within the
budget nothing shrinks; behind it every turn clears a field that was chosen. A
run therefore has at most as many turns as the budget and the chosen fields
together, whatever the rules do.
-/

set_option autoImplicit false

namespace MadeToOrder.Configuration

structure Stage where
  turns : Nat
  selection : Selection

def successor (snapshot : Snapshot) (p : Pass) (s : Stage) (spec : FieldSpec)
    (bad : List String) : Except Fault Value :=
  if s.turns < budget snapshot then
    replacement snapshot p.availability spec (Selection.at? s.selection spec.field) bad
  else .ok .null

def next? (snapshot : Snapshot) (trigger : Trigger) (line : Value) (s : Stage) :
    Except Fault (Option (Stage × Event)) := do
  let p ← pass snapshot trigger line s.selection
  match firstInvalid? snapshot p s.selection with
  | none => return none
  | some (spec, bad) => do
    let v ← successor snapshot p s spec bad
    return some (⟨s.turns + 1, assign s.selection spec.field v⟩,
      .adjusted spec.field (Selection.at? s.selection spec.field) v)

/-- The turns that lead from one stage to another, with their adjustments. -/
inductive Run (snapshot : Snapshot) (trigger : Trigger) (line : Value) :
    Stage → List Event → Stage → Prop
  | stay (s : Stage) : Run snapshot trigger line s [] s
  | turn {s t u : Stage} {event : Event} {events : List Event}
      (first : next? snapshot trigger line s = .ok (some (t, event)))
      (rest : Run snapshot trigger line t events u) :
      Run snapshot trigger line s (event :: events) u

def chosenFields (table : FieldTable) (selection : Selection) : List FieldSpec :=
  table.specs.filter (fun spec => !spec.isLine && Keyed.has selection spec.field)

variable {snapshot : Snapshot} {trigger : Trigger} {line : Value}

theorem firstInvalid?_eq_some {p : Pass} {selection : Selection} {spec : FieldSpec}
    {bad : List String} (h : firstInvalid? snapshot p selection = some (spec, bad)) :
    spec ∈ snapshot.table.specs ∧ spec.isLine = false ∧
      bad = p.availability.invalidIn selection spec ∧ bad ≠ [] := by
  obtain ⟨other, member, found⟩ := List.exists_of_findSome?_eq_some h
  by_cases empty : (p.availability.invalidIn selection other).isEmpty = true
  · simp [empty] at found
  · simp only [empty, Bool.false_eq_true, if_false, Option.some.injEq, Prod.mk.injEq] at found
    obtain ⟨rfl, rfl⟩ := found
    have nonempty : p.availability.invalidIn selection other ≠ [] := by simpa using empty
    refine ⟨member, ?_, rfl, nonempty⟩
    by_cases isLine : other.isLine = true
    · simp [Availability.invalidIn, isLine] at nonempty
    · simpa using isLine

theorem firstInvalid?_eq_none {p : Pass} {selection : Selection} :
    firstInvalid? snapshot p selection = none ↔
      ∀ spec ∈ snapshot.table.specs, p.availability.invalidIn selection spec = [] := by
  simp [firstInvalid?, List.findSome?_eq_none_iff]

/-- Everything that one turn can do. -/
theorem next?_eq_some {s t : Stage} {event : Event}
    (h : next? snapshot trigger line s = .ok (some (t, event))) :
    ∃ p spec bad v, pass snapshot trigger line s.selection = .ok p ∧
      firstInvalid? snapshot p s.selection = some (spec, bad) ∧
      successor snapshot p s spec bad = .ok v ∧
      t = ⟨s.turns + 1, assign s.selection spec.field v⟩ ∧
      event = .adjusted spec.field (Selection.at? s.selection spec.field) v := by
  unfold next? at h
  cases hp : pass snapshot trigger line s.selection with
  | error fault => simp [hp, bind, Except.bind] at h
  | ok p =>
    cases hi : firstInvalid? snapshot p s.selection with
    | none => simp [hp, hi, bind, Except.bind, pure, Except.pure] at h
    | some invalid =>
      obtain ⟨spec, bad⟩ := invalid
      cases hv : successor snapshot p s spec bad with
      | error fault => simp [hp, hi, hv, bind, Except.bind] at h
      | ok v =>
        simp only [hp, hi, hv, bind, Except.bind, pure, Except.pure, Except.ok.injEq,
          Option.some.injEq, Prod.mk.injEq] at h
        exact ⟨p, spec, bad, v, rfl, hi, hv, h.1.symm, h.2.symm⟩

theorem has_assign {selection : Selection} {field other : String} {v : Value}
    (present : Keyed.has selection field = true)
    (h : Keyed.has (assign selection field v) other = true) :
    Keyed.has selection other = true := by
  unfold assign at h
  split at h
  · exact ((Keyed.has_erase selection field other).mp h).2
  · rcases (Keyed.has_put selection field other v).mp h with rfl | earlier
    · exact present
    · exact earlier

/-- A turn never adds a field. -/
theorem has_of_next? {s t : Stage} {event : Event}
    (h : next? snapshot trigger line s = .ok (some (t, event))) {field : String}
    (present : Keyed.has t.selection field = true) : Keyed.has s.selection field = true := by
  obtain ⟨p, spec, bad, v, _, invalid, _, rfl, _⟩ := next?_eq_some h
  exact has_assign (has_of_firstInvalid? invalid) present

theorem chosenFields_le (table : FieldTable) {a b : Selection}
    (h : ∀ field, Keyed.has a field = true → Keyed.has b field = true) :
    (chosenFields table a).length ≤ (chosenFields table b).length := by
  simp only [chosenFields, ← List.countP_eq_length_filter]
  apply List.countP_mono_left
  intro spec _ chosen
  rw [Bool.and_eq_true] at chosen ⊢
  exact ⟨chosen.1, h _ chosen.2⟩

theorem chosenFields_erase (table : FieldTable) (selection : Selection) (field : String) :
    chosenFields table (Keyed.erase selection field) =
      (chosenFields table selection).filter (fun spec => spec.field ≠ field) := by
  rw [chosenFields, chosenFields, List.filter_filter]
  apply List.filter_congr
  intro spec _
  rw [Bool.eq_iff_iff]
  simp [Keyed.has_erase, and_left_comm]

theorem chosenFields_erase_lt {table : FieldTable} {selection : Selection} {spec : FieldSpec}
    (member : spec ∈ table.specs) (notLine : spec.isLine = false)
    (present : Keyed.has selection spec.field = true) :
    (chosenFields table (Keyed.erase selection spec.field)).length <
      (chosenFields table selection).length := by
  rw [chosenFields_erase, List.length_filter_lt_length_iff_exists]
  exact ⟨spec, List.mem_filter.mpr ⟨member, by simp [notLine, present]⟩, by simp⟩

/-- The turns that are left at a stage: the rest of the budget, then one for
each chosen field. -/
def remaining (snapshot : Snapshot) (s : Stage) : Nat :=
  (budget snapshot - s.turns) + (chosenFields snapshot.table s.selection).length

theorem remaining_next?_lt {s t : Stage} {event : Event}
    (h : next? snapshot trigger line s = .ok (some (t, event))) :
    remaining snapshot t < remaining snapshot s := by
  have kept := chosenFields_le snapshot.table (fun _ => has_of_next? h)
  obtain ⟨p, spec, bad, v, _, invalid, found, rfl, _⟩ := next?_eq_some h
  obtain ⟨member, notLine, _, _⟩ := firstInvalid?_eq_some invalid
  by_cases early : s.turns < budget snapshot
  · simp only [remaining] at kept ⊢
    omega
  · simp only [successor, early, if_false, Except.ok.injEq] at found
    subst found
    have fewer := chosenFields_erase_lt member notLine (has_of_firstInvalid? invalid)
    simp only [remaining, assign, Value.isNull, if_true]
    omega

theorem run_length_le {s u : Stage} {events : List Event}
    (h : Run snapshot trigger line s events u) : events.length ≤ remaining snapshot s := by
  induction h with
  | stay s => exact Nat.zero_le _
  | turn first rest ih =>
    have fewer := remaining_next?_lt first
    simp only [List.length_cons]
    omega

/-- How the loop ends at a stage: every choice is available, or a turn fails. -/
inductive Ends (snapshot : Snapshot) (trigger : Trigger) (line : Value) (u : Stage)
    (events : List Event) : Except Fault Settled → Prop
  | settled {p : Pass} (computed : pass snapshot trigger line u.selection = .ok p)
      (valid : firstInvalid? snapshot p u.selection = none) :
      Ends snapshot trigger line u events (.ok ⟨u.selection, p, events⟩)
  | failed {fault : Fault} (stuck : next? snapshot trigger line u = .error fault) :
      Ends snapshot trigger line u events (.error fault)

theorem Ends.after {u : Stage} {events : List Event} {result : Except Fault Settled}
    (h : Ends snapshot trigger line u events result) (event : Event) :
    Ends snapshot trigger line u (event :: events) (result.map (Settled.after event)) := by
  cases h with
  | settled computed valid => exact .settled computed valid
  | failed stuck => exact .failed stuck

def Reaches (snapshot : Snapshot) (trigger : Trigger) (line : Value) (s : Stage)
    (result : Except Fault Settled) : Prop :=
  ∃ events u, Run snapshot trigger line s events u ∧ Ends snapshot trigger line u events result

theorem Reaches.turn {s t : Stage} {event : Event} {result : Except Fault Settled}
    (first : next? snapshot trigger line s = .ok (some (t, event)))
    (rest : Reaches snapshot trigger line t result) :
    Reaches snapshot trigger line s (result.map (Settled.after event)) := by
  obtain ⟨events, u, run, ends⟩ := rest
  exact ⟨event :: events, u, .turn first run, ends.after event⟩

theorem clear_of_valid {selection : Selection} {p : Pass}
    (computed : pass snapshot trigger line selection = .ok p)
    (valid : firstInvalid? snapshot p selection = none) :
    clear snapshot trigger line selection = .ok ⟨selection, p, []⟩ := by
  rw [clear, computed]
  dsimp only
  split
  · rfl
  · rename_i invalid
    simp [valid] at invalid

theorem clear_of_invalid {selection : Selection} {p : Pass} {spec : FieldSpec}
    {bad : List String} (computed : pass snapshot trigger line selection = .ok p)
    (invalid : firstInvalid? snapshot p selection = some (spec, bad)) :
    clear snapshot trigger line selection =
      (clear snapshot trigger line (Keyed.erase selection spec.field)).map
        (Settled.after (.adjusted spec.field (Selection.at? selection spec.field) .null)) := by
  rw [clear, computed]
  dsimp only
  split
  · rename_i valid
    simp [invalid] at valid
  · rename_i found
    simp only [invalid, Option.some.injEq, Prod.mk.injEq] at found
    obtain ⟨rfl, _⟩ := found
    rfl

theorem reaches_clear (s : Stage) (late : budget snapshot ≤ s.turns) :
    Reaches snapshot trigger line s (clear snapshot trigger line s.selection) := by
  obtain ⟨turns, selection⟩ := s
  induction selection using clear.induct snapshot trigger line generalizing turns with
  | case1 selection fault computed =>
    rw [clear, computed]
    exact ⟨[], _, .stay _, .failed (by simp [next?, computed, bind, Except.bind])⟩
  | case2 selection p computed valid =>
    rw [clear_of_valid computed valid]
    exact ⟨[], _, .stay _, .settled computed valid⟩
  | case3 selection p computed spec bad invalid ih =>
    rw [clear_of_invalid computed invalid]
    refine .turn ?_ (ih (turns + 1) (Nat.le_succ_of_le late))
    simp [next?, computed, invalid, successor, Nat.not_lt.mpr late, assign, Value.isNull, bind,
      Except.bind, pure, Except.pure]

theorem settle_of_replaced {left : Nat} {selection : Selection} {p : Pass} {spec : FieldSpec}
    {bad : List String} {v : Value} (computed : pass snapshot trigger line selection = .ok p)
    (invalid : firstInvalid? snapshot p selection = some (spec, bad))
    (replaced : replacement snapshot p.availability spec
      (Selection.at? selection spec.field) bad = .ok v) :
    settle snapshot trigger line (left + 1) selection =
      (settle snapshot trigger line left (assign selection spec.field v)).map
        (Settled.after (.adjusted spec.field (Selection.at? selection spec.field) v)) := by
  simp only [settle, computed, invalid, replaced, bind, Except.bind, pure, Except.pure]
  cases settle snapshot trigger line left (assign selection spec.field v) with
  | error fault => rfl
  | ok settled => rfl

theorem reaches_settle (s : Stage) (left : Nat) (h : s.turns + left = budget snapshot) :
    Reaches snapshot trigger line s (settle snapshot trigger line left s.selection) := by
  induction left generalizing s with
  | zero => exact reaches_clear s (Nat.le_of_eq h.symm)
  | succ left ih =>
    have early : s.turns < budget snapshot := by omega
    cases computed : pass snapshot trigger line s.selection with
    | error fault =>
      simp only [settle, computed, bind, Except.bind]
      exact ⟨[], s, .stay s, .failed (by simp [next?, computed, bind, Except.bind])⟩
    | ok p =>
      cases invalid : firstInvalid? snapshot p s.selection with
      | none =>
        simp only [settle, computed, invalid, bind, Except.bind, pure, Except.pure]
        exact ⟨[], s, .stay s, .settled computed invalid⟩
      | some found =>
        obtain ⟨spec, bad⟩ := found
        cases replaced : replacement snapshot p.availability spec
            (Selection.at? s.selection spec.field) bad with
        | error fault =>
          simp only [settle, computed, invalid, replaced, bind, Except.bind]
          exact ⟨[], s, .stay s, .failed (by
            simp [next?, computed, invalid, successor, early, replaced, bind, Except.bind])⟩
        | ok v =>
          rw [settle_of_replaced computed invalid replaced]
          refine .turn ?_ (ih ⟨s.turns + 1, assign s.selection spec.field v⟩ (by simp only; omega))
          simp [next?, computed, invalid, successor, early, replaced, bind, Except.bind, pure,
            Except.pure]

/-- A selection without a line as it stands, or the last stage of the loop with its code. -/
theorem configure_eq_ok {settings : Settings} {selection : Selection} {state : State}
    {events : List Event} (h : configure selection snapshot settings = .ok (state, events)) :
    (state = ⟨selection, none, none, snapshot.asOf⟩ ∧ events = []) ∨
    ∃ line settled sku, lineOf? snapshot.table selection = some line ∧
      settle snapshot settings.trigger line (budget snapshot) selection = .ok settled ∧
      Sku.build settled.selection settled.pass.outcome.overrides snapshot.codeFields snapshot
        settings.separators = .ok sku ∧
      state = ⟨settled.selection, some line,
        some ⟨settled.pass.availability, settled.pass.outcome, sku⟩, snapshot.asOf⟩ ∧
      events = settled.adjustments ++ closingEvents settled.pass sku := by
  unfold configure at h
  cases found : lineOf? snapshot.table selection with
  | none =>
    simp only [found, Except.ok.injEq, Prod.mk.injEq] at h
    exact Or.inl ⟨h.1.symm, h.2.symm⟩
  | some line =>
    simp only [found] at h
    obtain ⟨settled, ran, h⟩ := bind_eq_ok.mp h
    obtain ⟨sku, built, h⟩ := bind_eq_ok.mp h
    simp only [pure, Except.pure, Except.ok.injEq, Prod.mk.injEq] at h
    exact Or.inr ⟨line, settled, sku, rfl, ran, built, h.1.symm, h.2.symm⟩

theorem recompute_eq_ok {settings : Settings} {selection : Selection} {state : State}
    {events : List Event} (h : recompute selection snapshot settings = .ok (state, events)) :
    (state = ⟨Selection.normalize snapshot.table selection, none, none, snapshot.asOf⟩ ∧
      events = []) ∨
    ∃ line settled sku,
      lineOf? snapshot.table (Selection.normalize snapshot.table selection) = some line ∧
      settle snapshot settings.trigger line (budget snapshot)
        (Selection.normalize snapshot.table selection) = .ok settled ∧
      Sku.build settled.selection settled.pass.outcome.overrides snapshot.codeFields snapshot
        settings.separators = .ok sku ∧
      state = ⟨settled.selection, some line,
        some ⟨settled.pass.availability, settled.pass.outcome, sku⟩, snapshot.asOf⟩ ∧
      events = settled.adjustments ++ closingEvents settled.pass sku :=
  configure_eq_ok h

theorem isAdjustment_closingEvents (p : Pass) (sku : Sku.Built) :
    ∀ event ∈ closingEvents p sku, event.isAdjustment = false := by
  simp [closingEvents, Event.isAdjustment]

theorem filter_closingEvents (p : Pass) (sku : Sku.Built) :
    (closingEvents p sku).filter Event.isAdjustment = [] := by
  rw [List.filter_eq_nil_iff]
  intro event member
  simp [isAdjustment_closingEvents _ _ event member]

def start (snapshot : Snapshot) (selection : Selection) : Stage :=
  ⟨0, Selection.normalize snapshot.table selection⟩

theorem remaining_start (snapshot : Snapshot) (selection : Selection) :
    remaining snapshot (start snapshot selection) = 3 * snapshot.table.specs.length +
      (chosenFields snapshot.table (Selection.normalize snapshot.table selection)).length := by
  simp [remaining, start, budget, passesPerField]

/-- A configuration comes out of a run of the loop. -/
theorem exists_run_of_settle {left : Nat} {s : Stage} {settled : Settled}
    (h : s.turns + left = budget snapshot)
    (ran : settle snapshot trigger line left s.selection = .ok settled) :
    ∃ u, Run snapshot trigger line s settled.adjustments u ∧ settled.selection = u.selection ∧
      pass snapshot trigger line u.selection = .ok settled.pass ∧
      firstInvalid? snapshot settled.pass u.selection = none := by
  obtain ⟨events, u, run, ends⟩ := @reaches_settle snapshot trigger line s left h
  rw [ran] at ends
  cases ends with
  | settled computed valid => exact ⟨u, run, rfl, computed, valid⟩

/-- Whatever the rules do, the loop that computes a configuration stops. No turn
adds a field. Every run has at most three turns for each row of the table and one
more for each chosen field. Some run ends where every choice is available, or
where the engines fail, with the result of the loop. What is reported of a
configuration keeps to the same bound. -/
theorem adjusting_stops (snapshot : Snapshot) (settings : Settings) (selection : Selection)
    (line : Value) :
    (∀ s t event, next? snapshot settings.trigger line s = .ok (some (t, event)) →
      ∀ field, Keyed.has t.selection field = true → Keyed.has s.selection field = true) ∧
    (∀ events u, Run snapshot settings.trigger line (start snapshot selection) events u →
      events.length ≤ 3 * snapshot.table.specs.length +
        (chosenFields snapshot.table (Selection.normalize snapshot.table selection)).length) ∧
    (∃ events u, Run snapshot settings.trigger line (start snapshot selection) events u ∧
      Ends snapshot settings.trigger line u events
        (settle snapshot settings.trigger line (budget snapshot)
          (Selection.normalize snapshot.table selection))) ∧
    (∀ state events, recompute selection snapshot settings = .ok (state, events) →
      (events.filter Event.isAdjustment).length ≤ 3 * snapshot.table.specs.length +
        (chosenFields snapshot.table (Selection.normalize snapshot.table selection)).length) := by
  have fits : (start snapshot selection).turns + budget snapshot = budget snapshot :=
    Nat.zero_add _
  refine ⟨fun s t event first field => has_of_next? first, ?_, ?_, ?_⟩
  · intro events u run
    rw [← remaining_start]
    exact run_length_le run
  · exact reaches_settle (start snapshot selection) (budget snapshot) fits
  · intro state events h
    rcases recompute_eq_ok h with ⟨_, rfl⟩ | ⟨other, settled, sku, _, ran, _, _, rfl⟩
    · simp
    · obtain ⟨u, run, _⟩ := exists_run_of_settle (s := start snapshot selection) fits ran
      rw [List.filter_append, filter_closingEvents, List.append_nil, ← remaining_start]
      exact Nat.le_trans (List.length_filter_le _ _) (run_length_le run)

def withdrawal (color : String) : Rule where
  id := .text color
  name := .null
  priority := .null
  active := .bool true
  condition := .object [("color", .text color)]
  actions := .null
  constraintKind := .text "disable_option"
  constraintField := .text "color"
  constraintValue := .text color

def plainOption (collection id : String) : CatalogOption :=
  ⟨.text id, .text id, .text id, collection, .null, .bool true⟩

def twoColors (rules : List Rule) : Snapshot where
  table := ⟨[⟨"product_lines", "line", "line", "Line", true, false, false⟩,
    ⟨"colors", "color", "color", "Color", true, false, true⟩], by decide, by decide, by decide⟩
  lines := [("deco", ⟨.text "deco", .null, .null, [("colors", "red"), ("colors", "blue")], .null⟩)]
  options := [("product_lines", [("deco", plainOption "product_lines" "deco")]),
    ("colors", [("red", plainOption "colors" "red"), ("blue", plainOption "colors" "blue")])]
  products := []
  overrides := []
  rules := rules
  codeFields := [⟨"colors", .int 1, .bool true⟩]
  diagnostics := []
  asOf := ""

def inRed : Selection := [("line", .text "deco"), ("color", .text "red")]

def inBlue : Selection := [("line", .text "deco"), ("color", .text "blue")]

/-- Two rules that take away whatever was just chosen use up every turn: red and
blue take turns until the color is cleared. -/
theorem every_turn_is_taken :
    ∃ events, Run (twoColors [withdrawal "red", withdrawal "blue"]) Trigger.standard
        (.text "deco") (start (twoColors [withdrawal "red", withdrawal "blue"]) inRed)
        events ⟨7, [("line", .text "deco")]⟩ ∧
      events.length = 7 ∧ events.length ≤ 3 * 2 + 1 := by
  have run : Run (twoColors [withdrawal "red", withdrawal "blue"]) Trigger.standard
      (.text "deco") (start (twoColors [withdrawal "red", withdrawal "blue"]) inRed)
      [_, _, _, _, _, _, _] ⟨7, [("line", .text "deco")]⟩ :=
    .turn (t := ⟨1, inBlue⟩) rfl <| .turn (t := ⟨2, inRed⟩) rfl <|
    .turn (t := ⟨3, inBlue⟩) rfl <| .turn (t := ⟨4, inRed⟩) rfl <|
    .turn (t := ⟨5, inBlue⟩) rfl <| .turn (t := ⟨6, inRed⟩) rfl <| .turn rfl (.stay _)
  exact ⟨_, run, rfl, (adjusting_stops _ Settings.standard inRed (.text "deco")).2.1 _ _ run⟩

end MadeToOrder.Configuration
