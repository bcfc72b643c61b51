import MadeToOrder.Proofs.Configuration.FixedPoint

/-!
# Replaying adjustments

Whoever carries out the adjustments of a configuration, in order, on the normal form of
what was asked for arrives at its selection. An adjustment tells the value that its field
had at that moment, one of whose ids was not available, and what was put in its place:
the first available option, the available part of a list, or nothing.
-/

set_option autoImplicit false

namespace MadeToOrder

namespace Selection

def amend (s : Selection) : Event → Selection
  | .adjusted field _ .null => Keyed.erase s field
  | .adjusted field _ v => Keyed.put s field v
  | _ => s

def replay (s : Selection) (events : List Event) : Selection := events.foldl amend s

theorem amend_adjusted (s : Selection) (field : String) (old new : Value) :
    amend s (.adjusted field old new) = Configuration.assign s field new := by
  cases new <;> rfl

def Listed (table : FieldTable) (s : Selection) : Prop :=
  ∀ spec ∈ table.specs, spec.multiSelect = true →
    ∀ v, Keyed.get? s spec.field = some v → ∃ items, v = .list items

theorem listed_normalize (table : FieldTable) (s : Selection) :
    Listed table (normalize table s) := by
  intro spec member several v found
  apply eq_list_of_isNormal (isNormal_of_get? (normal_normalize table s) found)
  rw [takesSeveral_of_mem member]
  exact several

end Selection

namespace Configuration

open Selection (Listed replay)

variable {s : Snapshot} {trigger : Trigger} {line : Value} {available : IdSet}

/-- The id stands before all other available ones in display order. -/
def FirstOf (s : Snapshot) (available : IdSet) (collection id : String) : Prop :=
  ∃ earlier o later, s.optionsFor collection = .ok (earlier ++ o :: later) ∧ o.key = id ∧
    id ∈ available ∧ ∀ other ∈ earlier, other.key ∉ available

/-- What a turn puts in the place of a value. Behind the budget that is nothing. -/
inductive Replaces (s : Snapshot) (available : IdSet) (spec : FieldSpec) (turn : Nat) :
    Value → Value → Prop
  | first {old : Value} {id : String} (early : turn < budget s)
    (single : spec.multiSelect = false) (first : FirstOf s available spec.collection id) :
    Replaces s available spec turn old (.text id)
  | unoffered {old : Value} {options : List CatalogOption} (early : turn < budget s)
    (single : spec.multiSelect = false) (shown : s.optionsFor spec.collection = .ok options)
    (nothing : ∀ o ∈ options, o.key ∉ available) : Replaces s available spec turn old .null
  | part {items : List Value} (early : turn < budget s) (several : spec.multiSelect = true)
    (some : ∃ item ∈ items, item.plain ∈ available) :
    Replaces s available spec turn (.list items)
      (.list (items.filter (fun item => item.plain ∈ available)))
  | emptied {items : List Value} (early : turn < budget s) (several : spec.multiSelect = true)
    (nothing : ∀ item ∈ items, item.plain ∉ available) :
    Replaces s available spec turn (.list items) .null
  | exhausted {old : Value} (late : budget s ≤ turn) : Replaces s available spec turn old .null

/-- The event adjusts a row of the table, and it is true of the options of that moment. -/
inductive Explained (s : Snapshot) (trigger : Trigger) (line : Value) (turn : Nat)
    (before : Selection) : Event → Prop
  | adjusted {p : Pass} {c : Choices} {spec : FieldSpec} {old new : Value}
    (computed : pass s trigger line before = .ok p)
    (row : s.table.byField? spec.field = some spec) (notLine : spec.isLine = false)
    (offered : Keyed.get? p.availability.choices spec.collection = some c)
    (held : Keyed.get? before spec.field = some old)
    (unavailable : ∃ id ∈ old.elements, id.plain ∉ c.available)
    (replaces : Replaces s c.available spec turn old new) :
    Explained s trigger line turn before (.adjusted spec.field old new)

theorem firstOf_of_find? {options : List CatalogOption} {collection id : String}
    (shown : s.optionsFor collection = .ok options)
    (found : (options.map CatalogOption.key).find? (fun key => key ∈ available) = some id) :
    FirstOf s available collection id := by
  rw [List.find?_map] at found
  obtain ⟨o, first, rfl⟩ := Option.map_eq_some_iff.mp found
  obtain ⟨listed, earlier, later, rfl, others⟩ := List.find?_eq_some_iff_append.mp first
  refine ⟨earlier, o, later, shown, rfl, by simpa using listed, fun other member => ?_⟩
  simpa using others other member

theorem exists_of_invalidIn {a : Availability} {selection : Selection} {spec : FieldSpec}
    (h : a.invalidIn selection spec ≠ []) :
    ∃ c v, Keyed.get? a.choices spec.collection = some c ∧
      Keyed.get? selection spec.field = some v ∧
      a.invalidIn selection spec =
        (v.elements.map Value.plain).filter (fun id => id ∉ c.available) := by
  unfold Availability.invalidIn at h ⊢
  by_cases isLine : spec.isLine = true
  · simp [isLine] at h
  rw [if_neg isLine] at h ⊢
  cases offered : Keyed.get? a.choices spec.collection with
  | none => simp [offered] at h
  | some c =>
    rw [offered] at h
    dsimp only at h ⊢
    by_cases unset : (Selection.at? selection spec.field).isUnset = true
    · simp [unset] at h
    rw [if_neg unset]
    unfold Selection.at? at unset ⊢
    cases held : Keyed.get? selection spec.field with
    | none => simp [held, Value.isUnset] at unset
    | some v => exact ⟨c, v, rfl, rfl, rfl⟩

/-- What stays of a list is its available part. -/
theorem keptIds_of_unavailable (items : List Value) :
    keptIds ((items.map Value.plain).filter (fun id => id ∉ available)) (.list items) =
      items.filter (fun item => item.plain ∈ available) := by
  apply List.filter_congr
  intro item member
  rw [decide_eq_decide]
  simp only [List.mem_filter, decide_eq_true_eq, not_and, Decidable.not_not]
  exact ⟨fun h => h (List.mem_map_of_mem member), fun h _ => h⟩

theorem replaces_of_successor {p : Pass} {stage : Stage} {spec : FieldSpec} {c : Choices}
    {old new : Value} (offered : Keyed.get? p.availability.choices spec.collection = some c)
    (held : Keyed.get? stage.selection spec.field = some old)
    (listed : spec.multiSelect = true → ∃ items, old = .list items)
    (h : successor s p stage spec ((old.elements.map Value.plain).filter
      (fun id => id ∉ c.available)) = .ok new) :
    Replaces s c.available spec stage.turns old new := by
  have there : p.availability.availableIn spec.collection = c.available := by
    rw [Availability.availableIn, offered, Option.map_some, Option.getD_some]
  by_cases early : stage.turns < budget s
  · rw [successor, if_pos early, replacement, Selection.at?, held, Option.getD_some] at h
    by_cases several : spec.multiSelect = true
    · obtain ⟨items, rfl⟩ := listed several
      rw [if_pos several, Value.elements, keptIds_of_unavailable] at h
      obtain rfl := Except.ok.inj h
      by_cases empty : items.filter (fun item => item.plain ∈ c.available) = []
      · rw [empty]
        apply Replaces.emptied early several
        intro item member
        simpa using List.filter_eq_nil_iff.mp empty item member
      · rw [if_neg (by simpa using empty)]
        apply Replaces.part early several
        obtain ⟨item, kept⟩ := List.exists_mem_of_ne_nil _ empty
        obtain ⟨member, available⟩ := List.mem_filter.mp kept
        exact ⟨item, member, by simpa using available⟩
    · have single : spec.multiSelect = false := by simpa using several
      rw [if_neg several] at h
      obtain ⟨first, found, rfl⟩ := map_eq_ok.mp h
      obtain ⟨options, shown, found⟩ := bind_eq_ok.mp found
      obtain rfl := Except.ok.inj found
      rw [there]
      cases chosen : (options.map CatalogOption.key).find? (fun key => key ∈ c.available) with
      | some id => exact .first early single (firstOf_of_find? shown chosen)
      | none =>
        apply Replaces.unoffered early single shown
        intro o member
        simpa using List.find?_eq_none.mp chosen o.key (List.mem_map_of_mem member)
  · rw [successor, if_neg early] at h
    obtain rfl := Except.ok.inj h
    exact .exhausted (Nat.le_of_not_lt early)

theorem explained_of_next? {stage later : Stage} {event : Event}
    (listed : Listed s.table stage.selection)
    (h : next? s trigger line stage = .ok (some (later, event))) :
    Explained s trigger line stage.turns stage.selection event ∧
      later = ⟨stage.turns + 1, stage.selection.amend event⟩ := by
  obtain ⟨p, spec, bad, v, computed, invalid, chosen, rfl, rfl⟩ := next?_eq_some h
  obtain ⟨member, notLine, rfl, some⟩ := firstInvalid?_eq_some invalid
  obtain ⟨c, old, offered, held, lacking⟩ := exists_of_invalidIn some
  rw [lacking] at chosen some
  have before : Selection.at? stage.selection spec.field = old := by
    rw [Selection.at?, held, Option.getD_some]
  rw [Selection.amend_adjusted, before]
  refine ⟨.adjusted computed (s.table.byField?_of_mem member) notLine offered held ?_ ?_, rfl⟩
  · obtain ⟨id, bad⟩ := List.exists_mem_of_ne_nil _ some
    obtain ⟨chosen, unavailable⟩ := List.mem_filter.mp bad
    obtain ⟨item, member, rfl⟩ := List.mem_map.mp chosen
    exact ⟨item, member, by simpa using unavailable⟩
  · exact replaces_of_successor offered held (fun several => listed spec member several old held)
      chosen

theorem listed_of_replaces {spec : FieldSpec} {turn : Nat} {old new : Value}
    (h : Replaces s available spec turn old new) (several : spec.multiSelect = true)
    (some : new.isNull = false) : ∃ items, new = .list items := by
  cases h with
  | first _ single _ => simp [single] at several
  | part => exact ⟨_, rfl⟩
  | unoffered | emptied | exhausted => simp [Value.isNull] at some

/-- A turn puts a list where a list was. -/
theorem listed_amend {turn : Nat} {before : Selection} {event : Event}
    (listed : Listed s.table before) (h : Explained s trigger line turn before event) :
    Listed s.table (before.amend event) := by
  obtain @⟨p, c, spec, old, new, _, row, _, _, _, _, replaces⟩ := h
  obtain ⟨member, _⟩ := s.table.byField?_spec row
  intro other otherMember several v found
  rw [Selection.amend_adjusted] at found
  by_cases same : other.field = spec.field
  · obtain rfl := s.table.eq_of_field_eq otherMember member same
    unfold assign at found
    by_cases null : new.isNull = true
    · rw [if_pos null, Keyed.get?_erase_self] at found
      cases found
    · rw [if_neg null, Keyed.get?_put_self] at found
      obtain rfl := Option.some.inj found
      exact listed_of_replaces replaces several (by simpa using null)
  · rw [get?_assign_of_ne _ _ same] at found
    exact listed other otherMember several v found

/-- A run is replayed by its events, each of which is explained where it stands. -/
theorem explained_of_run {stage last : Stage} {events : List Event}
    (run : Run s trigger line stage events last) (listed : Listed s.table stage.selection) :
    replay stage.selection events = last.selection ∧
      ∀ earlier event later, events = earlier ++ event :: later →
        Explained s trigger line (stage.turns + earlier.length) (replay stage.selection earlier)
          event := by
  induction run with
  | stay stage => exact ⟨rfl, by simp⟩
  | @turn stage next last event events first rest ih =>
    obtain ⟨explained, rfl⟩ := explained_of_next? listed first
    obtain ⟨replayed, others⟩ := ih (listed_amend listed explained)
    refine ⟨replayed, fun earlier other later split => ?_⟩
    cases earlier with
    | nil =>
      obtain ⟨rfl, _⟩ := List.cons.inj split
      exact explained
    | cons firstEvent earlier =>
      obtain ⟨rfl, behind⟩ := List.cons.inj split
      have there := others earlier other later behind
      rw [Nat.add_assoc, Nat.add_comm 1] at there
      exact there

theorem exists_split_of_adjustment {adjustments closing earlier later : List Event} {event : Event}
    (quiet : ∀ event ∈ closing, event.isAdjustment = false)
    (split : adjustments ++ closing = earlier ++ event :: later)
    (adjusts : event.isAdjustment = true) :
    ∃ rest, adjustments = earlier ++ event :: rest := by
  rcases List.append_eq_append_iff.mp split with ⟨between, rfl, behind⟩ | ⟨between, rfl, behind⟩
  · have quietHere := quiet event (by simp [behind])
    simp [quietHere] at adjusts
  · cases between with
    | nil =>
      have quietHere := quiet event (by rw [← List.nil_append closing, ← behind]; simp)
      simp [quietHere] at adjusts
    | cons first rest =>
      obtain ⟨rfl, _⟩ := List.cons.inj behind
      exact ⟨rest, rfl⟩

/-- The adjustments of a configuration lead from the normal form of what was asked for to
its selection. Each is explained by the options of its own pass. -/
theorem adjustments_explain_selection (s : Snapshot) (settings : Settings)
    (selection : Selection) (state : State) (events : List Event)
    (h : recompute selection s settings = .ok (state, events))
    (hasLine : state.line.isSome = true) :
    replay (Selection.normalize s.table selection) events = state.selection ∧
    ∃ line, state.line = some line ∧ ∀ earlier event later, events = earlier ++ event :: later →
      event.isAdjustment = true →
      Explained s settings.trigger line earlier.length
        (replay (Selection.normalize s.table selection) earlier) event := by
  rcases recompute_eq_ok h with ⟨rfl, _⟩ | ⟨line, settled, sku, _, ran, _, rfl, rfl⟩
  · simp at hasLine
  · obtain ⟨last, run, ends, _, _⟩ :=
      exists_run_of_settle (s := start s selection) (Nat.zero_add _) ran
    obtain ⟨replayed, explained⟩ :=
      explained_of_run run (Selection.listed_normalize s.table selection)
    refine ⟨?_, line, rfl, fun earlier event later split adjusts => ?_⟩
    · rw [ends, ← replayed, replay, List.foldl_append]
      rfl
    · obtain ⟨rest, within⟩ := exists_split_of_adjustment
        (isAdjustment_closingEvents settled.pass sku) split adjusts
      have there := explained earlier event rest within
      rw [start, Nat.zero_add] at there
      exact there

def twoTones : Snapshot :=
  { twoColors [withdrawal "red", { withdrawal "blue" with
      constraintField := .text "trim", constraintValue := .text "gold" }] with
    table := ⟨[⟨"product_lines", "line", "line", "Line", true, false, false⟩,
      ⟨"colors", "color", "color", "Color", true, false, true⟩,
      ⟨"trims", "trim", "trim", "Trim", false, true, false⟩], by decide, by decide, by decide⟩
    lines := [("deco", ⟨.text "deco", .null, .null, [("colors", "red"), ("colors", "blue"),
      ("trims", "gold"), ("trims", "black")], .null⟩)]
    options := (twoColors []).options ++ [("trims",
      [("gold", plainOption "trims" "gold"), ("black", plainOption "trims" "black")])] }

def redWithTrims : Selection :=
  [("trim", .list [.text "gold", .text "black"]), ("line", .text "deco"), ("color", .text "red")]

/-- Gold is given up only because of the blue that has taken the place of red. -/
theorem gold_given_up_for_blue :
    ∃ state events later, recompute redWithTrims twoTones Settings.standard = .ok (state, events) ∧
      state.line = some (.text "deco") ∧ replay redWithTrims events = state.selection ∧
      state.selection =
        [("trim", .list [.text "black"]), ("line", .text "deco"), ("color", .text "blue")] ∧
      events = .adjusted "color" (.text "red") (.text "blue") ::
        .adjusted "trim" (.list [.text "gold", .text "black"]) (.list [.text "black"]) :: later ∧
      Explained twoTones Trigger.standard (.text "deco") 0 redWithTrims
        (.adjusted "color" (.text "red") (.text "blue")) ∧
      Explained twoTones Trigger.standard (.text "deco") 1
        (redWithTrims.amend (.adjusted "color" (.text "red") (.text "blue")))
        (.adjusted "trim" (.list [.text "gold", .text "black"]) (.list [.text "black"])) := by
  have ran : recompute redWithTrims twoTones Settings.standard = .ok (_, _) := rfl
  obtain ⟨replayed, line, hasLine, explained⟩ := adjustments_explain_selection
    twoTones Settings.standard redWithTrims _ _ ran rfl
  obtain rfl : .text "deco" = line := Option.some.inj hasLine
  exact ⟨_, _, _, rfl, rfl, replayed, rfl, rfl, explained [] _ _ rfl rfl,
    explained [_] _ _ rfl rfl⟩

end Configuration

end MadeToOrder
