import MadeToOrder.Proofs.Catalog.FailFast

/-!
# What callers of a configuration meet

Without rules, and with sort values that can be compared, an unknown line and a field
order without an enabled field are what should stop a configuration. Three things more
do. An id is taken for an integer if it is digits behind minus signs, or to be sorted if
it counts as digits, and more texts look that way than are integers. The codes of lines,
unlike those of options, are joined as they are.
-/

set_option autoImplicit false

namespace MadeToOrder

open MadeToOrder.Configuration (recompute)

variable {s : Snapshot} {selection : Selection}

def Snapshot.Names (s : Snapshot) (selection : Selection) (id : String) : Prop :=
  (∃ e ∈ Selection.normalize s.table selection, .text id ∈ e.2.elements) ∨
    ∃ collection, ∃ o ∈ Keyed.values (s.optionsIn collection), o.key = id

/-- Every fault that a configuration without rules can meet. -/
inductive Configuration.Fails (s : Snapshot) (selection : Selection) : Fault → Prop
  | unknownLine {line : Value} (unknown : s.hasLine line = false) :
    Fails s selection (.unknownLine line)
  | noFieldOrder (none : ∀ e ∈ s.codeFields, e.enabled.truthy = false) :
    Fails s selection .noFieldOrder
  | refusedId {id : String} {refusal : Numeral.Refusal} (named : s.Names selection id)
    (looks : Rule.looksNumeric id = true) (refused : Numeral.integer id = .error refusal) :
    Fails s selection (.ofRefusal id refusal)
  | lineCode {l : ProductLine} (filed : l ∈ Keyed.values s.lines) (coded : l.code.truthy = true)
    (other : l.code.kind ≠ .text) : Fails s selection (.notText l.code.kind)

inductive Report.Fails (s : Snapshot) : Fault → Prop
  | refusedId {collection id : String} {refusal : Numeral.Refusal}
    (known : s.HasActive collection id) (digits : Text.allDigits id = true)
    (refused : Numeral.integer id = .error refusal) : Fails s (.ofRefusal id refusal)

/-- Only the code of a line can be other than a text. -/
theorem Snapshot.Delivered.spelled (h : s.Delivered) :
    Sku.AllSpelled (fun kind => ∃ l ∈ Keyed.values s.lines, l.code.truthy = true ∧
      l.code.kind = kind ∧ kind ≠ .text) s := by
  obtain ⟨_, _, _, _, _, _, assembled⟩ := h.exists_assembled
  intro collection o listed coded
  obtain ⟨options, filed, listed⟩ := exists_of_mem_optionsIn listed
  obtain ⟨e, member, rfl⟩ := List.mem_map.mp listed
  rcases assembled.mem_options (collection, options) filed with ⟨records, _, read⟩ | ⟨_, lines⟩
  · obtain ⟨_, record, _, result⟩ := Assembly.mem_readOptions read member
    obtain ⟨fs, id, code, _, _, o⟩ := Assembly.readOption_eq_ok result
    rw [o]
    exact Or.inl ⟨code, rfl⟩
  · obtain rfl : options = Keyed.mapValues Assembly.lineOption s.lines := lines
    obtain ⟨entry, known, rfl⟩ := List.mem_map.mp member
    change (entry.2.code.orElse (.text "")).truthy = true at coded
    change (∃ t, entry.2.code.orElse (.text "") = .text t) ∨ _
    by_cases given : entry.2.code.truthy = true
    · rw [Value.orElse, if_pos given]
      cases code : entry.2.code with
      | text t => exact Or.inl ⟨t, rfl⟩
      | _ =>
        refine Or.inr ⟨entry.2, List.mem_map_of_mem known, given, ?_, ?_⟩
        · rw [Assembly.lineOption, Value.orElse, if_pos given]
        · rw [Assembly.lineOption, Value.orElse, if_pos given, code]
          exact Kind.noConfusion
    · rw [Value.orElse, if_neg given] at coded
      cases coded

theorem Configuration.admits_fails (delivered : s.Delivered) (ruleless : s.rules = [])
    (sortable : s.Sortable) : s.Admits (Fails s selection) := by
  obtain ⟨_, _, _, _, _, _, assembled⟩ := delivered.exists_assembled
  obtain ⟨records, _, read⟩ := assembled.codeFields
  obtain ⟨covered, numbered⟩ := Assembly.readCodeFields_eq_ok read
  exact {
    sortable := Or.inr sortable
    unknown := fun line unknown => .unknownLine unknown
    rules := Or.inl ruleless
    counted := fun collection o listed refusal looks refused =>
      .refusedId (Or.inr ⟨collection, o, listed, rfl⟩) looks refused
    covered := assembled.table_eq ▸ covered
    numbered := Or.inr numbered
    enabled := .noFieldOrder
    spelled := by
      intro collection o listed coded
      apply (delivered.spelled collection o listed coded).imp_right
      rintro ⟨l, filed, given, same, other⟩
      rw [← same] at other ⊢
      exact .lineCode filed given other }

namespace Report

variable {P : Fault → Prop} {a : Availability}

theorem failsOnly_sortedIds {ids : IdSet} (h : ∀ id ∈ ids, ∀ refusal, Text.allDigits id = true →
    Numeral.integer id = .error refusal → P (.ofRefusal id refusal)) :
    FailsOnly P (Availability.sortedIds ids) := by
  apply FailsOnly.bind
  · apply FailsOnly.mapM
    intro id member
    apply FailsOnly.map
    unfold Availability.idRank
    split
    · rename_i digits
      exact (failsOnly_integerOf fun refusal => h id member refusal digits).map _
    · exact failsOnly_ok _
  · exact fun _ => failsOnly_ok _

theorem failsOnly_idLists {choose : Choices → IdSet} {choices : Keyed Choices}
    (h : ∀ e ∈ choices, FailsOnly P (Availability.sortedIds (choose e.2))) :
    FailsOnly P (idLists choose choices) := by
  induction choices with
  | nil => exact failsOnly_ok _
  | cons e rest ih =>
    obtain ⟨here, others⟩ := List.forall_mem_cons.mp h
    exact here.bind fun _ => (ih others).bind fun _ => failsOnly_ok _

/-- Only the ids of an answer can be refused. -/
theorem failsOnly_availability (parts : a.Partitioned)
    (h : ∀ e ∈ a.choices, ∀ id ∈ e.2.all, ∀ refusal, Text.allDigits id = true →
      Numeral.integer id = .error refusal → P (.ofRefusal id refusal)) :
    FailsOnly P (availability a) := by
  have sorts : ∀ choose : Choices → IdSet,
      (∀ c : Choices, c.Partitioned → ∀ id ∈ choose c, id ∈ c.all) →
      FailsOnly P (idLists choose a.choices) := by
    intro choose within
    apply failsOnly_idLists
    intro e member
    have found : Keyed.get? a.choices e.1 = some e.2 := Keyed.get?_of_mem parts.distinct member
    apply failsOnly_sortedIds
    intro id chosen
    exact h e member id (within e.2 (parts.parts e.1 e.2 found) id chosen)
  exact (sorts Choices.all fun _ _ _ => id).bind fun _ =>
    (sorts Choices.available fun _ part id member => (part.cover id).mpr (Or.inl member)).bind
      fun _ => (sorts Choices.disabled fun _ part id member =>
        (part.cover id).mpr (Or.inr member)).bind fun _ => failsOnly_ok _

/-- The ids of an answer are keys of options. -/
theorem failsOnly_state (delivered : s.Delivered) {settings : Settings} {state : State}
    {events : List Event} (h : recompute selection s settings = .ok (state, events)) :
    FailsOnly (Fails s) (Report.state state) := by
  rcases Configuration.recompute_eq_ok h with ⟨rfl, _⟩ | ⟨line, settled, sku, _, ran, _, rfl, _⟩
  · exact failsOnly_ok _
  · obtain ⟨last, _, _, computed, _⟩ := Configuration.exists_run_of_settle
      (s := ⟨0, Selection.normalize s.table selection⟩) (Nat.zero_add _) ran
    obtain ⟨filtered, offered, computed⟩ := bind_eq_ok.mp computed
    obtain ⟨outcome, _, computed⟩ := bind_eq_ok.mp computed
    have shown : settled.pass.availability = filtered.constrain outcome.constraints :=
      congrArg Pass.availability (Except.ok.inj computed).symm
    have parts := (Availability.partitioned_compute offered).constrain outcome.constraints
    have stocked := (Availability.stocked_compute delivered.filed delivered.active
      offered).constrain outcome.constraints
    have reported : FailsOnly (Fails s) (availability settled.pass.availability) := by
      rw [shown]
      apply failsOnly_availability (P := Fails s) parts
      intro e member id listed refusal digits refused
      have found := Keyed.get?_of_mem parts.distinct member
      exact .refusedId (stocked e.1 e.2 found id listed) digits refused
    exact (reported.bind fun _ => failsOnly_ok _).bind fun _ => failsOnly_ok _

end Report

/-- What looks like an integer is one, and the codes of lines are texts. -/
structure Snapshot.Sound (s : Snapshot) (selection : Selection) : Prop where
  ids : ∀ id, s.Names selection id → Rule.looksNumeric id = true ∨ Text.allDigits id = true →
    ∃ i, Numeral.integer id = .ok i
  codes : ∀ l ∈ Keyed.values s.lines, l.code.truthy = true → l.code.kind = .text

/-- The two faults of the domain that a configuration should stop at. -/
def Fault.IsForeseen (fault : Fault) : Prop :=
  (∃ line, fault = .unknownLine line) ∨ fault = .noFieldOrder

/-- A configuration without rules stops only at an unknown line, without an enabled
field, at an id that looks like an integer and is refused, or at a code of a line that is no
text; its state can be shown unless the key of an option counts as digits and is refused.
So where ids and codes are sound nothing but the two faults of the domain is met. -/
theorem ruleless_faults (s : Snapshot) (settings : Settings) (selection : Selection)
    (delivered : s.Delivered) (ruleless : s.rules = []) (sortable : s.Sortable) :
    FailsOnly (Configuration.Fails s selection) (recompute selection s settings) ∧
    (∀ state events, recompute selection s settings = .ok (state, events) →
      FailsOnly (Report.Fails s) (Report.state state)) ∧
    (s.Sound selection → FailsOnly Fault.IsForeseen (recompute selection s settings) ∧
      ∀ state events, recompute selection s settings = .ok (state, events) →
        ∃ shown, Report.state state = .ok shown) := by
  have computes : FailsOnly (Configuration.Fails s selection) (recompute selection s settings) := by
    apply Configuration.failsOnly_recompute
      (Configuration.admits_fails delivered ruleless sortable) settings
    exact fun e member id chosen refusal looks refused =>
      .refusedId (Or.inl ⟨e, member, chosen⟩) looks refused
  refine ⟨computes, fun state events => Report.failsOnly_state delivered, fun sound => ⟨?_, ?_⟩⟩
  · refine computes.mono (fun fault fails => ?_)
    cases fails with
    | unknownLine _ => exact Or.inl ⟨_, rfl⟩
    | noFieldOrder _ => exact Or.inr rfl
    | refusedId named looks refused =>
      obtain ⟨i, read⟩ := sound.ids _ named (Or.inl looks)
      rw [refused] at read
      cases read
    | lineCode filed coded other => exact absurd (sound.codes _ filed coded) other
  · intro state events h
    apply (Report.failsOnly_state delivered h).returns
    rintro fault ⟨⟨o, found, rfl, _⟩, digits, refused⟩
    have named : s.Names selection o.key :=
      Or.inr ⟨_, o, Snapshot.mem_of_option? found, rfl⟩
    obtain ⟨i, read⟩ := sound.ids _ named (Or.inr digits)
    rw [refused] at read
    cases read

def oneColor (code : Value) (color : String) : Source (Except Fault) where
  lines := .ok [.object [("id", .text "deco"), ("sku_code", code), ("default_options",
    .list [.object [("collection", .text "colors"), ("item", .text color)]])]]
  options _ := .ok [.object [("id", .text color), ("sku_code", .text "C")]]
  products := .ok []
  overrides := .ok []
  rules := .ok []
  codeFields := .ok [.object [("sku_code_item", .text "product_lines"), ("order", .int 1)]]

def onlyRed : Snapshot where
  table := (Configuration.twoColors []).table
  lines := [("deco", ⟨.text "deco", .text "deco", .text "D", [("colors", "red")], .null⟩)]
  options := [("colors", [("red", ⟨.text "red", .text "red", .text "C", "colors", .null,
      .bool true⟩)]),
    ("product_lines", [("deco", ⟨.text "deco", .text "deco", .text "D", "product_lines", .null,
      .bool true⟩)])]
  products := []
  overrides := []
  rules := []
  codeFields := [⟨"product_lines", .int 1, .bool true⟩]
  diagnostics := []
  asOf := ""

theorem onlyRed_delivered : onlyRed.Delivered :=
  .direct (oneColor (.text "D") "red") (Configuration.twoColors []).table "" rfl

theorem onlyRed_sortable : onlyRed.Sortable := by
  unfold Snapshot.Sortable
  decide

theorem onlyRed_names {id : String} (h : onlyRed.Names Configuration.inRed id) :
    id = "deco" ∨ id = "red" := by
  rcases h with ⟨e, chosen, member⟩ | ⟨collection, o, listed, rfl⟩
  · have texts : ∀ e ∈ Selection.normalize onlyRed.table Configuration.inRed,
        e.2 = .text "deco" ∨ e.2 = .text "red" := by
      have normal : Selection.normalize onlyRed.table Configuration.inRed =
          [("line", .text "deco"), ("color", .text "red")] := rfl
      rw [normal]
      exact List.forall_mem_cons.mpr ⟨Or.inl rfl, List.forall_mem_singleton.mpr (Or.inr rfl)⟩
    apply (texts e chosen).imp <;> intro text <;> simpa [text, Value.elements] using member
  · obtain ⟨filed, known, listed⟩ := Snapshot.exists_of_mem_optionsIn listed
    have keys : ∀ e ∈ onlyRed.options, ∀ o ∈ Keyed.values e.2, o.key = "deco" ∨ o.key = "red" := by
      decide
    exact keys (collection, filed) known o listed

/-- Red can be chosen and shown. -/
theorem red_is_shown :
    onlyRed.Delivered ∧ onlyRed.rules = [] ∧ onlyRed.Sortable ∧
      onlyRed.Sound Configuration.inRed ∧
      FailsOnly Fault.IsForeseen (recompute Configuration.inRed onlyRed Settings.standard) ∧
      ∃ state events shown,
        recompute Configuration.inRed onlyRed Settings.standard = .ok (state, events) ∧
        Report.state state = .ok shown := by
  have sound : onlyRed.Sound Configuration.inRed := by
    refine ⟨fun id names looks => ?_, by decide⟩
    have letters : ¬(Rule.looksNumeric id = true ∨ Text.allDigits id = true) := by
      rcases onlyRed_names names with rfl | rfl <;> decide
    exact absurd looks letters
  obtain ⟨_, _, foreseen⟩ := ruleless_faults onlyRed Settings.standard Configuration.inRed
    onlyRed_delivered rfl onlyRed_sortable
  obtain ⟨computes, shows⟩ := foreseen sound
  obtain ⟨shown, report⟩ := shows _ _ rfl
  exact ⟨onlyRed_delivered, rfl, onlyRed_sortable, sound, computes, _, _, shown, rfl, report⟩

def Value.isRequested : Value → Bool
  | .null | .int _ | .text _ => true
  | .list items => items.all (fun v => match v with
    | .int _ | .text _ => true
    | _ => false)
  | _ => false

def inOddColor : Selection := [("line", .text "deco"), ("color", .text "--1")]

/-- Minus signs before a one, a superscript as an id and a number as the code of a line
each stop what has neither rules nor sort values. -/
theorem odd_texts_stop_answers :
    recompute inOddColor onlyRed Settings.standard = .error (.notNumeral "--1") ∧
    (∃ s state events,
      (oneColor (.text "D") "²").snapshot (Configuration.twoColors []).table "" = .ok s ∧
      recompute [("line", .text "deco")] s Settings.standard = .ok (state, events) ∧
      Report.state state = .error (.notNumeral "²")) ∧
    (∃ s, (oneColor (.int 5) "red").snapshot (Configuration.twoColors []).table "" = .ok s ∧
      recompute [("line", .text "deco")] s Settings.standard = .error (.notText .int)) ∧
    ¬∀ (s : Snapshot) (settings : Settings) (selection : Selection), s.Delivered → s.rules = [] →
      s.Sortable → (∀ e ∈ selection, e.2.isRequested = true) →
      FailsOnly Fault.IsForeseen (recompute selection s settings) ∧
        ∀ state events, recompute selection s settings = .ok (state, events) →
          FailsOnly Fault.IsForeseen (Report.state state) := by
  refine ⟨rfl, ⟨_, _, _, rfl, rfl, rfl⟩, ⟨_, rfl, rfl⟩, fun claimed => ?_⟩
  obtain ⟨foreseen, _⟩ := claimed onlyRed Settings.standard inOddColor onlyRed_delivered rfl
    onlyRed_sortable (by decide)
  rcases foreseen (.notNumeral "--1") rfl with ⟨line, unknown⟩ | none
  · cases unknown
  · cases none

end MadeToOrder
