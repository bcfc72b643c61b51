import MadeToOrder.Proofs.Configuration.DomainFaults
import MadeToOrder.Proofs.Configuration.FixedPoint
import MadeToOrder.Proofs.Service.Reply
import MadeToOrder.Service

/-!
# Options without a session

Asking for options with a selection goes through the same engines as a session, once and
without adjusting. The selection of a state needs no adjusting any more, so the same options,
rules and constraints come out: what the request normalizes away was not set, engines pass over
fields that are not set, and the line that is put in is there already. The reply leaves out
reserved names, and there is none for a rule whose id has no form in a reply.
-/

set_option autoImplicit false

namespace MadeToOrder

theorem Keyed.put_of_get? {α : Type} {m : Keyed α} {key : String} {value : α}
    (found : get? m key = some value) : put m key value = m := by
  induction m with
  | nil => cases found
  | cons e rest ih =>
    obtain ⟨k, v⟩ := e
    by_cases same : k = key
    · rw [get?, if_pos same] at found
      rw [put, if_pos same, Option.some.inj found, same]
    · rw [get?, if_neg same] at found
      rw [put, if_neg same, ih found]

namespace Configuration

open Selection (NormalWhereSet)

variable {s : Snapshot} {line : Value}

/-- The engines give for the choices of a state that are set what they gave for the state, and the
line is among these choices. -/
theorem pass_of_state {settings : Settings} {choices : Keyed Selection.Given} {state : State}
    {events : List Event} {c : Configured} (distinct : (Keyed.keys choices).Nodup)
    (h : recomputeGiven choices s settings = .ok (state, events)) (hasLine : state.line = some line)
    (isSet : line.isUnset = false) (configured : state.configured = some c) :
    NormalWhereSet s.table state.selection ∧
      pass s settings.trigger line state.selection.whereSet =
        .ok ⟨c.availability, c.outcome⟩ ∧
      lineOf? s.table state.selection.whereSet = some line := by
  rcases configure_eq_ok h with ⟨rfl, _⟩ | ⟨own, settled, sku, found, ran, _, rfl, _⟩
  · cases hasLine
  · obtain rfl := Option.some.inj hasLine
    obtain rfl := Option.some.inj configured
    obtain ⟨last, run, ends, computed, _⟩ := exists_run_of_settle
      (s := ⟨0, Selection.normalizeGiven s.table choices⟩) (Nat.zero_add _) ran
    obtain ⟨normal, keys⟩ := normalWhereSet_of_run run
      (Selection.normalWhereSet_normalizeGiven s.table choices)
      (distinct.sublist (Selection.keys_normalizeGiven s.table choices))
    have kept : lineOf? s.table last.selection = some own := (lineOf?_run run).trans found
    rw [ends]
    refine ⟨normal, ?_, ?_⟩
    · rw [pass_whereSet keys, computed]
    · rw [lineOf?_whereSet keys, kept, Option.filter_some, if_pos (by simp [isSet])]

/-- A line that is a text is not empty. -/
theorem isSet_of_line {settings : Settings} {choices : Keyed Selection.Given} {state : State}
    {events : List Event} {line : String}
    (h : recomputeGiven choices s settings = .ok (state, events))
    (hasLine : state.line = some (.text line)) : (Value.text line).isUnset = false := by
  rcases configure_eq_ok h with ⟨rfl, _⟩ | ⟨own, settled, sku, found, _, _, rfl, _⟩
  · cases hasLine
  · obtain rfl := Option.some.inj hasLine
    obtain ⟨spec, _, chosen⟩ := Option.bind_eq_some_iff.mp found
    cases unset : (Value.text line).isUnset with
    | false => rfl
    | true => cases Selection.eq_nil_of_mem_normalizeGiven (Keyed.mem_of_get? chosen) unset

end Configuration

namespace Service

open Selection (NormalWhereSet IsNormal)

inductive IsChoice : Value → Prop
  | null : IsChoice .null
  | one (id : String) : IsChoice (.text id)
  | several (ids : List String) : IsChoice (.list (ids.map .text))

theorem isChoice_of_normal {table : FieldTable} {field : String} {v : Value}
    (h : v.isUnset = false → IsNormal table field v) : IsChoice v := by
  cases unset : v.isUnset with
  | true =>
    cases v with
    | null => exact .null
    | text s => exact .one s
    | list items =>
      obtain rfl : items = [] := by simpa [Value.isUnset] using unset
      exact .several []
    | _ => cases unset
  | false =>
    have normal := (h unset).2
    cases v with
    | list items =>
      have texts : items.map (fun v => Value.text v.plain) = items := by
        simpa [Selection.normalValue] using normal
      have shape := IsChoice.several (items.map Value.plain)
      rw [List.map_map] at shape
      rwa [← texts]
    | text s => exact .one s
    | _ =>
      cases several : Selection.takesSeveral table field <;>
        simp [Selection.normalValue, several] at normal

theorem IsChoice.read {v : Value} (h : IsChoice v) : selectionValue? v = some v := by
  cases h with
  | null => rfl
  | one id => rfl
  | several ids =>
    have items : (ids.map Value.text).mapM choice? = some (ids.map Value.text) := by
      induction ids with
      | nil => rfl
      | cons id rest ih => simp [choice?, ih]
    simp [selectionValue?, items]

theorem IsChoice.isShowable {v : Value} (h : IsChoice v) : isShowable v = true := by
  cases h with
  | null => rfl
  | one id => rfl
  | several ids =>
    rw [Service.isShowable]
    induction ids with
    | nil => rfl
    | cons id rest ih => simpa [areShowable, Service.isShowable] using ih

variable {selection : Selection}

theorem selection?_of_choices (h : ∀ e ∈ selection, IsChoice e.2) :
    selection? (.object selection) = some selection := by
  unfold selection?
  dsimp only
  induction selection with
  | nil => rfl
  | cons e rest ih =>
    obtain ⟨here, others⟩ := List.forall_mem_cons.mp h
    simp [here.read, ih others]

theorem fieldsShowable_of_choices (h : ∀ e ∈ selection, IsChoice e.2) :
    fieldsShowable selection = true := by
  induction selection with
  | nil => rfl
  | cons e rest ih =>
    obtain ⟨field, v⟩ := e
    obtain ⟨here, others⟩ := List.forall_mem_cons.mp h
    rw [fieldsShowable, ih others, IsChoice.isShowable here]
    rfl

def optionsCall (line : Value) (selection : Selection) : Call :=
  ⟨"POST", "/configure/options",
    some (.object [("product_line", line), ("selection", .object selection)])⟩

theorem find?_options : Route.find? "POST" "/configure/options" = some (.route .options) := by
  decide +kernel

variable {service : Service} {supply : Supply} {now : Now} {s : Snapshot} {line : String}

/-- A request with choices is answered from the snapshot in use. -/
theorem step_options (choices : ∀ e ∈ selection, IsChoice e.2)
    (current : service.supply.current now.stamp = (supply, .ok s)) :
    service.step now (optionsCall (.text line) selection) =
      .ok ({ service with supply := supply },
        answerOf .options (ofFault (optionsView s service.settings ⟨line, selection⟩))) := by
  have sent : isShowable (.object [("product_line", .text line), ("selection", .object selection)]) =
      true := by
    simp [isShowable, fieldsShowable, fieldsShowable_of_choices choices]
  have read : OptionsRequest.read
      [("product_line", .text line), ("selection", .object selection)] = .ok ⟨line, selection⟩ := by
    simp [OptionsRequest.read, Value.requiredAs, Value.fieldAs, Keyed.get?, Value.asText?,
      selection?_of_choices choices, bind, Except.bind, pure, Except.pure]
  simp [step, optionsCall, find?_options, sent, answer, perform, withBody, readBody, read,
    withSnapshot, current, ofFault]

def optionsReport (options : Value) (outcome : Rule.Outcome) : Value :=
  .object [("options", options), ("matched_rules", Report.ruleIds outcome.matched),
    ("constraints", Report.constraints outcome.constraints)]

/-- The line that is put into a request's selection is the one that is there. -/
theorem optionsView_eq {settings : Settings} {normal : Selection} {p : Pass} {options : Value}
    (normalized : Selection.normalize s.table selection = normal)
    (hasLine : Configuration.lineOf? s.table normal = some (.text line))
    (computed : Configuration.pass s settings.trigger (.text line) normal = .ok p)
    (shown : Report.availability p.availability = .ok options)
    (named : ∀ target ∈ p.outcome.constraints, isShowable target.1 = true) :
    optionsView s settings ⟨line, selection⟩ = .ok (optionsReport options p.outcome) := by
  obtain ⟨spec, row, chosen⟩ := Option.bind_eq_some_iff.mp hasLine
  have put : Keyed.put normal spec.field (.text line) = normal := Keyed.put_of_get? chosen
  have forms : p.outcome.constraints.any (fun target => !isShowable target.1) = false := by
    simpa using named
  simp [optionsView, normalized, row, put, computed, shown, forms, optionsReport, bind, Except.bind,
    pure, Except.pure]

theorem isShowable_optionsReport {options : Value} {outcome : Rule.Outcome}
    (shows : isShowable options = true)
    (finite : ∀ rule ∈ outcome.matched, isShowable (withoutReserved rule.id) = true) :
    isShowable (withoutReserved (optionsReport options outcome)) = true := by
  have ids : isShowable (withoutReserved (Report.ruleIds outcome.matched)) = true := by
    rw [Report.ruleIds, withoutReserved_list, isShowable_list_iff, List.map_map,
      List.forall_mem_map]
    exact finite
  have limits : isShowable (Report.constraints outcome.constraints) = true := by
    rw [Report.constraints, isShowable_object_iff, List.forall_mem_map]
    intro target _
    simp [Report.constraint, isShowable_object_iff, isShowable_strings]
  rw [optionsReport, withoutReserved_object, isShowable_object_iff, List.forall_mem_map]
  intro f kept
  have member := (List.mem_filter.mp kept).1
  simp only [List.mem_cons, List.not_mem_nil, or_false] at member
  rcases member with rfl | rfl | rfl
  · exact isShowable_withoutReserved shows
  · exact ids
  · exact isShowable_withoutReserved limits

theorem withoutReserved_optionsReport {options : Value} {outcome : Rule.Outcome}
    (full : withoutReserved options = options)
    (targets : ∀ target ∈ outcome.constraints, isReserved (Report.keyText target.1) = false)
    (ids : ∀ rule ∈ outcome.matched, withoutReserved rule.id = rule.id) :
    withoutReserved (optionsReport options outcome) = optionsReport options outcome := by
  have rules : withoutReserved (Report.ruleIds outcome.matched) =
      Report.ruleIds outcome.matched :=
    withoutReserved_list_eq_self (List.forall_mem_map.mpr ids)
  have limits : withoutReserved (Report.constraints outcome.constraints) =
      Report.constraints outcome.constraints := by
    apply withoutReserved_object_eq_self
    · exact List.forall_mem_map.mpr targets
    · refine List.forall_mem_map.mpr (fun target _ => ?_)
      apply withoutReserved_object_eq_self
      · simp only [List.forall_mem_cons]
        decide
      · simp [withoutReserved_strings]
  apply withoutReserved_object_eq_self
  · simp only [List.forall_mem_cons]
    decide
  · simp [full, rules, limits]

def besideBlue (id field : Value) : Rule :=
  { Configuration.withdrawal "blue" with
    id := id, constraintField := field, constraintValue := .text "red" }

def serviceOf (s : Snapshot) : Service :=
  start ((Supply.ofFeed s.table (Feed.ofFile (.document .null)) .null).install s) Settings.standard

def anyTime : Now := ⟨0, ""⟩

def inGreenWithNoFinish : Keyed Selection.Given :=
  [("line", .value (.text "deco")), ("finish", .tuple []), ("color", .value (.text "green"))]

def withBlueRule : Snapshot :=
  Configuration.twoColors [Configuration.withdrawal "red", besideBlue (.int 1) (.text "color")]

/-- The state of a selection is what a request for its options on a line is answered with. -/
def AnsweredInFull (s : Snapshot) (given : Selection) (asked : Value) : Prop :=
  ∀ supply state events c,
    Configuration.recompute given s Settings.standard = .ok (state, events) →
    state.configured = some c → (serviceOf s).supply.current "" = (supply, .ok s) →
    ∃ options, Report.availability c.availability = .ok options ∧
      (serviceOf s).step anyTime (optionsCall asked state.selection) =
        .ok ({ serviceOf s with supply := supply }, ⟨200, some (optionsReport options c.outcome)⟩)

def aboutTheOther : Rule :=
  { Configuration.withdrawal "red" with condition := .object [("line", .text "['deco']")] }

def twoLines : Snapshot :=
  { Configuration.twoColors [aboutTheOther] with
    lines := [("deco", ⟨.text "deco", .null, .null, [("colors", "red"), ("colors", "blue")], .null⟩),
      ("['deco']", ⟨.text "['deco']", .null, .null, [("colors", "red")], .null⟩)] }

def inSquare : Snapshot :=
  { Configuration.twoColors [] with
    lines := [("deco", ⟨.text "deco", .null, .null, [("colors", "²")], .null⟩)]
    options := [("colors", [("²", Configuration.plainOption "colors" "²")])] }

end Service

end MadeToOrder
