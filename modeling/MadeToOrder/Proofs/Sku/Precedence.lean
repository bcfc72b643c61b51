import MadeToOrder.Proofs.Sku.Recovery
import MadeToOrder.Proofs.Sku.RoundTrip

/-!
# Where the codes of segments come from

A code from the rules stands before the codes of the chosen options, and the code of the whole
product before everything. Each source counts as absent in its own way: the codes of the product
and of the line when they are empty, the code of a segment only when the rules do not name its
collection, and a choice when none of its options has a code. An entry without any source has an
empty segment with a warning if its field is required, and no segment if it is not.
-/

set_option autoImplicit false

namespace MadeToOrder.Sku

def selectedCodes (s : Snapshot) (collection : String) (v : Value) : List String :=
  if v.isUnset then []
  else (v.elements.filterMap (fun item =>
    (s.option? collection item.plain).map codeText)).filter (· ≠ "")

def Unlined (overrides : Rule.Overrides) (spec : FieldSpec) : Prop :=
  spec.isLine = true → overrides.line.getD "" = ""

structure Unruled (overrides : Rule.Overrides) (spec : FieldSpec) : Prop where
  line : Unlined overrides spec
  segment : Keyed.get? overrides.segments spec.collection = none

/-- The code of a field and where it comes from: the first source that is there. -/
inductive Coded (s : Snapshot) (selection : Selection) (overrides : Rule.Overrides)
    (multi : String) (spec : FieldSpec) : String → Origin → Prop
  | line {code : String} (own : spec.isLine = true) (given : overrides.line = some code)
      (filled : code ≠ "") : Coded s selection overrides multi spec code .override
  | segment {code : String} (unlined : Unlined overrides spec)
      (given : Keyed.get? overrides.segments spec.collection = some code) :
      Coded s selection overrides multi spec code .override
  | option {codes : List String} (unruled : Unruled overrides spec)
      (chosen : selectedCodes s spec.collection (selection.at? spec.field) = codes)
      (filled : codes ≠ []) :
      Coded s selection overrides multi spec (Text.join multi codes) .option
  | default (unruled : Unruled overrides spec)
      (bare : selectedCodes s spec.collection (selection.at? spec.field) = [])
      (required : spec.required = true) :
      Coded s selection overrides multi spec "" .default

structure Sourceless (s : Snapshot) (selection : Selection) (overrides : Rule.Overrides)
    (spec : FieldSpec) : Prop where
  unruled : Unruled overrides spec
  bare : selectedCodes s spec.collection (selection.at? spec.field) = []
  optional : spec.required = false

/-- The segments of entries: one for each entry whose field has a code. -/
inductive Laid (s : Snapshot) (selection : Selection) (overrides : Rule.Overrides)
    (multi : String) : List CodeField → List Segment → Prop
  | nil : Laid s selection overrides multi [] []
  | segment {entry : CodeField} {entries : List CodeField} {segments : List Segment}
      {spec : FieldSpec} {code : String} {origin : Origin}
      (row : s.table.byCollection? entry.collection = some spec)
      (coded : Coded s selection overrides multi spec code origin)
      (rest : Laid s selection overrides multi entries segments) :
      Laid s selection overrides multi (entry :: entries)
        (⟨entry.collection, entry.order, code, origin⟩ :: segments)
  | omitted {entry : CodeField} {entries : List CodeField} {segments : List Segment}
      {spec : FieldSpec} (row : s.table.byCollection? entry.collection = some spec)
      (sourceless : Sourceless s selection overrides spec)
      (rest : Laid s selection overrides multi entries segments) :
      Laid s selection overrides multi (entry :: entries) segments

def WarnsOf (s : Snapshot) (segment : Segment) (warning : Diagnostic) : Prop :=
  ∃ spec, s.table.byCollection? segment.collection = some spec ∧ warning = missingWarning spec

variable {s : Snapshot} {selection : Selection} {overrides : Rule.Overrides} {multi : String}
  {spec : FieldSpec} {entry : CodeField} {fields ordered : List CodeField}
  {segments : List Segment}

/-- The segments follow the order of the entries. -/
theorem Laid.sublist (laid : Laid s selection overrides multi ordered segments) :
    (segments.map (fun segment => (segment.collection, segment.order))).Sublist
      (ordered.map (fun entry => (entry.collection, entry.order))) := by
  induction laid with
  | nil => exact .slnil
  | segment _ _ _ ih => exact ih.cons_cons _
  | omitted _ _ _ ih => exact ih.cons _

theorem code_eq_codeText {o : CatalogOption} (text : o.code.kind = .text) :
    o.code = .text (codeText o) := by
  unfold codeText
  cases code : o.code with
  | text t => rfl
  | _ => simp [code, Value.kind] at text

section

variable (texts : ∀ collection, ∀ o ∈ Keyed.values (s.optionsIn collection),
  o.code.truthy = true → o.code.kind = .text)
include texts

theorem chosenCodes_eq {collection : String} {v : Value} (set : v.isUnset = false) :
    chosenCodes s collection v = (selectedCodes s collection v).map .text := by
  rw [selectedCodes, set, if_neg Bool.false_ne_true, chosenCodes]
  induction v.elements with
  | nil => rfl
  | cons item rest ih =>
    cases found : s.option? collection item.plain with
    | none => simpa only [List.filterMap_cons, found, Option.map_none] using ih
    | some o =>
      simp only [List.filterMap_cons, found, Option.map_some]
      have text := texts collection o (Snapshot.mem_of_option? found)
      cases there : o.code.truthy with
      | true =>
        have code := code_eq_codeText (text there)
        have filled : codeText o ≠ "" := by simpa [code, Value.truthy] using there
        rw [List.filter_cons_of_pos there, List.filter_cons_of_pos (by simpa using filled),
          List.map_cons, ih, code]
      | false =>
        have bare : codeText o = "" := by
          by_contra filled
          simp [truthy_of_codeText filled] at there
        rwa [List.filter_cons_of_neg (by simp [there]), List.filter_cons_of_neg (by simp [bare])]

theorem chosenCode_eq (collection : String) (v : Value) :
    chosenCode s collection multi v = .ok (if selectedCodes s collection v = [] then none
      else some (Text.join multi (selectedCodes s collection v))) := by
  unfold chosenCode
  cases set : v.isUnset with
  | true => simp [selectedCodes, set]
  | false =>
    dsimp only
    rw [if_neg Bool.false_ne_true, chosenCodes_eq texts set, texts_map_text]
    by_cases bare : selectedCodes s collection v = []
    · simp [bare]
    · simp [bare, Except.map]

/-- A field has the segment of its first source, or none. -/
theorem exists_segment (selection : Selection) (overrides : Rule.Overrides) (multi : String)
    (spec : FieldSpec) (order : Value) :
    ∃ code, fieldCode s selection overrides multi spec = .ok code ∧
      ((∃ text origin, Coded s selection overrides multi spec text origin ∧
          segmentOf spec order code = ([⟨spec.collection, order, text, origin⟩],
            if origin = .default then [missingWarning spec] else [])) ∨
        Sourceless s selection overrides spec ∧ segmentOf spec order code = ([], [])) := by
  unfold fieldCode
  by_cases lined : (spec.isLine && !(overrides.line.getD "").isEmpty) = true
  · obtain ⟨own, filled⟩ := (Bool.and_eq_true _ _).mp lined
    have filled : overrides.line.getD "" ≠ "" := by simpa using filled
    obtain ⟨code, given⟩ : ∃ code, overrides.line = some code := by
      cases given : overrides.line with
      | none => simp [given] at filled
      | some code => exact ⟨code, rfl⟩
    simp only [given, Option.getD_some] at filled lined ⊢
    exact ⟨_, if_pos lined, Or.inl ⟨code, .override, .line own given filled, rfl⟩⟩
  have unlined : Unlined overrides spec := by
    intro own
    simpa [own] using lined
  dsimp only
  rw [if_neg lined]
  cases given : Keyed.get? overrides.segments spec.collection with
  | some code => exact ⟨_, rfl, Or.inl ⟨code, .override, .segment unlined given, rfl⟩⟩
  | none =>
    have unruled : Unruled overrides spec := ⟨unlined, given⟩
    dsimp only
    rw [chosenCode_eq texts]
    by_cases bare : selectedCodes s spec.collection (selection.at? spec.field) = []
    · rw [if_pos bare]
      refine ⟨_, rfl, ?_⟩
      cases required : spec.required with
      | true =>
        exact Or.inl ⟨"", .default, .default unruled bare required, by simp [segmentOf, required]⟩
      | false => exact Or.inr ⟨⟨unruled, bare, required⟩, by simp [segmentOf, required]⟩
    · rw [if_neg bare]
      exact ⟨_, rfl, Or.inl ⟨_, .option, .option unruled rfl bare, rfl⟩⟩

/-- All entries are laid out, with one warning for each segment without a source. -/
theorem exists_buildSegments (covered : s.table.Covers ordered) (selection : Selection)
    (overrides : Rule.Overrides) (multi : String) :
    ∃ segments warnings,
      buildSegments s selection overrides multi ordered = .ok (segments, warnings) ∧
      Laid s selection overrides multi ordered segments ∧
      List.Forall₂ (WarnsOf s) (segments.filter (fun segment => segment.origin = .default))
        warnings := by
  induction ordered with
  | nil => exact ⟨[], [], rfl, .nil, .nil⟩
  | cons entry rest ih =>
    obtain ⟨here, others⟩ := List.forall_mem_cons.mp covered
    obtain ⟨spec, row⟩ := Option.isSome_iff_exists.mp here
    obtain ⟨segments, warnings, built, laid, warned⟩ := ih others
    obtain ⟨code, coded, sourced⟩ :=
      exists_segment texts selection overrides multi spec entry.order
    have step : buildSegments s selection overrides multi (entry :: rest) =
        .ok ((segmentOf spec entry.order code).1 ++ segments,
          (segmentOf spec entry.order code).2 ++ warnings) := by
      simp [buildSegments, FieldTable.rowOf, row, coded, built, bind, Except.bind, pure,
        Except.pure]
    have named : spec.collection = entry.collection := (s.table.byCollection?_spec row).2
    rcases sourced with ⟨text, origin, source, shape⟩ | ⟨sourceless, shape⟩
    · rw [shape, named] at step
      refine ⟨_, _, step, .segment row source laid, ?_⟩
      by_cases default : origin = .default
      · simp only [default, List.singleton_append, List.filter_cons, decide_true, if_true]
        exact .cons ⟨spec, row, rfl⟩ warned
      · simpa [default] using warned
    · rw [shape] at step
      exact ⟨_, _, step, .omitted row sourceless laid, warned⟩

end

/-- The code of the product stands alone. Otherwise each enabled entry, in ascending order, has
the code of its first source, and the code joins them all. -/
theorem build_takes_first_source
    (texts : ∀ collection, ∀ o ∈ Keyed.values (s.optionsIn collection),
      o.code.truthy = true → o.code.kind = .text)
    (numbered : CodeField.Numbered fields)
    (enabled : ∃ e ∈ fields, e.enabled.truthy = true)
    (mapped : s.table.Covers (fields.filter fun e => e.enabled.truthy)) (selection : Selection)
    (overrides : Rule.Overrides) (separators : Separators) :
    ∃ ordered built, ordered.Perm (fields.filter fun e => e.enabled.truthy) ∧
      ordered.Pairwise (fun a b => place a ≤ place b) ∧
      build selection overrides fields s separators = .ok built ∧
      (overrides.product.getD "" ≠ "" →
        built = ⟨overrides.product.getD "", [], [], true⟩) ∧
      (overrides.product.getD "" = "" →
        Laid s selection overrides separators.multi ordered built.segments ∧
        (built.segments.map (fun segment => (segment.collection, segment.order))).Sublist
          (ordered.map (fun entry => (entry.collection, entry.order))) ∧
        List.Forall₂ (WarnsOf s)
          (built.segments.filter (fun segment => segment.origin = .default)) built.warnings ∧
        built.sku = Text.join separators.delimiter (built.segments.map Segment.code) ∧
        built.isOverride = false) := by
  obtain ⟨ordered, positions⟩ := exists_enabledOrder numbered enabled
  have perm := enabledOrder_perm positions
  have covered : s.table.Covers ordered := fun e member => mapped e (perm.mem_iff.mp member)
  have ascending := enabledOrder_sorted numbered positions
  by_cases whole : overrides.product.getD "" = ""
  · obtain ⟨segments, warnings, laidOut, laid, warned⟩ :=
      exists_buildSegments texts covered selection overrides separators.multi
    have built : build selection overrides fields s separators =
        .ok ⟨Text.join separators.delimiter (segments.map Segment.code), segments, warnings,
          false⟩ := by
      simp [build, positions, whole, laidOut, bind, Except.bind, pure, Except.pure]
    exact ⟨ordered, _, perm, ascending, built, fun given => absurd whole given,
      fun _ => ⟨laid, laid.sublist, warned, rfl, rfl⟩⟩
  · have built : build selection overrides fields s separators =
        .ok ⟨overrides.product.getD "", [], [], true⟩ := by
      simp [build, positions, whole, bind, Except.bind, pure, Except.pure]
    exact ⟨ordered, _, perm, ascending, built, fun _ => rfl, fun none => absurd none whole⟩

theorem kind_of_options {kind : Kind}
    (all : ∀ e ∈ s.options, ∀ o ∈ Keyed.values e.2, o.code.kind = kind) {collection : String} :
    ∀ o ∈ Keyed.values (s.optionsIn collection), o.code.kind = kind := by
  intro o listed
  obtain ⟨options, filed, listed⟩ := Snapshot.exists_of_mem_optionsIn listed
  exact all (collection, options) filed o listed

def lines : FieldSpec := ⟨lineCollection, "line", "line", "Line", true, false, false⟩

def linedOptions : Snapshot :=
  optionsOnly ⟨[lines, sizes, extras, colors, packs], by decide, by decide, by decide⟩
    [("sizes", [("small", coded "sizes" "small" (.text "S"))]),
      ("extras", [("wifi", coded "extras" "wifi" (.text "WF")),
        ("horn", coded "extras" "horn" (.text "")),
        ("gps", coded "extras" "gps" (.text "GP"))])]

def linedFields : List CodeField :=
  [⟨"colors", .int 5, .bool true⟩, ⟨"extras", .int 3, .bool true⟩, ⟨"sizes", .int 2, .bool true⟩,
    ⟨"sizes", .int 4, .bool false⟩, ⟨"packs", .int 4, .bool true⟩,
    ⟨lineCollection, .int 1, .bool true⟩]

def smallWithHorn : Selection :=
  [("size", .text "small"), ("extra", .list [.text "gps", .text "horn", .text "tow", .text "wifi"])]

def lineAndSize : Rule.Overrides := ⟨some "", some "LX", [("sizes", "")], []⟩

theorem enabledOrder_linedFields : enabledOrder linedFields =
    .ok [⟨lineCollection, .int 1, .bool true⟩, ⟨"sizes", .int 2, .bool true⟩,
      ⟨"extras", .int 3, .bool true⟩, ⟨"packs", .int 4, .bool true⟩,
      ⟨"colors", .int 5, .bool true⟩] := by
  simp [enabledOrder, CodeField.enabledInOrder, CodeField.inOrder, Snapshot.inOrderOf, linedFields,
    Value.truthy, Value.isOrdered, Value.isNaN, Sorting.sort?, Sorting.comparable, Sorting.sort,
    Sorting.insert, Value.less?_int, bind, Except.bind, pure, Except.pure]

/-- The line and the size from the rules, two extras from the choice, no color, and no pack. -/
theorem build_lined :
    (∀ collection, ∀ o ∈ Keyed.values (linedOptions.optionsIn collection),
      o.code.truthy = true → o.code.kind = .text) ∧
    CodeField.Numbered linedFields ∧ (∃ e ∈ linedFields, e.enabled.truthy = true) ∧
    linedOptions.table.Covers (linedFields.filter fun e => e.enabled.truthy) ∧
    ∃ ordered built, ordered.Perm (linedFields.filter fun e => e.enabled.truthy) ∧
      build smallWithHorn lineAndSize linedFields linedOptions Separators.standard = .ok built ∧
      Laid linedOptions smallWithHorn lineAndSize "+" ordered built.segments ∧
      built.sku = "LX--GP+WF-" ∧ built.warnings = [missingWarning colors] := by
  have texts : ∀ collection, ∀ o ∈ Keyed.values (linedOptions.optionsIn collection),
      o.code.truthy = true → o.code.kind = .text := by
    intro collection o listed _
    exact kind_of_options (by decide) o listed
  have numbered : CodeField.Numbered linedFields := by simp [CodeField.Numbered, linedFields]
  have enabled : ∃ e ∈ linedFields, e.enabled.truthy = true := ⟨_, List.mem_cons_self, rfl⟩
  have mapped : linedOptions.table.Covers (linedFields.filter fun e => e.enabled.truthy) := by
    unfold FieldTable.Covers
    decide
  obtain ⟨ordered, built, perm, _, ok, _, sourced⟩ :=
    build_takes_first_source texts numbered enabled mapped smallWithHorn lineAndSize
      Separators.standard
  have known : ∃ known,
      build smallWithHorn lineAndSize linedFields linedOptions Separators.standard = .ok known ∧
      known.sku = "LX--GP+WF-" ∧ known.warnings = [missingWarning colors] := by
    rw [build, enabledOrder_linedFields]
    exact ⟨_, rfl, rfl, rfl⟩
  obtain ⟨_, ran, sku, warned⟩ := known
  obtain rfl := Except.ok.inj (ok.symm.trans ran)
  exact ⟨texts, numbered, enabled, mapped, ordered, built, perm, ok, (sourced rfl).1, sku, warned⟩

end MadeToOrder.Sku
