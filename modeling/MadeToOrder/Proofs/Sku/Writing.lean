import MadeToOrder.Proofs.Sku.Matching

/-!
# What a code is written from

Without codes from rules, a code has one segment for each selected or required
field of the order: the joined codes of the chosen options, or nothing for a
required field without a choice. No segment has a character of the delimiter or
white space at its ends, so cutting the code gives the segments back.
-/

set_option autoImplicit false

namespace MadeToOrder.Sku

/-- A choice whose code can be read back: the id of an option, or ids of options
where the field takes several, each once. -/
inductive Spellable (snapshot : Snapshot) (separators : Separators) (spec : FieldSpec) :
    Value → Prop
  | one (id : String) (single : spec.multiSelect = false) (named : id ≠ "")
      (legible : Legible snapshot spec.collection separators.delimiter.toList id) :
      Spellable snapshot separators spec (.text id)
  | several (ids : List String) (many : spec.multiSelect = true) (filled : ids ≠ [])
      (distinct : ids.Nodup)
      (legible : ∀ id ∈ ids, Legible snapshot spec.collection
        (separators.delimiter.toList ++ separators.multi.toList) id) :
      Spellable snapshot separators spec (.list (ids.map .text))

def Skipped (selection : Selection) (spec : FieldSpec) : Prop :=
  spec.required = false ∧ Keyed.has selection spec.field = false

instance (selection : Selection) (spec : FieldSpec) : Decidable (Skipped selection spec) :=
  inferInstanceAs (Decidable (spec.required = false ∧ Keyed.has selection spec.field = false))

def valueCodes (snapshot : Snapshot) (collection : String) (v : Value) : List String :=
  v.elements.map (fun item => codeOf snapshot collection item.plain)

def spelling (snapshot : Snapshot) (multi collection : String) (v : Value) : String :=
  Text.join multi (valueCodes snapshot collection v)

def written (snapshot : Snapshot) (multi : String) (selection : Selection) (spec : FieldSpec) :
    Option String :=
  (Keyed.get? selection spec.field).map (spelling snapshot multi spec.collection)

def segmentCode (snapshot : Snapshot) (multi : String) (selection : Selection)
    (spec : FieldSpec) : Option String :=
  (written snapshot multi selection spec).or (if spec.required then some "" else none)

variable {snapshot : Snapshot} {separators : Separators} {selection : Selection}
  {spec : FieldSpec} {v : Value}

/-- The ids of a spellable value. -/
theorem Spellable.ids (h : Spellable snapshot separators spec v) :
    ∃ ids : List String, v.elements = ids.map .text ∧ ids ≠ [] ∧ ids.Nodup ∧
      ∀ id ∈ ids, Legible snapshot spec.collection separators.delimiter.toList id := by
  cases h with
  | one id single named legible =>
    refine ⟨[id], rfl, by simp, by simp, ?_⟩
    intro other member
    rwa [List.mem_singleton.mp member]
  | several ids many filled distinct legible =>
    exact ⟨ids, rfl, filled, distinct, fun id member => (legible id member).mono (by simp)⟩

theorem Spellable.isUnset (h : Spellable snapshot separators spec v) : v.isUnset = false := by
  cases h with
  | one id single named legible => simpa [Value.isUnset] using named
  | several ids many filled distinct legible => simpa [Value.isUnset] using filled

theorem valueCodes_of_elements {collection : String} {ids : List String}
    (h : v.elements = ids.map .text) :
    valueCodes snapshot collection v = ids.map (codeOf snapshot collection) := by
  simp [valueCodes, h, Function.comp_def, Value.plain_text]

theorem chosenCodes_of_legible {collection : String} {forbidden : List Char} {ids : List String}
    (h : v.elements = ids.map .text)
    (legible : ∀ id ∈ ids, Legible snapshot collection forbidden id) :
    chosenCodes snapshot collection v =
      ids.map (fun id => .text (codeOf snapshot collection id)) := by
  unfold chosenCodes
  rw [h]
  clear h
  induction ids with
  | nil => rfl
  | cons id rest ih =>
    have first := legible id (by simp)
    obtain ⟨o, found, code⟩ := first.option
    have others := ih (fun other member => legible other (by simp [member]))
    have truthy : (Value.text (codeOf snapshot collection id)).truthy = true := by
      simpa [Value.truthy] using first.coded
    simp only [List.map_cons, List.filterMap_cons, Value.plain_text, found, Option.map_some, code,
      List.filter_cons, truthy, if_true, others]

theorem texts_map_text (ss : List String) : texts (ss.map .text) = .ok ss := by
  induction ss with
  | nil => rfl
  | cons s rest ih => simp [texts, ih, Except.map]

theorem chosenCode_of_spellable (h : Spellable snapshot separators spec v) :
    chosenCode snapshot spec.collection separators.multi v =
      .ok (some (spelling snapshot separators.multi spec.collection v)) := by
  obtain ⟨ids, elements, filled, _, legible⟩ := h.ids
  have codes := chosenCodes_of_legible elements legible
  have joined := texts_map_text (ids.map (codeOf snapshot spec.collection))
  rw [List.map_map] at joined
  simp only [Function.comp_def] at joined
  simp [chosenCode, h.isUnset, codes, filled, joined, Except.map, spelling,
    valueCodes_of_elements elements]

/-- Without codes from rules a field is written as its choice. -/
theorem fieldCode_of_spellable
    (h : ∀ v, Keyed.get? selection spec.field = some v → Spellable snapshot separators spec v) :
    fieldCode snapshot selection Rule.Overrides.empty separators.multi spec =
      .ok (written snapshot separators.multi selection spec, .option) := by
  cases chosen : Keyed.get? selection spec.field with
  | none =>
    simp [fieldCode, Rule.Overrides.empty, Keyed.get?, Selection.at?, chosen, chosenCode,
      Value.isUnset, written, Except.map]
  | some v =>
    simp [fieldCode, Rule.Overrides.empty, Keyed.get?, Selection.at?, chosen,
      chosenCode_of_spellable (h v chosen), written, Except.map]

theorem spelling_ne_empty {multi : String} (h : Spellable snapshot separators spec v) :
    spelling snapshot multi spec.collection v ≠ "" := by
  obtain ⟨ids, elements, filled, _, legible⟩ := h.ids
  rw [spelling, valueCodes_of_elements elements]
  refine Text.join_ne_empty multi (by simpa using filled) ?_
  intro code member
  obtain ⟨id, known, rfl⟩ := List.mem_map.mp member
  exact (legible id known).coded

theorem spelling_tight {multi : String} (h : Spellable snapshot separators spec v) :
    Text.Tight (spelling snapshot multi spec.collection v) := by
  obtain ⟨ids, elements, filled, _, legible⟩ := h.ids
  rw [spelling, valueCodes_of_elements elements]
  refine Text.tight_join multi (by simpa using filled) ?_
  intro code member
  obtain ⟨id, known, rfl⟩ := List.mem_map.mp member
  exact ⟨(legible id known).coded, (legible id known).tight⟩

theorem spelling_clear (between : Text.Clear separators.delimiter.toList separators.multi)
    (h : Spellable snapshot separators spec v) :
    Text.Clear separators.delimiter.toList
      (spelling snapshot separators.multi spec.collection v) := by
  obtain ⟨ids, elements, _, _, legible⟩ := h.ids
  rw [spelling, valueCodes_of_elements elements]
  refine Text.clear_join between ?_
  intro code member
  obtain ⟨id, known, rfl⟩ := List.mem_map.mp member
  exact (legible id known).clear

theorem segmentCode_of_written {multi text : String}
    (h : written snapshot multi selection spec = some text) :
    segmentCode snapshot multi selection spec = some text := by
  simp [segmentCode, h]

theorem segmentCode_of_unwritten {multi : String}
    (h : written snapshot multi selection spec = none) :
    segmentCode snapshot multi selection spec = if spec.required then some "" else none := by
  simp [segmentCode, h]

theorem written_of_skipped {multi : String} (h : Skipped selection spec) :
    written snapshot multi selection spec = none := by
  have absent : Keyed.get? selection spec.field = none := by simpa [Keyed.has] using h.2
  simp [written, absent]

theorem segmentCode_eq_none {multi : String} :
    segmentCode snapshot multi selection spec = none ↔ Skipped selection spec := by
  cases chosen : Keyed.get? selection spec.field with
  | none =>
    cases required : spec.required <;>
      simp [segmentCode, written, Skipped, Keyed.has, chosen, required]
  | some v => simp [segmentCode, written, Skipped, Keyed.has, chosen]

theorem written_getD_of_segmentCode {multi code : String}
    (h : segmentCode snapshot multi selection spec = some code) :
    (written snapshot multi selection spec).getD "" = code := by
  cases text : written snapshot multi selection spec with
  | none =>
    rw [segmentCode_of_unwritten text] at h
    split at h
    · exact Option.some.inj h
    · simp at h
  | some text' =>
    rw [segmentCode_of_written text] at h
    exact Option.some.inj h

/-- A segment holds no delimiter and no white space at its ends. -/
theorem segmentCode_cuttable
    (between : Text.Clear separators.delimiter.toList separators.multi)
    (h : ∀ v, Keyed.get? selection spec.field = some v → Spellable snapshot separators spec v)
    {code : String} (coded : segmentCode snapshot separators.multi selection spec = some code) :
    Text.Tight code ∧ Text.Clear separators.delimiter.toList code := by
  cases chosen : Keyed.get? selection spec.field with
  | none =>
    rw [segmentCode_of_unwritten (by simp [written, chosen])] at coded
    split at coded
    · obtain rfl := Option.some.inj coded
      exact ⟨Text.tight_empty, Text.clear_empty⟩
    · simp at coded
  | some v =>
    rw [segmentCode_of_written (by simp [written, chosen]; rfl)] at coded
    obtain rfl := Option.some.inj coded
    exact ⟨spelling_tight (h v chosen), spelling_clear between (h v chosen)⟩

theorem segmentOf_codes {order : Value} {text : Option String} :
    (segmentOf spec order (text, .option)).1.map Segment.code =
      (text.or (if spec.required then some "" else none)).toList := by
  cases text with
  | some code => simp [segmentOf]
  | none => by_cases required : spec.required <;> simp [segmentOf, required]

/-- The segments of a code, field by field. -/
theorem buildSegments_of_spellable {ordered : List CodeField} {specs : List FieldSpec}
    (mapped : ordered.map (fun e => snapshot.table.byCollection? e.collection) = specs.map some)
    (h : ∀ spec ∈ specs, ∀ v, Keyed.get? selection spec.field = some v →
      Spellable snapshot separators spec v) :
    ∃ segments warnings,
      buildSegments snapshot selection Rule.Overrides.empty separators.multi ordered =
        .ok (segments, warnings) ∧
      segments.map Segment.code =
        specs.filterMap (segmentCode snapshot separators.multi selection) := by
  induction ordered generalizing specs with
  | nil =>
    obtain rfl : specs = [] := by simpa using mapped.symm
    exact ⟨[], [], rfl, rfl⟩
  | cons entry rest ih =>
    cases specs with
    | nil => simp at mapped
    | cons spec others =>
      obtain ⟨row, mapped⟩ := List.cons.inj mapped
      obtain ⟨segments, warnings, built, codes⟩ :=
        ih mapped (fun other member => h other (List.mem_cons_of_mem _ member))
      have code := fieldCode_of_spellable (h spec (by simp))
      let first := segmentOf spec entry.order
        (written snapshot separators.multi selection spec, .option)
      have firstCodes : first.1.map Segment.code =
          (segmentCode snapshot separators.multi selection spec).toList := segmentOf_codes
      refine ⟨first.1 ++ segments, first.2 ++ warnings, ?_, ?_⟩
      · simp [buildSegments, FieldTable.rowOf, row, code, built, first, bind, Except.bind, pure,
          Except.pure]
      · rw [List.map_append, firstCodes, codes]
        cases here : segmentCode snapshot separators.multi selection spec with
        | none => simp [here]
        | some text => simp [here]

end MadeToOrder.Sku
