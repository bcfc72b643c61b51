import MadeToOrder.Proofs.Sku.Grading
import MadeToOrder.Proofs.Sku.Writing

/-!
# Reading the segments of a code

Cutting a code at the delimiter puts at each position what was written for its
field, as long as only the last fields are left out. A segment is then matched
by exactly the ids it was written from, so the selection comes back.
-/

set_option autoImplicit false

namespace MadeToOrder.Sku

/-- Each position has the text of its field; texts may run out before fields do. -/
def Fits (snapshot : Snapshot) (multi : String) (selection : Selection) :
    List FieldSpec → List String → Prop
  | [], raws => raws = []
  | spec :: rest, raws =>
    raws.head?.getD "" = (written snapshot multi selection spec).getD "" ∧
      Fits snapshot multi selection rest raws.tail

structure Reads (snapshot : Snapshot) (multi : String) (selection : Selection) (spec : FieldSpec)
    (segment : ParsedSegment) : Prop where
  collection : segment.collection = spec.collection
  text : segment.raw.getD "" = (written snapshot multi selection spec).getD ""
  status : segment.status = if Keyed.has selection spec.field then .exact else .missing
  recovers : recovered? spec segment = Keyed.get? selection spec.field

variable {snapshot : Snapshot} {separators : Separators} {selection : Selection}
  {spec : FieldSpec} {specs : List FieldSpec} {v : Value}

theorem trimmedPieces_join {separator : String} {codes : List String} (nonempty : separator ≠ "")
    (filled : codes ≠ [])
    (h : ∀ code ∈ codes, Text.Tight code ∧ Text.Clear separator.toList code) :
    trimmedPieces separator (Text.join separator codes) = .ok codes := by
  have cut := Text.split_join nonempty filled (fun code member => (h code member).2)
  have tidy : codes.map Text.trim = codes := by
    rw [List.map_congr_left (fun code member => Text.trim_of_tight (h code member).1)]
    exact List.map_id' codes
  simp [trimmedPieces, nonempty, cut, tidy]

theorem trimmedPieces_empty {separator : String} (nonempty : separator ≠ "") :
    trimmedPieces separator "" = .ok [""] := by
  simp [trimmedPieces, nonempty, Text.split_empty, Text.trim_of_tight Text.tight_empty]

theorem fits_nil {multi : String} (h : ∀ spec ∈ specs, Skipped selection spec) :
    Fits snapshot multi selection specs [] := by
  induction specs with
  | nil => rfl
  | cons spec rest ih =>
    exact ⟨by simp [written_of_skipped (h spec (by simp))],
      ih (fun other member => h other (List.mem_cons_of_mem _ member))⟩

/-- An empty text stands for a field without a choice. -/
theorem fits_blank {multi : String} (filled : specs ≠ [])
    (h : ∀ spec ∈ specs, Skipped selection spec) : Fits snapshot multi selection specs [""] := by
  cases specs with
  | nil => exact absurd rfl filled
  | cons spec rest =>
    exact ⟨by simp [written_of_skipped (h spec (by simp))],
      fits_nil (fun other member => h other (List.mem_cons_of_mem _ member))⟩

/-- If only the last fields are left out, the segments stand at the positions of their fields. -/
theorem fits_segments {multi : String}
    (trailing : specs.Pairwise (fun a b => Skipped selection a → Skipped selection b)) :
    Fits snapshot multi selection specs
      (specs.filterMap (segmentCode snapshot multi selection)) := by
  induction specs with
  | nil => rfl
  | cons spec rest ih =>
    obtain ⟨later, trailing⟩ := List.pairwise_cons.mp trailing
    cases code : segmentCode snapshot multi selection spec with
    | none =>
      have skipped := segmentCode_eq_none.mp code
      have others := fun other member => later other member skipped
      have empty : (spec :: rest).filterMap (segmentCode snapshot multi selection) = [] := by
        simp [code]
        exact fun other member => segmentCode_eq_none.mpr (others other member)
      rw [empty]
      exact fits_nil (List.forall_mem_cons.mpr ⟨skipped, others⟩)
    | some text =>
      rw [List.filterMap_cons_some code]
      exact ⟨(written_getD_of_segmentCode code).symm, ih trailing⟩

/-- Cutting a code gives a text for each position. -/
theorem trimmedPieces_code (filled : specs ≠ []) (delimited : separators.delimiter ≠ "")
    (apart : Text.Clear separators.delimiter.toList separators.multi)
    (chosen : ∀ spec ∈ specs, ∀ v, Keyed.get? selection spec.field = some v →
      Spellable snapshot separators spec v)
    (trailing : specs.Pairwise (fun a b => Skipped selection a → Skipped selection b)) :
    ∃ raws, trimmedPieces separators.delimiter (Text.join separators.delimiter
        (specs.filterMap (segmentCode snapshot separators.multi selection))) = .ok raws ∧
      Fits snapshot separators.multi selection specs raws := by
  by_cases empty : specs.filterMap (segmentCode snapshot separators.multi selection) = []
  · refine ⟨[""], ?_, fits_blank filled ?_⟩
    · rw [empty]
      exact trimmedPieces_empty delimited
    · intro spec member
      exact segmentCode_eq_none.mp (List.filterMap_eq_nil_iff.mp empty spec member)
  · refine ⟨_, trimmedPieces_join delimited empty ?_, fits_segments trailing⟩
    intro code member
    obtain ⟨spec, known, coded⟩ := List.mem_filterMap.mp member
    exact segmentCode_cuttable apart (chosen spec known) coded

/-- What is written for a value is cut into the codes of its ids, and those ids
give the value back. -/
theorem pieces_of_spellable (h : Spellable snapshot separators spec v)
    (separated : separators.multi ≠ "") :
    ∃ ids : List String, ids ≠ [] ∧ ids.Nodup ∧
      (∀ id ∈ ids, Legible snapshot spec.collection separators.delimiter.toList id) ∧
      (spec.multiSelect = true →
        trimmedPieces separators.multi (spelling snapshot separators.multi spec.collection v) =
          .ok (ids.map (codeOf snapshot spec.collection))) ∧
      (spec.multiSelect = false →
        [spelling snapshot separators.multi spec.collection v] =
          ids.map (codeOf snapshot spec.collection)) ∧
      ∀ segment : ParsedSegment, segment.status = .exact → segment.matched = ids →
        recovered? spec segment = some v := by
  have known := h.ids
  cases h with
  | one id single named legible =>
    have codes : valueCodes snapshot spec.collection (.text id) =
        [id].map (codeOf snapshot spec.collection) := valueCodes_of_elements rfl
    refine ⟨[id], by simp, by simp, by simpa using legible, by simp [single], ?_, ?_⟩
    · intro _
      simp [spelling, codes, Text.join]
    · intro segment exact matched
      simp [recovered?, exact, matched, single]
  | several ids many filled distinct legible =>
    have codes : valueCodes snapshot spec.collection (.list (ids.map .text)) =
        ids.map (codeOf snapshot spec.collection) := valueCodes_of_elements rfl
    refine ⟨ids, filled, distinct, ?_, ?_, by simp [many], ?_⟩
    · intro id member
      exact (legible id member).mono (by simp)
    · intro _
      rw [spelling, codes]
      refine trimmedPieces_join separated (by simpa using filled) ?_
      intro code member
      obtain ⟨id, listed, rfl⟩ := List.mem_map.mp member
      exact ⟨(legible id listed).tight, ((legible id listed).mono (by simp)).clear⟩
    · intro segment exact matched
      cases ids with
      | nil => exact absurd rfl filled
      | cons first rest =>
        cases rest with
        | nil => simp [recovered?, exact, matched, many]
        | cons second rest => simp [recovered?, exact, matched, many]

/-- The text of a field is read as what it was written from. -/
theorem readSegment_of_fits (filed : snapshot.Filed) (separated : separators.multi ≠ "")
    (h : ∀ v, Keyed.get? selection spec.field = some v →
      Readable snapshot spec.collection ∧ Spellable snapshot separators spec v)
    {raw : Option String}
    (fits : raw.getD "" = (written snapshot separators.multi selection spec).getD "")
    (position : Nat) (order : Value) :
    ∃ segment, readSegment snapshot none separators spec position order raw = .ok segment ∧
      Reads snapshot separators.multi selection spec segment := by
  cases chosen : Keyed.get? selection spec.field with
  | none =>
    have blank : raw.getD "" = "" := by simpa [written, chosen] using fits
    refine ⟨⟨position, raw, .missing, spec.collection, order, []⟩, ?_, rfl, fits, ?_, ?_⟩
    · simp [readSegment, blank]
    · simp [Keyed.has, chosen]
    · simp [recovered?, chosen]
  | some v =>
    obtain ⟨readable, spellable⟩ := h v chosen
    have text : raw.getD "" = spelling snapshot separators.multi spec.collection v := by
      simpa [written, chosen] using fits
    have longer : spelling snapshot separators.multi spec.collection v ≠ "" :=
      spelling_ne_empty spellable
    obtain ⟨options, shown⟩ := readable.ordered
    obtain ⟨ids, filled, distinct, legible, many, single, recovers⟩ :=
      pieces_of_spellable spellable separated
    have worst : MatchStatus.worst (List.replicate ids.length .exact) = .exact :=
      MatchStatus.worst_eq_exact.mpr ⟨by simpa using filled, fun _ => List.eq_of_mem_replicate⟩
    have matching :=
      matchPieces_of_legible filed readable shown [] legible (by simpa using distinct)
    rw [List.nil_append] at matching
    refine ⟨⟨position, raw, .exact, spec.collection, order, ids⟩, ?_, rfl, fits, ?_, ?_⟩
    · cases several : spec.multiSelect with
      | true =>
        simp [readSegment, text, longer, candidates, shown, several, many several, matching,
          worst, bind, Except.bind, pure, Except.pure]
      | false =>
        simp [readSegment, text, longer, candidates, shown, several, single several, matching,
          worst, bind, Except.bind, pure, Except.pure]
    · simp [Keyed.has, chosen]
    · rw [chosen]
      exact recovers _ rfl rfl

/-- The texts of the fields are read, position by position. -/
theorem readSegments_of_fits (filed : snapshot.Filed) (separated : separators.multi ≠ "")
    {ordered : List CodeField}
    (mapped : ordered.map (fun e => snapshot.table.byCollection? e.collection) = specs.map some)
    (h : ∀ spec ∈ specs, ∀ v, Keyed.get? selection spec.field = some v →
      Readable snapshot spec.collection ∧ Spellable snapshot separators spec v)
    {raws : List String} (fits : Fits snapshot separators.multi selection specs raws)
    (position : Nat) :
    ∃ read, readSegments snapshot none separators position ordered raws = .ok read ∧
      read.map Prod.fst = specs ∧
      ∀ r ∈ read, Reads snapshot separators.multi selection r.1 r.2 := by
  induction ordered generalizing specs raws position with
  | nil =>
    obtain rfl : specs = [] := by simpa using mapped.symm
    exact ⟨[], rfl, rfl, by simp⟩
  | cons entry rest ih =>
    cases specs with
    | nil => simp at mapped
    | cons spec others =>
      obtain ⟨row, mapped⟩ := List.cons.inj mapped
      obtain ⟨here, later⟩ := fits
      obtain ⟨segment, first, reads⟩ :=
        readSegment_of_fits filed separated (h spec (by simp)) here position entry.order
      obtain ⟨read, further, rows, all⟩ :=
        ih mapped (fun other member => h other (List.mem_cons_of_mem _ member)) later (position + 1)
      refine ⟨(spec, segment) :: read, ?_, by simp [rows], List.forall_mem_cons.mpr ⟨reads, all⟩⟩
      simp [readSegments, FieldTable.rowOf, row, first, further, bind, Except.bind, pure,
        Except.pure]

/-- What is recovered for a field is what its segments say, if there are any. -/
theorem get?_recovered {read : List (FieldSpec × ParsedSegment)}
    (said : ∀ r ∈ read, recovered? r.1 r.2 = Keyed.get? selection r.1.field) (start : Selection)
    (field : String) :
    Keyed.get? (recovered start read) field =
      if field ∈ read.map (fun r => r.1.field) then
        (Keyed.get? selection field).or (Keyed.get? start field)
      else Keyed.get? start field := by
  induction read generalizing start with
  | nil => simp [recovered]
  | cons r rest ih =>
    obtain ⟨spec, segment⟩ := r
    have here := said (spec, segment) (by simp)
    have later := fun start => ih (fun r member => said r (List.mem_cons_of_mem _ member)) start
    dsimp only at here
    simp only [List.map_cons, List.mem_cons]
    cases found : Keyed.get? selection spec.field with
    | none =>
      rw [found] at here
      simp only [recovered, here, later]
      by_cases same : field = spec.field
      · simp only [same, found, true_or, Option.none_or, ite_self]
      · simp only [same, false_or]
    | some v =>
      rw [found] at here
      simp only [recovered, here, later]
      by_cases same : field = spec.field
      · simp only [same, found, true_or, if_true, Keyed.get?_put_self, Option.some_or, ite_self]
      · simp only [same, false_or, Keyed.get?_put_of_ne _ _ same]

theorem fits_length {multi : String} {raws : List String}
    (h : Fits snapshot multi selection specs raws) : raws.length ≤ specs.length := by
  induction specs generalizing raws with
  | nil =>
    obtain rfl : raws = [] := h
    exact Nat.le_refl 0
  | cons spec rest ih =>
    have further := ih h.2
    rw [List.length_tail] at further
    simp only [List.length_cons]
    omega

/-- A segment of a chosen field raises no issue. -/
theorem issueOf?_of_reads {segment : ParsedSegment}
    (h : Reads snapshot separators.multi selection spec segment)
    (chosen : Keyed.get? selection spec.field = some v)
    (spellable : Spellable snapshot separators spec v) : issueOf? spec segment = none := by
  have longer : spelling snapshot separators.multi spec.collection v ≠ "" :=
    spelling_ne_empty spellable
  have text := h.text
  have status := h.status
  simp only [written, chosen, Option.map_some, Option.getD_some] at text
  simp [issueOf?, text, longer, status, Keyed.has, chosen]

/-- What is recovered is the selection, if every chosen field has a segment. -/
theorem get?_recovered_of_reads {read : List (FieldSpec × ParsedSegment)}
    (rows : read.map Prod.fst = specs)
    (reads : ∀ r ∈ read, Reads snapshot separators.multi selection r.1 r.2)
    (ordered : ∀ field v, Keyed.get? selection field = some v → field ∈ specs.map FieldSpec.field)
    (field : String) :
    Keyed.get? (recovered [] read) field = Keyed.get? selection field := by
  have fields : read.map (fun r => r.1.field) = specs.map FieldSpec.field := by
    rw [← rows, List.map_map]
    rfl
  rw [get?_recovered (fun r member => (reads r member).recovers), fields]
  cases found : Keyed.get? selection field with
  | none => simp [Keyed.get?]
  | some v => rw [if_pos (ordered field v found), Option.some_or]

/-- If every field has a choice, all segments are exact and raise no issue. -/
theorem exact_of_reads {read : List (FieldSpec × ParsedSegment)}
    (rows : read.map Prod.fst = specs)
    (reads : ∀ r ∈ read, Reads snapshot separators.multi selection r.1 r.2)
    (spells : ∀ spec ∈ specs, ∀ v, Keyed.get? selection spec.field = some v →
      Spellable snapshot separators spec v)
    (all : ∀ spec ∈ specs, Keyed.has selection spec.field = true) :
    Confidence.ofStatuses ((read.map Prod.snd).map ParsedSegment.status) = .exact ∧
      read.filterMap (fun r => issueOf? r.1 r.2) = [] := by
  have listed : ∀ r ∈ read, r.1 ∈ specs := fun r member => rows ▸ List.mem_map_of_mem member
  constructor
  · apply Confidence.ofStatuses_eq_exact.mpr
    intro status known
    rw [List.map_map] at known
    obtain ⟨r, member, rfl⟩ := List.mem_map.mp known
    simp [(reads r member).status, all r.1 (listed r member)]
  · rw [List.filterMap_eq_nil_iff]
    intro r member
    obtain ⟨v, found⟩ := Option.isSome_iff_exists.mp (all r.1 (listed r member))
    exact issueOf?_of_reads (reads r member) found (spells r.1 (listed r member) v found)

end MadeToOrder.Sku
