import MadeToOrder.Proofs.Sku.Faults
import MadeToOrder.Proofs.Sku.Matching

/-!
# Grading segments

Every piece of a segment is graded by itself, and the worst grade is that of the segment. So a
segment is exact if each piece, in lower case, is the code of one option and of no other.
A piece is looked up among the codes of all options in question, so one of them that is no
text stops the reading even if it is not the one that is asked for.
-/

set_option autoImplicit false

namespace MadeToOrder

theorem Text.lower_eq_empty {s : String} : Text.lower s = "" ↔ s = "" := by
  constructor
  · intro h
    have none : Text.lowered s.toList = [] := by simpa [Text.lower] using congrArg String.toList h
    cases chars : s.toList with
    | nil => simpa using congrArg String.ofList chars
    | cons c rest =>
      rw [chars, Text.lowered, Text.lowerFrom] at none
      unfold Text.lowerOne at none
      split at none
      · cases none
      · split at none <;> cases none
  · rintro rfl
    rfl

theorem IdSet.union_append (s : IdSet) (first second : List String) :
    IdSet.union s (first ++ second) = IdSet.union (IdSet.union s first) second := by
  induction first generalizing s with
  | nil => rfl
  | cons id rest ih => exact ih _

namespace Sku

namespace MatchStatus

theorem worstFrom_eq_exact {first : MatchStatus} {rest : List MatchStatus} :
    worstFrom first rest = .exact ↔ first = .exact ∧ ∀ status ∈ rest, status = .exact := by
  induction rest generalizing first with
  | nil => simp [worstFrom]
  | cons status rest ih =>
    rw [worstFrom, ih, List.forall_mem_cons]
    cases first <;> cases status <;> simp [rank]

theorem worst_eq_exact {statuses : List MatchStatus} :
    worst statuses = .exact ↔ statuses ≠ [] ∧ ∀ status ∈ statuses, status = .exact := by
  cases statuses with
  | nil => simp [worst]
  | cons first rest => simp [worst, worstFrom_eq_exact]

end MatchStatus

namespace Confidence

variable {statuses : List MatchStatus}

theorem ofStatuses_eq_exact :
    ofStatuses statuses = .exact ↔ ∀ status ∈ statuses, status = .exact := by
  constructor
  · intro h status member
    unfold ofStatuses at h
    split at h
    · cases h
    · split at h
      · cases h
      · split at h
        · cases h
        · rename_i found single sure
          cases status with
          | exact => rfl
          | notFound => exact absurd member found
          | ambiguous => exact absurd member single
          | inexact => exact absurd (Or.inl member) sure
          | missing => exact absurd (Or.inr member) sure
  · intro h
    have absent (status : MatchStatus) (other : status ≠ .exact) : status ∉ statuses :=
      fun member => other (h status member)
    simp [ofStatuses, absent]

theorem ofStatuses_eq_invalid : ofStatuses statuses = .invalid ↔ .notFound ∈ statuses := by
  unfold ofStatuses
  by_cases lost : .notFound ∈ statuses
  · simp [lost]
  · rw [if_neg lost]
    split
    · simp [lost]
    · split <;> simp [lost]

theorem ofStatuses_eq_ambiguous :
    ofStatuses statuses = .ambiguous ↔ .notFound ∉ statuses ∧ .ambiguous ∈ statuses := by
  unfold ofStatuses
  by_cases lost : .notFound ∈ statuses
  · simp [lost]
  · rw [if_neg lost]
    by_cases open_ : .ambiguous ∈ statuses
    · simp [lost, open_]
    · rw [if_neg open_]
      split <;> simp [open_]

end Confidence

def graded (coded : List (String × String)) (piece : String) : MatchStatus × List String :=
  if piece.isEmpty then (.missing, []) else matchCode (Text.lower piece) coded

variable {options : List CatalogOption} {keys : IdSet} {pieces : List String}

/-- What is read is what the pieces are graded as. -/
theorem matchPieces_eq_ok {read : List MatchStatus × IdSet}
    (h : matchPieces options keys pieces = .ok read) :
    read = (pieces.map (fun piece => (graded (lowerCodes options) piece).1),
      IdSet.union keys (pieces.flatMap (fun piece => (graded (lowerCodes options) piece).2))) := by
  induction pieces generalizing keys read with
  | nil =>
    obtain rfl := Except.ok.inj h
    rfl
  | cons piece rest ih =>
    rw [matchPieces] at h
    rw [List.map_cons, List.flatMap_cons, IdSet.union_append, graded]
    split at h
    · rename_i blank
      obtain ⟨⟨statuses, found⟩, later, h⟩ := bind_eq_ok.mp h
      obtain rfl := Except.ok.inj h
      rw [if_pos blank]
      cases ih later
      rfl
    · rename_i filled
      obtain ⟨coded, codes, h⟩ := bind_eq_ok.mp h
      obtain rfl := eq_lowerCodes codes
      obtain ⟨⟨statuses, found⟩, later, h⟩ := bind_eq_ok.mp h
      obtain rfl := Except.ok.inj h
      rw [if_neg filled]
      cases ih later
      rfl

/-- Codes that are no texts stop the reading as soon as there is a piece to look up. -/
theorem exists_matchPieces : (∃ read, matchPieces options keys pieces = .ok read) ↔
    ((∃ piece ∈ pieces, piece ≠ "") →
      ∀ o ∈ options, o.code.truthy = true → o.code.kind = .text) := by
  induction pieces generalizing keys with
  | nil => simp [matchPieces]
  | cons piece rest ih =>
    rw [matchPieces]
    by_cases blank : piece.isEmpty = true
    · rw [if_pos blank]
      obtain rfl : piece = "" := by simpa using blank
      simp only [List.exists_mem_cons_iff, ne_eq, not_true_eq_false, false_or, ← @ih keys]
      cases matchPieces options keys rest <;> simp [bind, Except.bind, pure, Except.pure]
    · rw [if_neg blank]
      have filled : ∃ other ∈ piece :: rest, other ≠ "" :=
        ⟨piece, List.mem_cons_self, by simpa using blank⟩
      constructor
      · rintro ⟨read, h⟩ _
        obtain ⟨coded, codes, _⟩ := bind_eq_ok.mp h
        exact exists_codedOptions.mp ⟨coded, codes⟩
      · intro texts
        obtain ⟨coded, codes⟩ := exists_codedOptions.mpr (texts filled)
        obtain ⟨later, others⟩ :=
          (@ih (IdSet.union keys (matchCode (Text.lower piece) coded).2)).mpr fun _ => texts filled
        rw [codes]
        exact ⟨_, bind_eq_ok.mpr ⟨coded, rfl, bind_eq_ok.mpr ⟨later, others, rfl⟩⟩⟩

def piecesOf (separators : Separators) (spec : FieldSpec) (text : String) : List String :=
  if spec.multiSelect then (Text.split separators.multi text).map Text.trim else [text]

variable {s : Snapshot} {offer : Option (Keyed (List String))} {separators : Separators}
  {spec : FieldSpec} {position : Nat} {order : Value} {raw : Option String}

theorem piecesOf_empty (separators : Separators) (spec : FieldSpec) :
    piecesOf separators spec "" = [""] := by
  unfold piecesOf
  split
  · rw [Text.split_empty, List.map_singleton, Text.trim_of_tight Text.tight_empty]
  · rfl

def segmentAmong (options : List CatalogOption) (separators : Separators) (spec : FieldSpec)
    (position : Nat) (order : Value) (raw : Option String) : ParsedSegment :=
  let grades := (piecesOf separators spec (raw.getD "")).map (graded (lowerCodes options))
  ⟨position, raw, MatchStatus.worst (grades.map Prod.fst), spec.collection, order,
    IdSet.ofList (grades.flatMap Prod.snd)⟩

theorem readSegment_eq (filled : raw.getD "" ≠ "")
    (separated : spec.multiSelect = true → separators.multi ≠ "")
    (shown : candidates s offer spec.collection = .ok options) :
    readSegment s offer separators spec position order raw =
      (matchPieces options [] (piecesOf separators spec (raw.getD ""))).map (fun read =>
        ⟨position, raw, MatchStatus.worst read.1, spec.collection, order, read.2⟩) := by
  have here : (raw.getD "").isEmpty = false := by simpa using filled
  cases several : spec.multiSelect with
  | false =>
    simp only [readSegment, piecesOf, here, shown, several, Bool.false_eq_true, if_false]
    show (matchPieces _ _ _ >>= _) = _
    cases matchPieces options [] [raw.getD ""] <;> rfl
  | true =>
    have gap : separators.multi.isEmpty = false := by simpa using separated several
    simp only [readSegment, piecesOf, trimmedPieces, here, shown, several, gap,
      Bool.false_eq_true, if_false, if_true]
    show (matchPieces _ _ _ >>= _) = _
    cases matchPieces options [] ((Text.split separators.multi (raw.getD "")).map Text.trim) <;> rfl

/-- A text that is not empty is read among the candidates. -/
theorem readSegment_of_filled {segment : ParsedSegment} (filled : raw.getD "" ≠ "")
    (h : readSegment s offer separators spec position order raw = .ok segment) :
    ∃ options, candidates s offer spec.collection = .ok options ∧
      segment = segmentAmong options separators spec position order raw := by
  have steps := h
  unfold readSegment at steps
  dsimp only at steps
  rw [if_neg (by simpa using filled)] at steps
  obtain ⟨options, shown, steps⟩ := bind_eq_ok.mp steps
  have separated : spec.multiSelect = true → separators.multi ≠ "" := by
    intro several empty
    rw [if_pos several, trimmedPieces, if_pos (by simp [empty])] at steps
    cases steps
  rw [readSegment_eq filled separated shown] at h
  obtain ⟨read, matched, rfl⟩ := map_eq_ok.mp h
  refine ⟨options, shown, ?_⟩
  rw [matchPieces_eq_ok matched, segmentAmong, IdSet.ofList, List.map_map, List.flatMap_map]
  rfl

theorem readSegment_eq_ok {segment : ParsedSegment}
    (h : readSegment s offer separators spec position order raw = .ok segment) :
    segment = ⟨position, raw, .missing, spec.collection, order, []⟩ ∨
      ∃ options, candidates s offer spec.collection = .ok options ∧
        segment = segmentAmong options separators spec position order raw := by
  by_cases blank : raw.getD "" = ""
  · rw [readSegment, blank] at h
    exact Or.inl (Except.ok.inj h).symm
  · exact Or.inr (readSegment_of_filled blank h)

/-- Among codes that are not all texts only an empty text is read. -/
theorem exists_readSegment (separated : separators.multi ≠ "")
    (shown : candidates s offer spec.collection = .ok options) :
    (∃ segment, readSegment s offer separators spec position order raw = .ok segment) ↔
      ((∃ piece ∈ piecesOf separators spec (raw.getD ""), piece ≠ "") →
        ∀ o ∈ options, o.code.truthy = true → o.code.kind = .text) := by
  by_cases blank : raw.getD "" = ""
  · simp [readSegment, blank, piecesOf_empty]
  · rw [← @exists_matchPieces options [], readSegment_eq blank (fun _ => separated) shown]
    cases matchPieces options [] (piecesOf separators spec (raw.getD "")) <;> simp [Except.map]

variable {fields ordered : List CodeField} {raws : List String}
  {read : List (FieldSpec × ParsedSegment)}

/-- Each entry is read at its position. -/
theorem getElem?_of_readSegments (h : readSegments s offer separators position fields raws = .ok read)
    {i : Nat} {entry : CodeField} (here : fields[i]? = some entry) :
    ∃ spec segment, read[i]? = some (spec, segment) ∧
      s.table.byCollection? entry.collection = some spec ∧
      readSegment s offer separators spec (position + i) entry.order raws[i]? = .ok segment := by
  induction fields generalizing position raws read i with
  | nil => cases here
  | cons first rest ih =>
    obtain ⟨spec, row, h⟩ := bind_eq_ok.mp h
    obtain ⟨segment, result, h⟩ := bind_eq_ok.mp h
    obtain ⟨others, later, h⟩ := bind_eq_ok.mp h
    obtain rfl := Except.ok.inj h
    cases i with
    | zero =>
      obtain rfl := Option.some.inj here
      rw [List.head?_eq_getElem?] at result
      exact ⟨spec, segment, rfl, FieldTable.byCollection?_of_rowOf row, result⟩
    | succ i =>
      obtain ⟨spec, segment, found, row, result⟩ := ih later here
      rw [List.getElem?_tail, Nat.add_assoc, Nat.add_comm 1] at result
      exact ⟨spec, segment, found, row, result⟩

theorem collections_of_readSegments
    (h : readSegments s offer separators position fields raws = .ok read) :
    read.map (fun r => r.1.collection) = fields.map CodeField.collection ∧
      ∀ r ∈ read, r.1 ∈ s.table.specs := by
  induction fields generalizing position raws read with
  | nil =>
    obtain rfl := Except.ok.inj h
    exact ⟨rfl, fun _ member => absurd member List.not_mem_nil⟩
  | cons first rest ih =>
    obtain ⟨spec, row, h⟩ := bind_eq_ok.mp h
    obtain ⟨_, _, h⟩ := bind_eq_ok.mp h
    obtain ⟨others, later, h⟩ := bind_eq_ok.mp h
    obtain rfl := Except.ok.inj h
    obtain ⟨collections, rows⟩ := ih later
    obtain ⟨known, named⟩ := s.table.byCollection?_spec (FieldTable.byCollection?_of_rowOf row)
    rw [List.map_cons, List.map_cons, collections, named]
    exact ⟨rfl, List.forall_mem_cons.mpr ⟨known, rows⟩⟩

theorem readSegment_of_mem (h : readSegments s offer separators position fields raws = .ok read)
    {r : FieldSpec × ParsedSegment} (member : r ∈ read) : ∃ position order raw,
      readSegment s offer separators r.1 position order raw = .ok r.2 := by
  obtain ⟨i, there⟩ := List.mem_iff_getElem?.mp member
  have length := congrArg List.length (collections_of_readSegments h).1
  rw [List.length_map, List.length_map] at length
  have within : i < fields.length := length ▸ (List.getElem?_eq_some_iff.mp there).1
  obtain ⟨spec, segment, found, _, result⟩ :=
    getElem?_of_readSegments h (List.getElem?_eq_getElem within)
  obtain rfl := Option.some.inj (found.symm.trans there)
  exact ⟨_, _, _, result⟩

/-- All entries are read if each of them is. -/
theorem exists_readSegments (covered : s.table.Covers fields) :
    (∃ read, readSegments s offer separators position fields raws = .ok read) ↔
      ∀ i entry spec, fields[i]? = some entry →
        s.table.byCollection? entry.collection = some spec → ∃ segment,
          readSegment s offer separators spec (position + i) entry.order raws[i]? = .ok segment := by
  constructor
  · rintro ⟨read, h⟩ i entry spec here row
    obtain ⟨spec', segment, _, row', result⟩ := getElem?_of_readSegments h here
    obtain rfl := Option.some.inj (row.symm.trans row')
    exact ⟨segment, result⟩
  · intro each
    induction fields generalizing position raws with
    | nil => exact ⟨[], rfl⟩
    | cons first rest ih =>
      obtain ⟨here, others⟩ := List.forall_mem_cons.mp covered
      obtain ⟨spec, row⟩ := Option.isSome_iff_exists.mp here
      obtain ⟨segment, result⟩ := each 0 first spec rfl row
      rw [← List.head?_eq_getElem?] at result
      have after : ∃ read,
          readSegments s offer separators (position + 1) rest raws.tail = .ok read := by
        apply ih others
        intro i entry spec there row
        rw [List.getElem?_tail, Nat.add_assoc, Nat.add_comm 1]
        exact each (i + 1) entry spec there row
      obtain ⟨read, later⟩ := after
      refine ⟨(spec, segment) :: read, ?_⟩
      rw [readSegments, FieldTable.rowOf, row]
      exact bind_eq_ok.mpr ⟨spec, rfl, bind_eq_ok.mpr ⟨segment, result,
        bind_eq_ok.mpr ⟨read, later, rfl⟩⟩⟩

theorem trimmedPieces_eq {separator : String} (filled : separator ≠ "") (text : String) :
    trimmedPieces separator text = .ok ((Text.split separator text).map Text.trim) :=
  if_neg (by simpa using filled)

theorem parse_eq {sku line : Value} (positions : enabledOrder fields = .ok ordered)
    (cut : trimmedPieces separators.delimiter (inputText sku) = .ok raws)
    (offered : offerOf s line = .ok offer) :
    parse sku fields s line separators =
      (readSegments s offer separators 0 ordered raws).map (fun read => {
        input := inputText sku
        rawSegments := raws
        segments := read.map Prod.snd
        confidence := Confidence.ofStatuses ((read.map Prod.snd).map ParsedSegment.status)
        selection := recovered [] read
        issues := read.filterMap (fun r => issueOf? r.1 r.2) ++
          surplusIssue (raws.drop ordered.length) }) := by
  rw [parse, positions]
  show (trimmedPieces _ _ >>= _) = _
  rw [cut]
  show (offerOf s line >>= _) = _
  rw [offered]
  show (readSegments s offer separators 0 ordered raws >>= _) = _
  cases readSegments s offer separators 0 ordered raws <;> rfl

/-- What is parsed was read from the enabled entries and the trimmed pieces. -/
theorem parse_eq_ok {sku line : Value} {parsed : Parsed}
    (h : parse sku fields s line separators = .ok parsed) :
    ∃ ordered offer read, enabledOrder fields = .ok ordered ∧ offerOf s line = .ok offer ∧
      readSegments s offer separators 0 ordered parsed.rawSegments = .ok read ∧
      parsed.rawSegments = (Text.split separators.delimiter (inputText sku)).map Text.trim ∧
      parsed.segments = read.map Prod.snd ∧ parsed.selection = recovered [] read ∧
      parsed.confidence = Confidence.ofStatuses (parsed.segments.map ParsedSegment.status) := by
  obtain ⟨ordered, positions, h⟩ := bind_eq_ok.mp h
  obtain ⟨raws, cut, h⟩ := bind_eq_ok.mp h
  obtain ⟨offer, offered, h⟩ := bind_eq_ok.mp h
  obtain ⟨read, segments, h⟩ := bind_eq_ok.mp h
  obtain rfl := Except.ok.inj h
  refine ⟨ordered, offer, read, positions, offered, segments, ?_, rfl, rfl, rfl⟩
  unfold trimmedPieces at cut
  split at cut
  · cases cut
  · exact (Except.ok.inj cut).symm

end Sku

end MadeToOrder
