import Mathlib.Logic.Relation
import MadeToOrder.Proofs.Sku.Canonical
import MadeToOrder.Proofs.Text.Editing

/-!
# What parsing does not see

A code is cut before its pieces are trimmed, and they are put in lower case last. So neither
the case of letters nor white space next to a delimiter or at an end of the code changes what
is read, and in a segment of several options neither does white space next to their separator.
One edit leaves every piece as good as it was; any number of edits, made or undone, follows.
-/

set_option autoImplicit false

namespace MadeToOrder.Sku

open Text (trimmed lowered pieces Recased Touches)

def severalAt (s : Snapshot) (ordered : List CodeField) (position : Nat) : Bool :=
  match ordered[position]?.bind fun entry => s.table.byCollection? entry.collection with
  | some spec => spec.multiSelect
  | none => false

/-- Letters change their case, or a blank is put next to a delimiter, at an end of the code, or
next to the separator in a segment of several options. -/
inductive Edit (several : Nat → Bool) (delimiter multi : Char) : List Char → List Char → Prop
  | recase {x y : List Char} (recased : Recased x y) : Edit several delimiter multi x y
  | pad (before after : List Char) {blank : Char} (isBlank : Text.isBlank blank = true)
    (place : Touches delimiter before after ∨
      several (before.count delimiter) = true ∧ Touches multi before after) :
    Edit several delimiter multi (before ++ after) (before ++ blank :: after)

/-- Pieces of a code that give the same segment. -/
structure SamePiece (several : Bool) (multi : Char) (x y : List Char) : Prop where
  empty : trimmed x = [] ↔ trimmed y = []
  whole : several = false → lowered (trimmed x) = lowered (trimmed y)
  parts : several = true → (pieces [multi] 0 (trimmed x)).map (fun part => lowered (trimmed part)) =
    (pieces [multi] 0 (trimmed y)).map (fun part => lowered (trimmed part))

theorem SamePiece.refl (several : Bool) (multi : Char) (x : List Char) :
    SamePiece several multi x x := ⟨Iff.rfl, fun _ => rfl, fun _ => rfl⟩

section

variable {several : Nat → Bool} {delimiter multi blank : Char} {before after x y : List Char}

theorem SamePiece.of_recased (plain : multi.isAlpha = false) (h : Recased x y) (many : Bool) :
    SamePiece many multi x y := by
  have inner := h.trimmed
  refine ⟨?_, fun _ => inner.lowered, fun _ => ?_⟩
  · rw [← List.length_eq_zero_iff, ← List.length_eq_zero_iff, List.Forall₂.length_eq inner]
  · have parts := inner.pieces plain
    generalize pieces [multi] 0 (trimmed x) = left at parts
    generalize pieces [multi] 0 (trimmed y) = right at parts
    induction parts with
    | nil => rfl
    | cons first _ ih => rw [List.map_cons, List.map_cons, first.trimmed.lowered, ih]

/-- A blank goes into one piece only, and is trimmed away there or next to a separator. -/
theorem SamePiece.of_pad (plain : Text.isBlank multi = false) (isBlank : Text.isBlank blank = true)
    (many : Bool) (place : (x = [] ∨ y = []) ∨ many = true ∧ Touches multi x y) :
    SamePiece many multi (x ++ y) (x ++ blank :: y) := by
  have parts : many = true → (pieces [multi] 0 (x ++ blank :: y)).map trimmed =
      (pieces [multi] 0 (x ++ y)).map trimmed := by
    intro _
    apply Text.pieces_insert_blank plain isBlank
    rcases place with (rfl | rfl) | ⟨_, touches⟩
    · exact Or.inl nofun
    · exact Or.inr nofun
    · exact touches
  refine ⟨?_, fun single => ?_, fun several => ?_⟩
  · simp only [Text.trimmed_eq_nil_iff, List.forall_mem_append, List.forall_mem_cons, isBlank,
      true_and]
  · rcases place with edge | ⟨several, _⟩
    · rw [Text.trimmed_insert_blank isBlank edge]
    · rw [single] at several
      cases several
  · have same := parts several
    rw [← Text.pieces_trimmed plain, ← Text.pieces_trimmed plain (x ++ y)] at same
    simpa only [List.map_map, Function.comp_def] using congrArg (List.map lowered) same.symm

theorem getD_of_forall₂ {α : Type} {R : α → α → Prop} {xs ys : List α} {fallback : α}
    (related : R fallback fallback) (h : List.Forall₂ R xs ys) (i : Nat) :
    R (xs.getD i fallback) (ys.getD i fallback) := by
  induction h generalizing i with
  | nil => exact related
  | cons first _ ih =>
    cases i with
    | zero => exact first
    | succ i => exact ih i

/-- Lists that differ in one place are related at every position if they are there. -/
theorem getD_of_replaced {α : Type} {R : Nat → α → α → Prop} (same : ∀ i a, R i a a)
    (front back : List α) {old new fallback : α} (changed : R front.length old new) (i : Nat) :
    R i ((front ++ old :: back).getD i fallback) ((front ++ new :: back).getD i fallback) := by
  induction front generalizing R i with
  | nil =>
    cases i with
    | zero => exact changed
    | succ i => exact same _ _
  | cons first rest ih =>
    cases i with
    | zero => exact same _ _
    | succ i => exact @ih (fun i => R (i + 1)) (fun i => same (i + 1)) changed i

/-- One edit leaves the piece at every position as good as it was. -/
theorem samePiece_of_edit (plain : delimiter.isAlpha = false ∧ Text.isBlank delimiter = false)
    (apart : multi.isAlpha = false ∧ Text.isBlank multi = false)
    (h : Edit several delimiter multi x y) (i : Nat) :
    SamePiece (several i) multi ((pieces [delimiter] 0 x).getD i [])
      ((pieces [delimiter] 0 y).getD i []) := by
  cases h with
  | recase recased =>
    exact .of_recased apart.1 (getD_of_forall₂ .nil (recased.pieces plain.1) i) _
  | @pad before after blank isBlank place =>
    obtain ⟨front, x, y, back, clear, free, ending, start, count, around⟩ :=
      Text.pieces_around delimiter before after
    have other : delimiter ∉ [blank] := by
      rw [List.mem_singleton]
      rintro rfl
      rw [plain.2] at isBlank
      cases isBlank
    have bare := around [] List.not_mem_nil
    have padded := around [blank] other
    simp only [List.singleton_append, List.nil_append] at bare padded
    rw [bare, padded]
    apply getD_of_replaced (R := fun i => SamePiece (several i) multi) fun i => .refl _ _
    apply SamePiece.of_pad apart.2 isBlank
    refine place.imp (fun touches => (touches.part ending start).eq_nil clear free) ?_
    rintro ⟨many, touches⟩
    exact ⟨count ▸ many, touches.part ending start⟩

end

variable {s : Snapshot} {offer : Option (Keyed (List String))} {separators : Separators}
  {spec : FieldSpec} {options : List CatalogOption} {line : Value}
  {fields ordered : List CodeField} {position : Nat} {order : Value}

def ParsedSegment.reading (segment : ParsedSegment) : MatchStatus × IdSet :=
  (segment.status, segment.matched)

structure SameText (separators : Separators) (spec : FieldSpec) (text text' : String) : Prop where
  empty : text = "" ↔ text' = ""
  parts : (piecesOf separators spec text).map Text.lower =
    (piecesOf separators spec text').map Text.lower

theorem sameText_of_samePiece {many : Bool} {multi : Char} {x y : List Char}
    (separated : separators.multi.toList = [multi]) (takes : spec.multiSelect = many)
    (h : SamePiece many multi x y) :
    SameText separators spec (String.ofList (trimmed x)) (String.ofList (trimmed y)) := by
  have cut (text : List Char) (several : many = true) :
      (piecesOf separators spec (String.ofList text)).map Text.lower =
        ((pieces [multi] 0 text).map fun part => lowered (trimmed part)).map String.ofList := by
    simp [piecesOf, takes, several, Text.split, separated, Text.trim, Text.lower,
      Function.comp_def]
  refine ⟨?_, ?_⟩
  · simpa using h.empty
  · cases several : many with
    | true => rw [cut _ several, cut _ several, h.parts several]
    | false => simp [piecesOf, takes, several, Text.lower, h.whole several]

theorem matchPieces_congr {keys : IdSet} {texts texts' : List String}
    (same : texts.map Text.lower = texts'.map Text.lower) :
    matchPieces options keys texts = matchPieces options keys texts' := by
  induction texts generalizing keys texts' with
  | nil =>
    obtain rfl := List.map_eq_nil_iff.mp same.symm
    rfl
  | cons text rest ih =>
    cases texts' with
    | nil => cases same
    | cons text' rest' =>
      obtain ⟨lower, later⟩ := List.cons.inj same
      have empty : text.isEmpty = text'.isEmpty := by
        rw [Bool.eq_iff_iff, String.isEmpty_iff, String.isEmpty_iff, ← Text.lower_eq_empty, lower,
          Text.lower_eq_empty]
      rw [matchPieces, matchPieces, empty, lower]
      simp only [ih later]

theorem paired_readSegment {raw raw' : Option String} (separated : separators.multi ≠ "")
    (same : SameText separators spec (raw.getD "") (raw'.getD "")) :
    Paired (fun segment segment' => segment.reading = segment'.reading)
      (readSegment s offer separators spec position order raw)
      (readSegment s offer separators spec position order raw') := by
  by_cases blank : raw.getD "" = ""
  · rw [readSegment, readSegment, blank, same.empty.mp blank]
    exact .ok rfl
  · have filled := mt same.empty.mpr blank
    cases shown : candidates s offer spec.collection with
    | error fault =>
      have stops {text : Option String} (some : text.getD "" ≠ "") :
          readSegment s offer separators spec position order text = .error fault := by
        simp [readSegment, some, shown, bind, Except.bind]
      rw [stops blank, stops filled]
      exact .error fault
    | ok options =>
      rw [readSegment_eq blank (fun _ => separated) shown,
        readSegment_eq filled (fun _ => separated) shown, matchPieces_congr same.parts]
      apply (Paired.refl _).map
      rintro read _ rfl
      rfl

theorem paired_readSegments {raws raws' : List String} (separated : separators.multi ≠ "")
    (same : ∀ (i : Nat) (entry : CodeField) (spec : FieldSpec), fields[i]? = some entry →
      s.table.byCollection? entry.collection = some spec →
      SameText separators spec (raws[i]?.getD "") (raws'[i]?.getD "")) :
    Paired (fun read read' => read.map (fun r => (r.1, r.2.reading)) =
        read'.map (fun r => (r.1, r.2.reading)))
      (readSegments s offer separators position fields raws)
      (readSegments s offer separators position fields raws') := by
  induction fields generalizing position raws raws' with
  | nil => exact .ok rfl
  | cons entry rest ih =>
    rw [readSegments, readSegments]
    cases row : s.table.rowOf entry.collection "SKU field order" with
    | error fault => exact .error fault
    | ok spec =>
      have found := FieldTable.byCollection?_of_rowOf row
      have first : SameText separators spec (raws.head?.getD "") (raws'.head?.getD "") := by
        rw [List.head?_eq_getElem?, List.head?_eq_getElem?]
        exact same 0 entry spec rfl found
      apply (paired_readSegment separated first).bind
      intro segment segment' alike
      have others : ∀ (i : Nat) (entry : CodeField) (spec : FieldSpec), rest[i]? = some entry →
          s.table.byCollection? entry.collection = some spec →
          SameText separators spec (raws.tail[i]?.getD "") (raws'.tail[i]?.getD "") := by
        intro i entry spec here row
        rw [List.getElem?_tail, List.getElem?_tail]
        exact same (i + 1) entry spec here row
      apply (ih others).bind
      intro read read' later
      refine .ok ?_
      rw [List.map_cons, List.map_cons, alike, later]

structure Reading where
  segments : List (MatchStatus × IdSet)
  selection : Selection
  confidence : Confidence
  deriving Repr

def Parsed.reading (parsed : Parsed) : Reading :=
  ⟨parsed.segments.map ParsedSegment.reading, parsed.selection, parsed.confidence⟩

theorem recovered_congr {read read' : List (FieldSpec × ParsedSegment)} {start : Selection}
    (same : read.map (fun r => (r.1, r.2.reading)) = read'.map (fun r => (r.1, r.2.reading))) :
    recovered start read = recovered start read' := by
  induction read generalizing start read' with
  | nil =>
    obtain rfl := List.map_eq_nil_iff.mp same.symm
    rfl
  | cons r rest ih =>
    cases read' with
    | nil => cases same
    | cons r' rest' =>
      obtain ⟨spec, segment⟩ := r
      obtain ⟨spec', segment'⟩ := r'
      obtain ⟨first, later⟩ := List.cons.inj same
      obtain ⟨rfl : spec = spec', alike⟩ := Prod.mk.inj first
      obtain ⟨status, matched⟩ := Prod.mk.inj alike
      have own : recovered? spec segment = recovered? spec segment' := by
        unfold recovered?
        rw [status, matched]
      rw [recovered, recovered, own]
      cases recovered? spec segment' with
      | none => exact ih later
      | some v => exact ih later

theorem ne_empty_of_toList {text : String} {c : Char} (single : text.toList = [c]) : text ≠ "" := by
  rintro rfl
  cases single

theorem sameText_of_samePieces {x y : List Char} {delimiter multi : Char}
    (delimited : separators.delimiter.toList = [delimiter])
    (separated : separators.multi.toList = [multi])
    (same : ∀ i, SamePiece (severalAt s ordered i) multi ((pieces [delimiter] 0 x).getD i [])
      ((pieces [delimiter] 0 y).getD i []))
    (i : Nat) (entry : CodeField) (spec : FieldSpec) (here : ordered[i]? = some entry)
    (row : s.table.byCollection? entry.collection = some spec) :
    SameText separators spec
      (((Text.split separators.delimiter (String.ofList x)).map Text.trim)[i]?.getD "")
      (((Text.split separators.delimiter (String.ofList y)).map Text.trim)[i]?.getD "") := by
  have text (cs : List Char) :
      ((Text.split separators.delimiter (String.ofList cs)).map Text.trim)[i]?.getD "" =
        String.ofList (trimmed ((pieces [delimiter] 0 cs).getD i [])) := by
    rw [Text.split, delimited, String.toList_ofList, List.map_map, List.getElem?_map,
      List.getD_eq_getElem?_getD]
    cases (pieces [delimiter] 0 cs)[i]? <;> simp [Text.trim, trimmed, Text.trimBy]
  have takes : spec.multiSelect = severalAt s ordered i := by
    rw [severalAt, here, Option.bind_some, row]
  rw [text, text]
  exact sameText_of_samePiece separated takes (same i)

/-- One edit does not change what is read. -/
theorem paired_parse_of_edit (positions : enabledOrder fields = .ok ordered)
    {delimiter multi : Char} (delimited : separators.delimiter.toList = [delimiter])
    (separated : separators.multi.toList = [multi])
    (plain : delimiter.isAlpha = false ∧ Text.isBlank delimiter = false)
    (apart : multi.isAlpha = false ∧ Text.isBlank multi = false) {x y : List Char}
    (edit : Edit (severalAt s ordered) delimiter multi x y) (line : Value) :
    Paired (fun parsed parsed' => parsed.reading = parsed'.reading)
      (parse (.text (String.ofList x)) fields s line separators)
      (parse (.text (String.ofList y)) fields s line separators) := by
  have cut := ne_empty_of_toList delimited
  have inner := ne_empty_of_toList separated
  have same := sameText_of_samePieces delimited separated
    (samePiece_of_edit plain apart edit)
  cases offered : offerOf s line with
  | error fault =>
    have stops (text : String) : parse (.text text) fields s line separators = .error fault := by
      rw [parse, positions]
      show (trimmedPieces _ _ >>= _) = _
      rw [trimmedPieces_eq cut]
      show (offerOf s line >>= _) = _
      rw [offered]
      rfl
    rw [stops, stops]
    exact .error fault
  | ok offer =>
    rw [parse_eq positions (trimmedPieces_eq cut _) offered,
      parse_eq positions (trimmedPieces_eq cut _) offered]
    apply (paired_readSegments inner same).map
    intro read read' alike
    have readings : (read.map Prod.snd).map ParsedSegment.reading =
        (read'.map Prod.snd).map ParsedSegment.reading := by
      simpa [Function.comp_def] using congrArg (List.map Prod.snd) alike
    have statuses : (read.map Prod.snd).map ParsedSegment.status =
        (read'.map Prod.snd).map ParsedSegment.status := by
      simpa [ParsedSegment.reading, Function.comp_def] using congrArg (List.map Prod.fst) readings
    simp only [Parsed.reading, readings, statuses, recovered_congr alike]

/-- So edits that are made or undone do not change it, however many there are. -/
theorem reading_of_edits (positions : enabledOrder fields = .ok ordered)
    {delimiter multi : Char} (delimited : separators.delimiter.toList = [delimiter])
    (separated : separators.multi.toList = [multi])
    (plain : delimiter.isAlpha = false ∧ Text.isBlank delimiter = false)
    (apart : multi.isAlpha = false ∧ Text.isBlank multi = false) (line : Value) {x y : List Char}
    (edits : Relation.EqvGen (Edit (severalAt s ordered) delimiter multi) x y) :
    (parse (.text (String.ofList x)) fields s line separators).map Parsed.reading =
      (parse (.text (String.ofList y)) fields s line separators).map Parsed.reading := by
  induction edits with
  | rel x y edit =>
    have paired := paired_parse_of_edit positions delimited separated plain apart edit line
    exact (paired.map fun _ _ same => same).eq
  | refl => rfl
  | symm x y _ ih => exact ih.symm
  | trans x y z _ _ first second => exact first.trans second

/-- The codes differ by edits, made or undone one after the other. -/
def Edited (several : Nat → Bool) (delimiter multi : Char) (code code' : String) : Prop :=
  Relation.EqvGen (Edit several delimiter multi) code.toList code'.toList

/-- Codes that differ in letter case and padding are read alike, and where the codes of options
are texts both are read. -/
theorem case_and_padding_are_not_read (positions : enabledOrder fields = .ok ordered)
    {delimiter multi : Char} (delimited : separators.delimiter.toList = [delimiter])
    (separated : separators.multi.toList = [multi])
    (plain : delimiter.isAlpha = false ∧ Text.isBlank delimiter = false)
    (apart : multi.isAlpha = false ∧ Text.isBlank multi = false) (line : Value)
    (code code' : String) (edited : Edited (severalAt s ordered) delimiter multi code code') :
    (parse (.text code) fields s line separators).map Parsed.reading =
        (parse (.text code') fields s line separators).map Parsed.reading ∧
      (s.Sortable → AllSpelled (fun _ => False) s → s.table.Covers ordered →
        ∃ parsed parsed', parse (.text code) fields s line separators = .ok parsed ∧
          parse (.text code') fields s line separators = .ok parsed' ∧
          parsed.reading = parsed'.reading) := by
  have same := reading_of_edits positions delimited separated plain apart line edited
  rw [String.ofList_toList, String.ofList_toList] at same
  refine ⟨same, fun sortable spelled covered => ?_⟩
  have cut := ne_empty_of_toList delimited
  have inner := ne_empty_of_toList separated
  obtain ⟨parsed, read⟩ := exists_parse sortable spelled positions covered cut inner (.text code)
    line
  obtain ⟨parsed', read'⟩ := exists_parse sortable spelled positions covered cut inner
    (.text code') line
  rw [read, read'] at same
  exact ⟨parsed, parsed', read, read', Except.ok.inj same⟩

/-- Blanks around a separator and small letters here and there are passed over. -/
theorem loose_and_tight_code_are_read_alike :
    Edited (severalAt carOptions [⟨"sizes", .int 1, .bool true⟩, ⟨"extras", .int 2, .bool true⟩])
      '-' '+' "SL-WF+GP" "sl-WF + gp" ∧
    ∃ parsed parsed',
      parse (.text "SL-WF+GP") sizeThenExtras carOptions .null Separators.standard = .ok parsed ∧
      parse (.text "sl-WF + gp") sizeThenExtras carOptions .null Separators.standard =
        .ok parsed' ∧
      parsed.reading = parsed'.reading ∧ parsed'.segments.map ParsedSegment.matched =
        [["large"], ["wifi", "gps"]] ∧ parsed'.confidence = .exact := by
  have recased : Recased "SL-WF+GP".toList "sl-WF+gp".toList := by
    unfold Recased Text.Alike
    decide
  have edited : Edited (severalAt carOptions
      [⟨"sizes", .int 1, .bool true⟩, ⟨"extras", .int 2, .bool true⟩]) '-' '+'
      "SL-WF+GP" "sl-WF + gp" := by
    refine .trans _ _ _ (.rel _ _ (.recase recased)) (.trans _ "sl-WF +gp".toList _ ?_ ?_)
    · refine .rel _ _ (.pad "sl-WF".toList "+gp".toList (by decide) (Or.inr ⟨rfl, Or.inr ?_⟩))
      rintro c ⟨⟩
      rfl
    · refine .rel _ _ (.pad "sl-WF +".toList "gp".toList (by decide) (Or.inr ⟨rfl, Or.inl ?_⟩))
      rintro c ⟨⟩
      rfl
  have sortable : carOptions.Sortable := by
    unfold Snapshot.Sortable
    decide
  obtain ⟨_, reads⟩ := case_and_padding_are_not_read enabledOrder_sizeThenExtras
    (rfl : Separators.standard.delimiter.toList = ['-'])
    (rfl : Separators.standard.multi.toList = ['+']) (by decide) (by decide) .null _ _ edited
  obtain ⟨parsed, parsed', read, read', same⟩ :=
    reads sortable (spelled_of_texts texts_carOptions) (by unfold FieldTable.Covers; decide)
  refine ⟨edited, parsed, parsed', read, read', same, ?_⟩
  rw [parse_eq enabledOrder_sizeThenExtras
    (rfl : trimmedPieces "-" "sl-WF + gp" = .ok ["sl", "WF + gp"])
    (rfl : offerOf carOptions .null = .ok none)] at read'
  cases read'
  exact ⟨rfl, rfl⟩

end MadeToOrder.Sku
