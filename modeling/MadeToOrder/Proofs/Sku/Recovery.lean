import MadeToOrder.Proofs.Sku.Grading

/-!
# What is recovered from a code

Every enabled entry has a segment at its position, and a field is recovered if its segment is
exact. The ids that are recovered are those of candidates: active options of the collection,
within the defaults of the line where it has defaults there. Each is the only candidate whose
code is what was written, letter case aside, and nothing that was written is passed over.
-/

set_option autoImplicit false

namespace MadeToOrder.Sku

variable {s : Snapshot} {line : Value} {offer : Option (Keyed (List String))}
  {separators : Separators} {spec : FieldSpec} {position : Nat} {order : Value}
  {raw : Option String} {options : List CatalogOption} {collection : String}

/-- An option that may be meant at the position of a collection. -/
structure IsCandidate (s : Snapshot) (line : Value) (collection : String) (o : CatalogOption) :
    Prop where
  known : s.option? collection o.key = some o
  active : o.active.truthy = true
  offered : line.isNull = false → ∀ defaults ids, s.lineDefaults line = .ok defaults →
    Keyed.get? defaults collection = some ids → o.key ∈ ids

theorem exists_offer (sortable : s.Sortable) (line : Value) :
    ∃ offer, offerOf s line = .ok offer :=
  (failsOnly_offerOf (P := fun _ => False) (Or.inr sortable) line).returns fun _ => id

theorem exists_candidates (sortable : s.Sortable) (offer : Option (Keyed (List String)))
    (collection : String) : ∃ options, candidates s offer collection = .ok options :=
  (failsOnly_candidates (P := fun _ => False) (Or.inr sortable) offer collection).returns
    fun _ => id

theorem mem_candidates {o : CatalogOption} (filed : s.Filed)
    (shown : candidates s offer collection = .ok options) :
    o ∈ options ↔ s.option? collection o.key = some o ∧
      ∀ ids, offer.bind (fun defaults => Keyed.get? defaults collection) = some ids →
        o.key ∈ ids := by
  obtain ⟨all, displayed, shown⟩ := bind_eq_ok.mp shown
  have listed : o ∈ all ↔ s.option? collection o.key = some o := by
    rw [(s.optionsFor_perm displayed).mem_iff]
    exact ⟨fun member => Keyed.get?_of_mem (filed.optionsIn collection).distinct
      (filed.entry member), Snapshot.mem_of_option?⟩
  split at shown
  · rename_i ids within
    obtain rfl := Except.ok.inj shown
    simp [listed, within]
  · rename_i free
    obtain rfl := Except.ok.inj shown
    simp [listed, free]

theorem lineDefaults_of_unknown (unknown : s.hasLine line = false) :
    s.lineDefaults line = .error (.unknownLine line) := by
  have none : Keyed.get? s.lines line.plain = none := by
    simpa [Snapshot.hasLine, Keyed.has] using unknown
  rw [Snapshot.lineDefaults, Snapshot.line, none]
  rfl

theorem mem_candidates_iff {o : CatalogOption} (filed : s.Filed) (active : s.Active)
    (offered : offerOf s line = .ok offer) (shown : candidates s offer collection = .ok options) :
    o ∈ options ↔ IsCandidate s line collection o := by
  rw [mem_candidates filed shown]
  have within : (∀ ids, offer.bind (fun defaults => Keyed.get? defaults collection) = some ids →
      o.key ∈ ids) ↔ (line.isNull = false → ∀ defaults ids, s.lineDefaults line = .ok defaults →
        Keyed.get? defaults collection = some ids → o.key ∈ ids) := by
    unfold offerOf at offered
    by_cases null : line.isNull = true
    · rw [null] at offered
      obtain rfl := Except.ok.inj offered
      simp [null]
    · have given : line.isNull = false := by simpa using null
      cases known : s.hasLine line with
      | false =>
        rw [given, known] at offered
        obtain rfl := Except.ok.inj offered
        simp [lineDefaults_of_unknown known]
      | true =>
        rw [given, known] at offered
        obtain ⟨defaults, delivered, rfl⟩ := map_eq_ok.mp offered
        simp only [given, forall_const, delivered, Except.ok.injEq, Option.bind_some]
        exact ⟨fun within _ ids same => same ▸ within ids, fun within ids => within defaults ids rfl⟩
  rw [within]
  exact ⟨fun ⟨found, offers⟩ => ⟨found, active.option found, offers⟩,
    fun candidate => ⟨candidate.known, candidate.offered⟩⟩

theorem graded?_eq_some {single : MatchStatus} {keys : List String}
    {grade : MatchStatus × List String} (h : graded? single keys = some grade) :
    (∃ key, keys = [key] ∧ grade = (single, [key])) ∨ grade.1 = .ambiguous := by
  unfold graded? at h
  split at h
  · cases h
  · exact Or.inl ⟨_, rfl, (Option.some.inj h).symm⟩
  · exact Or.inr (by rw [← Option.some.inj h])

/-- Only the first look finds exact codes. -/
theorem matchCode_of_exact {needle : String} {coded : List (String × String)}
    (exact : (matchCode needle coded).1 = .exact) :
    ∃ id, hits coded (fun code => code == needle) = [id] ∧
      matchCode needle coded = (.exact, [id]) := by
  have later : ∀ keys grade, graded? .inexact keys = some grade → grade.1 ≠ .exact := by
    intro keys grade found same
    rcases graded?_eq_some found with ⟨key, _, rfl⟩ | other
    · cases same
    · rw [other] at same
      cases same
  unfold matchCode at exact ⊢
  cases first : graded? .exact (hits coded fun code => code == needle) with
  | some grade =>
    rw [first, Option.some_or, Option.getD_some] at exact
    rcases graded?_eq_some first with ⟨id, only, rfl⟩ | other
    · exact ⟨id, only, rfl⟩
    · rw [other] at exact
      cases exact
  | none =>
    rw [first, Option.none_or] at exact
    cases found : (graded? .inexact (hits coded fun code => Text.startsWith code needle)).or
        (graded? .inexact (hits coded fun code => Text.contains code needle)) with
    | none =>
      rw [found] at exact
      cases exact
    | some grade =>
      rw [found, Option.getD_some] at exact
      rcases Option.or_eq_some_iff.mp found with second | ⟨_, third⟩
      · exact absurd exact (later _ grade second)
      · exact absurd exact (later _ grade third)

/-- The piece is the code, in lower case, of the candidate with the id and of no other. -/
def Denotes (s : Snapshot) (line : Value) (collection piece id : String) : Prop :=
  ∃ o, IsCandidate s line collection o ∧ o.key = id ∧
    Text.lower (codeText o) = Text.lower piece ∧ ∀ other, IsCandidate s line collection other →
      Text.lower (codeText other) = Text.lower piece → other = o

theorem truthy_of_codeText {o : CatalogOption} (coded : codeText o ≠ "") :
    o.code.truthy = true := by
  unfold codeText at coded
  split at coded
  · rename_i t text
    rw [text]
    simpa [Value.truthy] using coded
  · exact absurd rfl coded

/-- An exact piece has the code of one option, letter case aside. -/
theorem exists_option_of_graded {piece : String}
    (exact : (graded (lowerCodes options) piece).1 = .exact) :
    piece ≠ "" ∧ ∃ o ∈ options, graded (lowerCodes options) piece = (.exact, [o.key]) ∧
      Text.lower (codeText o) = Text.lower piece ∧
      ∀ other ∈ options, Text.lower (codeText other) = Text.lower piece → other.key = o.key := by
  unfold graded at exact ⊢
  by_cases blank : piece.isEmpty = true
  · rw [if_pos blank] at exact
    cases exact
  rw [if_neg blank] at exact ⊢
  have filled : piece ≠ "" := by simpa using blank
  obtain ⟨id, only, matched⟩ := matchCode_of_exact exact
  have member : id ∈ hits (lowerCodes options) (fun code => code == Text.lower piece) := by
    simp [only]
  obtain ⟨o, here, _, same, rfl⟩ := mem_hits_lowerCodes.mp member
  refine ⟨filled, o, here, matched, by simpa using same, fun other there alike => ?_⟩
  have coded : codeText other ≠ "" := by
    intro empty
    rw [empty] at alike
    exact filled (Text.lower_eq_empty.mp alike.symm)
  have hit : other.key ∈ hits (lowerCodes options) (fun code => code == Text.lower piece) :=
    mem_hits_lowerCodes.mpr ⟨other, there, truthy_of_codeText coded, by simpa using alike, rfl⟩
  simpa [only] using hit

theorem denotes_of_graded (filed : s.Filed)
    (listed : ∀ o, o ∈ options ↔ IsCandidate s line collection o) {piece : String}
    (exact : (graded (lowerCodes options) piece).1 = .exact) :
    piece ≠ "" ∧ ∃ id, graded (lowerCodes options) piece = (.exact, [id]) ∧
      Denotes s line collection piece id := by
  obtain ⟨filled, o, here, grade, same, only⟩ := exists_option_of_graded exact
  have candidate := (listed o).mp here
  refine ⟨filled, o.key, grade, o, candidate, rfl, same, fun other there alike => ?_⟩
  exact filed.eq_of_key_eq (Snapshot.mem_of_option? there.known)
    (Snapshot.mem_of_option? candidate.known) (only other ((listed other).mpr there) alike)

/-- What a text means for its field: the id that it denotes, or where the field takes several
the ids that its pieces denote, each piece one of them. -/
inductive Means (s : Snapshot) (line : Value) (separators : Separators) (spec : FieldSpec)
    (text : String) : Value → Prop
  | one {id : String} (single : spec.multiSelect = false)
    (denoted : Denotes s line spec.collection text id) : Means s line separators spec text (.text id)
  | several {ids : List String} (many : spec.multiSelect = true) (distinct : ids.Nodup)
    (denoted : ∀ id ∈ ids, ∃ piece ∈ (Text.split separators.multi text).map Text.trim,
      Denotes s line spec.collection piece id)
    (accounted : ∀ piece ∈ (Text.split separators.multi text).map Text.trim, ∃ id ∈ ids,
      Denotes s line spec.collection piece id) :
    Means s line separators spec text (.list (ids.map .text))

theorem recovered?_of_inexact {segment : ParsedSegment} (h : segment.status ≠ .exact) :
    recovered? spec segment = none := if_neg h

theorem recovered?_of_many {segment : ParsedSegment} (exact : segment.status = .exact)
    (many : spec.multiSelect = true) (some : segment.matched ≠ []) :
    recovered? spec segment = .some (.list (segment.matched.map .text)) := by
  unfold recovered?
  rw [if_pos exact]
  split
  · contradiction
  · rename_i only
    rw [many, only]
    rfl
  · rw [many]
    rfl

section

variable (exact : (segmentAmong options separators spec position order raw).status = .exact)
include exact

/-- Every piece of an exact segment stands for one option. -/
theorem pieces_denote (filed : s.Filed)
    (listed : ∀ o, o ∈ options ↔ IsCandidate s line spec.collection o) :
    piecesOf separators spec (raw.getD "") ≠ [] ∧
      ∀ piece ∈ piecesOf separators spec (raw.getD ""), piece ≠ "" ∧
        ∃ id, graded (lowerCodes options) piece = (.exact, [id]) ∧
          Denotes s line spec.collection piece id := by
  obtain ⟨filled, grades⟩ := MatchStatus.worst_eq_exact.mp exact
  refine ⟨by simpa using filled, ?_⟩
  intro piece member
  apply denotes_of_graded filed listed
  exact grades _ (List.mem_map_of_mem (List.mem_map_of_mem member))

variable (each : ∀ piece ∈ piecesOf separators spec (raw.getD ""), piece ≠ "" ∧
  ∃ id, graded (lowerCodes options) piece = (.exact, [id]) ∧
    Denotes s line spec.collection piece id)
include each

theorem means_of_single (single : spec.multiSelect = false) :
    ∃ v, Means s line separators spec (raw.getD "") v ∧
      recovered? spec (segmentAmong options separators spec position order raw) = some v := by
  have whole : piecesOf separators spec (raw.getD "") = [raw.getD ""] := by simp [piecesOf, single]
  obtain ⟨_, id, grade, denoted⟩ := each (raw.getD "") (by simp [whole])
  have matched : (segmentAmong options separators spec position order raw).matched = [id] := by
    simp [segmentAmong, whole, grade, IdSet.ofList, IdSet.union, IdSet.add]
  exact ⟨_, .one single denoted, by simp [recovered?, exact, matched, single]⟩

theorem means_of_several (many : spec.multiSelect = true)
    (filled : piecesOf separators spec (raw.getD "") ≠ []) :
    ∃ v, Means s line separators spec (raw.getD "") v ∧
      recovered? spec (segmentAmong options separators spec position order raw) = some v := by
  have cut : piecesOf separators spec (raw.getD "") =
      (Text.split separators.multi (raw.getD "")).map Text.trim := if_pos many
  have matched : ∀ id, id ∈ (segmentAmong options separators spec position order raw).matched ↔
      ∃ piece ∈ piecesOf separators spec (raw.getD ""),
        id ∈ (graded (lowerCodes options) piece).2 := by
    simp [segmentAmong, IdSet.mem_ofList]
  rw [cut] at each matched filled
  refine ⟨_, .several many (IdSet.nodup_ofList _) ?_ ?_, recovered?_of_many exact many ?_⟩
  · intro id member
    obtain ⟨piece, written, found⟩ := (matched id).mp member
    obtain ⟨_, other, grade, denoted⟩ := each piece written
    obtain rfl : id = other := by simpa [grade] using found
    exact ⟨piece, written, denoted⟩
  · intro piece written
    obtain ⟨_, id, grade, denoted⟩ := each piece written
    exact ⟨id, (matched id).mpr ⟨piece, written, by simp [grade]⟩, denoted⟩
  · obtain ⟨piece, written⟩ := List.exists_mem_of_ne_nil _ filled
    obtain ⟨_, id, grade, _⟩ := each piece written
    exact List.ne_nil_of_mem ((matched id).mpr ⟨piece, written, by simp [grade]⟩)

end

/-- An exact segment is recovered as what its text says. -/
theorem means_of_exact (filed : s.Filed)
    (listed : ∀ o, o ∈ options ↔ IsCandidate s line spec.collection o)
    (exact : (segmentAmong options separators spec position order raw).status = .exact) :
    ∃ text v, raw = some text ∧ Means s line separators spec text v ∧
      recovered? spec (segmentAmong options separators spec position order raw) = some v := by
  obtain ⟨filled, each⟩ := pieces_denote exact filed listed
  have means : ∃ v, Means s line separators spec (raw.getD "") v ∧
      recovered? spec (segmentAmong options separators spec position order raw) = some v := by
    cases many : spec.multiSelect with
    | false => exact means_of_single exact each many
    | true => exact means_of_several exact each many filled
  cases raw with
  | none =>
    have blank : "" ∈ piecesOf separators spec "" := by simp [piecesOf_empty]
    exact absurd rfl (each "" blank).1
  | some text =>
    obtain ⟨v, said, found⟩ := means
    exact ⟨text, v, rfl, said, found⟩

/-- A field that takes one id has that of an option of its collection. -/
theorem Means.option (single : spec.multiSelect = false) {text : String} {v : Value}
    (h : Means s line separators spec text v) :
    ∃ id o, v = .text id ∧ s.option? spec.collection id = some o := by
  cases h with
  | several many =>
    rw [single] at many
    cases many
  | one _ denoted =>
    obtain ⟨o, candidate, rfl, _, _⟩ := denoted
    exact ⟨o.key, o, rfl, candidate.known⟩

/-- A field is recovered if its segment is exact, as what its text says. -/
theorem recovers_of_readSegment (filed : s.Filed) (active : s.Active)
    (offered : offerOf s line = .ok offer) {segment : ParsedSegment}
    (h : readSegment s offer separators spec position order raw = .ok segment) :
    ((recovered? spec segment).isSome = true ↔ segment.status = .exact) ∧
      ∀ v, recovered? spec segment = some v →
        ∃ text, raw = some text ∧ Means s line separators spec text v := by
  by_cases exact : segment.status = .exact
  · rcases readSegment_eq_ok h with rfl | ⟨options, shown, rfl⟩
    · cases exact
    · obtain ⟨text, v, written, means, found⟩ :=
        means_of_exact filed (fun _ => mem_candidates_iff filed active offered shown) exact
      rw [found]
      refine ⟨⟨fun _ => exact, fun _ => rfl⟩, fun v' same => ?_⟩
      obtain rfl := Option.some.inj same
      exact ⟨text, written, means⟩
  · rw [recovered?_of_inexact exact]
    exact ⟨⟨nofun, fun same => absurd same exact⟩, nofun⟩

/-- Every value of the recovered selection comes from a segment. -/
theorem mem_recovered {read : List (FieldSpec × ParsedSegment)} {start : Selection}
    {e : String × Value} (h : e ∈ recovered start read) :
    e ∈ start ∨ ∃ r ∈ read, recovered? r.1 r.2 = some e.2 ∧ r.1.field = e.1 := by
  induction read generalizing start with
  | nil => exact Or.inl h
  | cons r rest ih =>
    obtain ⟨spec, segment⟩ := r
    rw [recovered] at h
    split at h
    · rename_i v here
      rcases ih h with earlier | ⟨r, member, found⟩
      · rcases Keyed.mem_put earlier with first | rfl
        · exact Or.inl first
        · exact Or.inr ⟨(spec, segment), List.mem_cons_self, here, rfl⟩
      · exact Or.inr ⟨r, List.mem_cons_of_mem _ member, found⟩
    · rcases ih h with earlier | ⟨r, member, found⟩
      · exact Or.inl earlier
      · exact Or.inr ⟨r, List.mem_cons_of_mem _ member, found⟩

theorem get?_recovered_of_fresh {read : List (FieldSpec × ParsedSegment)} {start : Selection}
    {field : String} (fresh : field ∉ read.map (fun r => r.1.field)) :
    Keyed.get? (recovered start read) field = Keyed.get? start field := by
  induction read generalizing start with
  | nil => rfl
  | cons r rest ih =>
    obtain ⟨other, later⟩ := not_or.mp (mt List.mem_cons.mpr fresh)
    obtain ⟨spec, segment⟩ := r
    rw [recovered]
    split
    · rw [ih later, Keyed.get?_put_of_ne _ _ other]
    · exact ih later

/-- Where no field has two segments each has what its own segment says. -/
theorem get?_recovered_of_mem {read : List (FieldSpec × ParsedSegment)} {start : Selection}
    (distinct : (read.map (fun r => r.1.field)).Nodup) {r : FieldSpec × ParsedSegment}
    (member : r ∈ read) : Keyed.get? (recovered start read) r.1.field =
      (recovered? r.1 r.2).or (Keyed.get? start r.1.field) := by
  induction read generalizing start with
  | nil => cases member
  | cons first rest ih =>
    obtain ⟨fresh, apart⟩ := List.nodup_cons.mp distinct
    rcases List.mem_cons.mp member with rfl | later
    · obtain ⟨spec, segment⟩ := r
      rw [recovered]
      split
      · rename_i v here
        rw [get?_recovered_of_fresh fresh, Keyed.get?_put_self, here, Option.some_or]
      · rename_i nothing
        rw [get?_recovered_of_fresh fresh, nothing, Option.none_or]
    · have other : r.1.field ≠ first.1.field := by
        intro same
        exact fresh (List.mem_map.mpr ⟨r, later, same⟩)
      obtain ⟨spec, segment⟩ := first
      rw [recovered]
      split
      · rw [ih apart later, Keyed.get?_put_of_ne _ _ other]
      · exact ih apart later

variable {fields ordered : List CodeField}

def place (e : CodeField) : Int :=
  match e.order with
  | .int i => i
  | _ => 0

theorem enabledOrder_sorted (numbered : CodeField.Numbered fields)
    (h : enabledOrder fields = .ok ordered) :
    ordered.Pairwise (fun a b => place a ≤ place b) := by
  obtain ⟨sorted, found, kept⟩ := bind_eq_ok.mp h
  split at kept
  · cases kept
  obtain rfl := Except.ok.inj kept
  have integer : ∀ e ∈ fields.filter (fun f => f.enabled.truthy), e.order = .int (place e) := by
    intro e member
    obtain ⟨i, order⟩ := numbered e (List.mem_filter.mp member).1
    rw [place, order]
  have plain : (fields.filter (fun f => f.enabled.truthy)).all (fun e => e.order.isOrdered) =
      true := by
    rw [List.all_eq_true]
    intro e member
    rw [integer e member]
    rfl
  rw [CodeField.enabledInOrder, CodeField.inOrder, Snapshot.inOrderOf, if_pos plain] at found
  unfold Sorting.sort? at found
  dsimp only at found
  split at found
  · rename_i some
    split at some
    · obtain rfl := Option.some.inj some
      obtain rfl := Except.ok.inj found
      apply Sorting.pairwise_sort (R := fun a b => place a ≤ place b) (fun _ _ _ => le_trans)
      apply List.pairwise_of_forall_mem_list
      intro a first b second
      rw [integer a first, integer b second, Value.less?_int]
      by_cases before : place b < place a
      · simpa [before] using le_of_lt before
      · simpa [before] using le_of_not_gt before
    · cases some
  · cases found

/-- The segment of an entry: its field is recovered if it is exact, as what its text says. -/
structure SoundSegment (s : Snapshot) (line : Value) (separators : Separators)
    (selection : Selection) (position : Nat) (entry : CodeField) (raw : Option String)
    (segment : ParsedSegment) : Prop where
  position : segment.position = position
  collection : segment.collection = entry.collection
  order : segment.order = entry.order
  written : segment.raw = raw
  field : ∃ spec, s.table.byCollection? entry.collection = some spec ∧
    (Keyed.has selection spec.field = true ↔ segment.status = .exact) ∧
    ∀ v, Keyed.get? selection spec.field = some v →
      ∃ text, raw = some text ∧ Means s line separators spec text v

/-- One segment for each entry in order, nothing recovered but for an entry, and the
confidence of the worst segment. -/
structure SoundParse (s : Snapshot) (line : Value) (separators : Separators)
    (ordered : List CodeField) (sku : Value) (parsed : Parsed) : Prop where
  input : parsed.input = inputText sku
  pieces : parsed.rawSegments = (Text.split separators.delimiter parsed.input).map Text.trim
  length : parsed.segments.length = ordered.length
  segments : ∀ i entry, ordered[i]? = some entry → ∃ segment, parsed.segments[i]? = some segment ∧
    SoundSegment s line separators parsed.selection i entry parsed.rawSegments[i]? segment
  fields : ∀ field, Keyed.has parsed.selection field = true → ∃ entry ∈ ordered, ∃ spec,
    s.table.byCollection? entry.collection = some spec ∧ spec.field = field
  exact : parsed.confidence = .exact ↔ ∀ segment ∈ parsed.segments, segment.status = .exact
  invalid : parsed.confidence = .invalid ↔ ∃ segment ∈ parsed.segments, segment.status = .notFound
  ambiguous : parsed.confidence = .ambiguous ↔
    (∀ segment ∈ parsed.segments, segment.status ≠ .notFound) ∧
      ∃ segment ∈ parsed.segments, segment.status = .ambiguous

theorem nodup_fields_of_readSegments {read : List (FieldSpec × ParsedSegment)}
    {raws : List String} (h : readSegments s offer separators position ordered raws = .ok read)
    (distinct : (ordered.map CodeField.collection).Nodup) :
    (read.map (fun r => r.1.field)).Nodup := by
  obtain ⟨collections, rows⟩ := collections_of_readSegments h
  rw [← collections] at distinct
  apply List.pairwise_map.mpr
  apply (List.pairwise_map.mp distinct).imp_of_mem
  intro r r' here there other same
  exact other (congrArg FieldSpec.collection (s.table.eq_of_field_eq (rows r here) (rows r' there) same))

theorem exists_soundSegment {read : List (FieldSpec × ParsedSegment)} {raws : List String}
    (filed : s.Filed) (active : s.Active) (offered : offerOf s line = .ok offer)
    (h : readSegments s offer separators 0 ordered raws = .ok read)
    (distinct : (read.map (fun r => r.1.field)).Nodup) {i : Nat} {entry : CodeField}
    (here : ordered[i]? = some entry) : ∃ segment, (read.map Prod.snd)[i]? = some segment ∧
      SoundSegment s line separators (recovered [] read) i entry raws[i]? segment := by
  obtain ⟨spec, segment, found, row, result⟩ := getElem?_of_readSegments h here
  rw [Nat.zero_add] at result
  have own : Keyed.get? (recovered [] read) spec.field = recovered? spec segment := by
    rw [get?_recovered_of_mem distinct (List.mem_of_getElem? found), Keyed.get?, Option.or_none]
  obtain ⟨exact, means⟩ := recovers_of_readSegment filed active offered result
  have shape : segment.position = i ∧ segment.collection = entry.collection ∧
      segment.order = entry.order ∧ segment.raw = raws[i]? := by
    rw [← (s.table.byCollection?_spec row).2]
    rcases readSegment_eq_ok result with rfl | ⟨options, _, rfl⟩ <;> exact ⟨rfl, rfl, rfl, rfl⟩
  obtain ⟨position, collection, order, written⟩ := shape
  refine ⟨segment, by rw [List.getElem?_map, found, Option.map_some], ?_⟩
  refine ⟨position, collection, order, written, spec, row, ?_, ?_⟩
  · rw [Keyed.has, own]
    exact exact
  · rw [own]
    exact means

theorem entry_of_recovered {read : List (FieldSpec × ParsedSegment)} {raws : List String}
    (h : readSegments s offer separators position ordered raws = .ok read) {field : String}
    (has : Keyed.has (recovered [] read) field = true) : ∃ entry ∈ ordered, ∃ spec,
      s.table.byCollection? entry.collection = some spec ∧ spec.field = field := by
  obtain ⟨v, found⟩ := Option.isSome_iff_exists.mp has
  rcases mem_recovered (Keyed.mem_of_get? found) with none | ⟨r, member, _, own⟩
  · cases none
  obtain ⟨collections, rows⟩ := collections_of_readSegments h
  have listed : r.1.collection ∈ ordered.map CodeField.collection := by
    rw [← collections]
    exact List.mem_map_of_mem member
  obtain ⟨entry, known, same⟩ := List.mem_map.mp listed
  exact ⟨entry, known, r.1, same ▸ s.table.byCollection?_of_mem (rows r member), own⟩

theorem spelled_of_texts
    (texts : ∀ collection, ∀ o ∈ Keyed.values (s.optionsIn collection),
      o.code.truthy = true → o.code.kind = .text) : AllSpelled (fun _ => False) s := by
  intro collection o listed coded
  have text := texts collection o listed coded
  cases code : o.code with
  | text t => exact Or.inl ⟨t, rfl⟩
  | _ =>
    rw [code] at text
    cases text

theorem exists_read (sortable : s.Sortable) (spelled : AllSpelled (fun _ => False) s)
    (covered : s.table.Covers ordered) (separated : separators.multi ≠ "") (raws : List String)
    (line : Value) : ∃ offer read, offerOf s line = .ok offer ∧
      readSegments s offer separators 0 ordered raws = .ok read := by
  obtain ⟨offer, offered⟩ := exists_offer sortable line
  have reads := failsOnly_readSegments (P := fun _ => False) (Or.inr sortable) separated spelled
    covered offer 0 raws
  obtain ⟨read, segments⟩ := reads.returns fun _ => id
  exact ⟨offer, read, offered, segments⟩

/-- Where the codes are texts every text is read. -/
theorem exists_parse (sortable : s.Sortable) (spelled : AllSpelled (fun _ => False) s)
    (positions : enabledOrder fields = .ok ordered) (covered : s.table.Covers ordered)
    (delimited : separators.delimiter ≠ "") (separated : separators.multi ≠ "")
    (sku line : Value) : ∃ parsed, parse sku fields s line separators = .ok parsed := by
  have cut := trimmedPieces_eq delimited (inputText sku)
  obtain ⟨offer, read, offered, segments⟩ := exists_read sortable spelled covered separated
    ((Text.split separators.delimiter (inputText sku)).map Text.trim) line
  rw [parse_eq positions cut offered, segments]
  exact ⟨_, rfl⟩

/-- Where all codes are texts every text is read, and what is recovered is sound. -/
theorem parse_is_sound (delivered : s.Delivered) (sortable : s.Sortable)
    (texts : ∀ collection, ∀ o ∈ Keyed.values (s.optionsIn collection), o.code.kind = .text)
    (numbered : CodeField.Numbered fields)
    (enabled : ∃ e ∈ fields, e.enabled.truthy = true)
    (mapped : s.table.Covers (fields.filter fun e => e.enabled.truthy))
    (distinct : ((fields.filter fun e => e.enabled.truthy).map CodeField.collection).Nodup)
    (delimited : separators.delimiter ≠ "") (separated : separators.multi ≠ "")
    (sku line : Value) :
    ∃ ordered parsed, enabledOrder fields = .ok ordered ∧
      parse sku fields s line separators = .ok parsed ∧
      SoundParse s line separators ordered sku parsed := by
  obtain ⟨ordered, positions⟩ := exists_enabledOrder numbered enabled
  have perm := enabledOrder_perm positions
  have covered : s.table.Covers ordered := fun e member => mapped e (perm.mem_iff.mp member)
  have cut := trimmedPieces_eq delimited (inputText sku)
  have spelled := spelled_of_texts fun collection o listed _ => texts collection o listed
  obtain ⟨offer, read, offered, segments⟩ := exists_read sortable spelled covered separated
    ((Text.split separators.delimiter (inputText sku)).map Text.trim) line
  have apart := nodup_fields_of_readSegments segments
    ((perm.map CodeField.collection).nodup_iff.mpr distinct)
  have parses := parse_eq positions cut offered
  rw [segments] at parses
  exact ⟨ordered, _, positions, parses, {
    input := rfl
    pieces := rfl
    length := by simpa using congrArg List.length (collections_of_readSegments segments).1
    segments := fun _ _ here =>
      exists_soundSegment delivered.filed delivered.active offered segments apart here
    fields := fun _ has => entry_of_recovered segments has
    exact := Confidence.ofStatuses_eq_exact.trans List.forall_mem_map
    invalid := Confidence.ofStatuses_eq_invalid.trans List.mem_map
    ambiguous := Confidence.ofStatuses_eq_ambiguous.trans
      (and_congr (by simp only [List.mem_map, not_exists, not_and, ne_eq]) List.mem_map) }⟩

end MadeToOrder.Sku
