import MadeToOrder.Proofs.Sku.Precedence

/-!
# Codes that are written back

What is recovered from an exact text is written back as the catalog spells it: entry by entry
the same pieces but for letter case, the space around them and pieces that come again. Nothing
is missing and nothing warned of, unless a choice is the empty id, which counts as none.
-/

set_option autoImplicit false

namespace MadeToOrder

namespace IdSet

theorem union_eq (s : IdSet) (ids : List String) :
    union s ids = s ++ (ids.filter (· ∉ s)).eraseDups := by
  induction ids generalizing s with
  | nil => simp [union]
  | cons id rest ih =>
    rw [union, ih, add]
    by_cases known : id ∈ s
    · simp [known]
    · rw [if_neg known, List.filter_cons_of_pos (by simpa using known), List.eraseDups_cons,
        List.filter_filter, List.append_assoc, List.singleton_append]
      congr 4
      funext other
      simp [Bool.and_comm, not_or, Bool.beq_eq_decide_eq]

theorem ofList_eq_eraseDups (ids : List String) : ofList ids = ids.eraseDups := by
  simp [ofList, union_eq]

theorem map_union {f : String → String} {s : IdSet} {ids : List String}
    (apart : ∀ a ∈ s ++ ids, ∀ b ∈ s ++ ids, f a = f b → a = b) :
    (union s ids).map f = union (s.map f) (ids.map f) := by
  induction ids generalizing s with
  | nil => rfl
  | cons id rest ih =>
    have added : (add s id).map f = add (s.map f) (f id) := by
      have known : f id ∈ s.map f ↔ id ∈ s := by
        refine ⟨fun seen => ?_, List.mem_map_of_mem⟩
        obtain ⟨other, member, same⟩ := List.mem_map.mp seen
        exact apart other (by simp [member]) id (by simp) same ▸ member
      unfold add
      by_cases member : id ∈ s
      · rw [if_pos member, if_pos (known.mpr member)]
      · rw [if_neg member, if_neg (mt known.mp member), List.map_append, List.map_singleton]
    have fewer : ∀ a ∈ add s id ++ rest, a ∈ s ++ id :: rest := by
      intro a member
      rcases List.mem_append.mp member with early | late
      · rcases (mem_add s id a).mp early with old | rfl
        · exact List.mem_append_left _ old
        · simp
      · simp [late]
    rw [union, List.map_cons, union, ← added]
    exact ih fun a first b second => apart a (fewer a first) b (fewer b second)

/-- Names that can be told apart repeat where what they name does. -/
theorem map_ofList {f : String → String} {ids : List String}
    (apart : ∀ a ∈ ids, ∀ b ∈ ids, f a = f b → a = b) :
    (ofList ids).map f = ofList (ids.map f) := map_union apart

end IdSet

namespace Sku

variable {s : Snapshot} {line : Value} {offer : Option (Keyed (List String))}
  {separators : Separators} {spec : FieldSpec} {position : Nat} {order : Value}
  {raw : Option String} {options : List CatalogOption} {pieces : List String}
  {collection : String}

/-- The options that exact pieces stand for, piece by piece; no other option has such a code. -/
structure Meant (options : List CatalogOption) (pieces : List String)
    (meant : List CatalogOption) : Prop where
  keys : pieces.flatMap (fun piece => (graded (lowerCodes options) piece).2) =
    meant.map CatalogOption.key
  codes : meant.map (fun o => Text.lower (codeText o)) = pieces.map Text.lower
  known : ∀ o ∈ meant, o ∈ options
  coded : ∀ o ∈ meant, codeText o ≠ ""
  sole : ∀ o ∈ meant, ∀ other ∈ options,
    Text.lower (codeText other) = Text.lower (codeText o) → other.key = o.key

theorem exists_meant (exact : ∀ piece ∈ pieces, (graded (lowerCodes options) piece).1 = .exact) :
    ∃ meant, Meant options pieces meant := by
  induction pieces with
  | nil => exact ⟨[], rfl, rfl, nofun, nofun, nofun⟩
  | cons piece rest ih =>
    obtain ⟨first, others⟩ := List.forall_mem_cons.mp exact
    obtain ⟨meant, rest⟩ := ih others
    obtain ⟨filled, o, here, grade, same, only⟩ := exists_option_of_graded first
    have coded : codeText o ≠ "" := by
      intro empty
      rw [empty] at same
      exact filled (Text.lower_eq_empty.mp same.symm)
    exact ⟨o :: meant, {
      keys := by simp [grade, rest.keys]
      codes := by simp [same, rest.codes]
      known := List.forall_mem_cons.mpr ⟨here, rest.known⟩
      coded := List.forall_mem_cons.mpr ⟨coded, rest.coded⟩
      sole := List.forall_mem_cons.mpr
        ⟨fun other there alike => only other there (alike.trans same), rest.sole⟩ }⟩

section

variable {meant : List CatalogOption} (filed : s.Filed)
  (shown : candidates s offer collection = .ok options) (h : Meant options pieces meant)
include filed shown h

theorem Meant.codeOf_key {o : CatalogOption} (member : o ∈ meant) :
    codeOf s collection o.key = codeText o := by
  obtain ⟨found, _⟩ := (mem_candidates filed shown).mp (h.known o member)
  simp [codeOf, found]

theorem Meant.codeOf_ne_empty :
    ∀ id ∈ IdSet.ofList (meant.map CatalogOption.key), codeOf s collection id ≠ "" := by
  intro id member
  obtain ⟨o, here, rfl⟩ := List.mem_map.mp ((IdSet.mem_ofList _ _).mp member)
  rw [h.codeOf_key filed shown here]
  exact h.coded o here

/-- Two pieces stand for one option only where they agree, so each piece comes once. -/
theorem Meant.respelled :
    ((IdSet.ofList (meant.map CatalogOption.key)).map (codeOf s collection)).map Text.lower =
      (pieces.map Text.lower).eraseDups := by
  have apart : ∀ a ∈ meant.map CatalogOption.key, ∀ b ∈ meant.map CatalogOption.key,
      (Text.lower ∘ codeOf s collection) a = (Text.lower ∘ codeOf s collection) b → a = b := by
    intro a first b second same
    obtain ⟨o, here, rfl⟩ := List.mem_map.mp first
    obtain ⟨other, there, rfl⟩ := List.mem_map.mp second
    simp only [Function.comp_apply, h.codeOf_key filed shown here,
      h.codeOf_key filed shown there] at same
    exact h.sole other there o (h.known o here) same
  have written : (meant.map CatalogOption.key).map (Text.lower ∘ codeOf s collection) =
      pieces.map Text.lower := by
    rw [List.map_map, ← h.codes]
    exact List.map_congr_left fun o member => by simp [h.codeOf_key filed shown member]
  rw [List.map_map, IdSet.map_ofList apart, written, IdSet.ofList_eq_eraseDups]

end

/-- What an exact segment recovers has the codes of its pieces, each once. -/
theorem codes_of_exact (filed : s.Filed)
    (shown : candidates s offer spec.collection = .ok options)
    (exact : (segmentAmong options separators spec position order raw).status = .exact) :
    ∃ text ids v, raw = some text ∧
      recovered? spec (segmentAmong options separators spec position order raw) = some v ∧
      v.elements = ids.map .text ∧ ids ≠ [] ∧ (v ≠ .text "" → v.isUnset = false) ∧
      (∀ id ∈ ids, codeOf s spec.collection id ≠ "") ∧
      (ids.map (codeOf s spec.collection)).map Text.lower =
        ((piecesOf separators spec text).map Text.lower).eraseDups := by
  obtain ⟨filled, grades⟩ := MatchStatus.worst_eq_exact.mp exact
  have each : ∀ piece ∈ piecesOf separators spec (raw.getD ""),
      (graded (lowerCodes options) piece).1 = .exact := fun piece member =>
    grades _ (List.mem_map_of_mem (List.mem_map_of_mem member))
  obtain ⟨text, rfl⟩ : ∃ text, raw = some text := by
    cases raw with
    | some text => exact ⟨text, rfl⟩
    | none => cases each "" (by simp [piecesOf_empty])
  rw [Option.getD_some] at each filled
  obtain ⟨meant, h⟩ := exists_meant each
  have matched : (segmentAmong options separators spec position order (some text)).matched =
      IdSet.ofList (meant.map CatalogOption.key) := by
    rw [← h.keys, segmentAmong, List.flatMap_map, Option.getD_some]
  have some : IdSet.ofList (meant.map CatalogOption.key) ≠ [] := by
    have written : meant ≠ [] := by
      rintro rfl
      exact filled (by simpa using h.codes.symm)
    obtain ⟨o, here⟩ := List.exists_mem_of_ne_nil _ written
    exact List.ne_nil_of_mem ((IdSet.mem_ofList _ _).mpr (List.mem_map_of_mem here))
  refine ⟨text, IdSet.ofList (meant.map CatalogOption.key), ?_⟩
  cases many : spec.multiSelect with
  | true =>
    exact ⟨_, rfl, matched ▸ recovered?_of_many exact many (matched ▸ some), rfl, some,
      fun _ => by simpa [Value.isUnset] using some, h.codeOf_ne_empty filed shown,
      h.respelled filed shown⟩
  | false =>
    have one := h.codes
    rw [piecesOf, many, if_neg Bool.false_ne_true, List.map_singleton,
      List.map_eq_singleton_iff] at one
    obtain ⟨o, only, _⟩ := one
    have single : IdSet.ofList (meant.map CatalogOption.key) = [o.key] := by
      simp [only, IdSet.ofList, IdSet.union, IdSet.add]
    refine ⟨.text o.key, rfl, ?_, by rw [single]; rfl, some, fun named => ?_,
      h.codeOf_ne_empty filed shown, h.respelled filed shown⟩
    · simp [recovered?, exact, matched, single, many]
    · simpa [Value.isUnset] using named

theorem selectedCodes_of_elements {v : Value} {ids : List String} (set : v.isUnset = false)
    (elements : v.elements = ids.map .text) (coded : ∀ id ∈ ids, codeOf s collection id ≠ "") :
    selectedCodes s collection v = ids.map (codeOf s collection) := by
  rw [selectedCodes, set, if_neg Bool.false_ne_true, elements]
  clear elements
  induction ids with
  | nil => rfl
  | cons id rest ih =>
    obtain ⟨first, others⟩ := List.forall_mem_cons.mp coded
    have found : (s.option? collection id).map codeText = some (codeOf s collection id) := by
      obtain ⟨o, found, _⟩ := option_of_codeOf first
      simp [codeOf, found]
    rw [List.map_cons, List.filterMap_cons_some (by rw [Value.plain_text, found]),
      List.filter_cons_of_pos (by simpa using first), ih others, List.map_cons]

def choiceCode (s : Snapshot) (selection : Selection) (multi : String) (spec : FieldSpec) :
    String :=
  Text.join multi (selectedCodes s spec.collection (selection.at? spec.field))

def choiceSegment (s : Snapshot) (selection : Selection) (multi : String) (entry : CodeField) :
    Segment :=
  ⟨entry.collection, entry.order,
    ((s.table.byCollection? entry.collection).map (choiceCode s selection multi)).getD "", .option⟩

/-- Where every field has a choice and the rules are silent, each entry has its segment. -/
theorem Laid.of_chosen {selection : Selection} {multi : String} {ordered : List CodeField}
    {segments : List Segment}
    (laid : Laid s selection Rule.Overrides.empty multi ordered segments)
    (chosen : ∀ entry ∈ ordered, ∀ spec, s.table.byCollection? entry.collection = some spec →
      selectedCodes s spec.collection (selection.at? spec.field) ≠ []) :
    segments = ordered.map (choiceSegment s selection multi) := by
  induction laid with
  | nil => rfl
  | segment row coded _ ih =>
    obtain ⟨here, others⟩ := List.forall_mem_cons.mp chosen
    rw [List.map_cons, ← ih others, choiceSegment, row, Option.map_some, Option.getD_some]
    cases coded with
    | line _ given _ => cases given
    | segment _ given => cases given
    | default _ bare _ => exact absurd bare (here _ row)
    | option _ codes _ => rw [choiceCode, codes]
  | omitted row sourceless _ _ =>
    exact absurd sourceless.bare ((List.forall_mem_cons.mp chosen).1 _ row)

/-- The code spells a text as the catalog does: the text itself, or the pieces of the text where
the field takes several, each once. -/
structure Respells (s : Snapshot) (separators : Separators) (spec : FieldSpec)
    (text code : String) : Prop where
  codes : ∃ codes, code = Text.join separators.multi codes ∧
    (∀ c ∈ codes, ∃ id o, s.option? spec.collection id = some o ∧ o.code = .text c) ∧
    codes.map Text.lower = ((piecesOf separators spec text).map Text.lower).eraseDups
  whole : spec.multiSelect = false → Text.lower code = Text.lower text

theorem respells_of_codes {text : String} {ids : List String}
    (coded : ∀ id ∈ ids, codeOf s spec.collection id ≠ "")
    (spelled : (ids.map (codeOf s spec.collection)).map Text.lower =
      ((piecesOf separators spec text).map Text.lower).eraseDups) :
    Respells s separators spec text
      (Text.join separators.multi (ids.map (codeOf s spec.collection))) where
  codes := by
    refine ⟨_, rfl, fun c member => ?_, spelled⟩
    obtain ⟨id, here, rfl⟩ := List.mem_map.mp member
    exact ⟨id, option_of_codeOf (coded id here)⟩
  whole := by
    intro single
    rw [piecesOf, single, if_neg Bool.false_ne_true] at spelled
    obtain ⟨code, only, same⟩ := List.map_eq_singleton_iff.mp spelled
    rw [only]
    exact same

variable {fields ordered : List CodeField}

/-- The choice that is recovered from an exact segment spells its text. -/
theorem respells_of_read {raws : List String} {read : List (FieldSpec × ParsedSegment)}
    (filed : s.Filed) (h : readSegments s offer separators 0 ordered raws = .ok read)
    (distinct : (read.map (fun r => r.1.field)).Nodup)
    (exact : ∀ r ∈ read, r.2.status = .exact)
    (named : ∀ e ∈ recovered [] read, e.2 ≠ .text "") {i : Nat} {entry : CodeField}
    (here : ordered[i]? = some entry) :
    ∃ spec text, s.table.byCollection? entry.collection = some spec ∧ raws[i]? = some text ∧
      selectedCodes s spec.collection ((recovered [] read).at? spec.field) ≠ [] ∧
      Respells s separators spec text
        (choiceCode s (recovered [] read) separators.multi spec) := by
  obtain ⟨spec, segment, found, row, result⟩ := getElem?_of_readSegments h here
  rw [Nat.zero_add] at result
  have member := List.mem_of_getElem? found
  have sure : segment.status = .exact := exact _ member
  have own : Keyed.get? (recovered [] read) spec.field = recovered? spec segment := by
    rw [get?_recovered_of_mem distinct member, Keyed.get?, Option.or_none]
  rcases readSegment_eq_ok result with rfl | ⟨options, shown, rfl⟩
  · cases sure
  obtain ⟨text, ids, v, written, choice, elements, filled, set, coded, spelled⟩ :=
    codes_of_exact filed shown sure
  rw [choice] at own
  have chosen : selectedCodes s spec.collection ((recovered [] read).at? spec.field) =
      ids.map (codeOf s spec.collection) := by
    rw [Selection.at?, own, Option.getD_some]
    exact selectedCodes_of_elements (set (named _ (Keyed.mem_of_get? own))) elements coded
  refine ⟨spec, text, row, written, ?_, ?_⟩
  · rw [chosen]
    exact mt List.map_eq_nil_iff.mp filled
  · rw [choiceCode, chosen]
    exact respells_of_codes coded spelled

/-- What an exact parse recovers is built back without a warning: every entry has the code of
its options, which is its text but for letter case and pieces that come again. -/
theorem build_of_exact_parse (filed : s.Filed)
    (texts : ∀ collection, ∀ o ∈ Keyed.values (s.optionsIn collection),
      o.code.truthy = true → o.code.kind = .text)
    (distinct : ((fields.filter fun e => e.enabled.truthy).map CodeField.collection).Nodup)
    {sku : Value} {parsed : Parsed} (parses : parse sku fields s line separators = .ok parsed)
    (exact : parsed.confidence = .exact) (named : ∀ e ∈ parsed.selection, e.2 ≠ .text "") :
    ∃ ordered built, enabledOrder fields = .ok ordered ∧
      build parsed.selection Rule.Overrides.empty fields s separators = .ok built ∧
      built.sku = Text.join separators.delimiter (built.segments.map Segment.code) ∧
      built.isOverride = false ∧ built.warnings = [] ∧
      parsed.rawSegments = (Text.split separators.delimiter (inputText sku)).map Text.trim ∧
      built.segments.length = ordered.length ∧
      ∀ (i : Nat) (entry : CodeField), ordered[i]? = some entry → ∃ spec text code,
        s.table.byCollection? entry.collection = some spec ∧
        parsed.rawSegments[i]? = some text ∧
        built.segments[i]? = some ⟨entry.collection, entry.order, code, .option⟩ ∧
        Respells s separators spec text code := by
  obtain ⟨ordered, offer, read, positions, _, reads, raws, segments, selection, confidence⟩ :=
    parse_eq_ok parses
  have apart := nodup_fields_of_readSegments reads
    (((enabledOrder_perm positions).map CodeField.collection).nodup_iff.mpr distinct)
  have sure : ∀ r ∈ read, r.2.status = .exact := by
    rw [exact, segments] at confidence
    intro r member
    exact Confidence.ofStatuses_eq_exact.mp confidence.symm _
      (List.mem_map_of_mem (List.mem_map_of_mem member))
  rw [selection] at named ⊢
  have respelled := fun (i : Nat) (entry : CodeField) (here : ordered[i]? = some entry) =>
    respells_of_read filed reads apart sure named here
  have covered : s.table.Covers ordered := by
    intro entry member
    obtain ⟨i, here⟩ := List.mem_iff_getElem?.mp member
    obtain ⟨_, _, row, _⟩ := respelled i entry here
    rw [FieldTable.hasCollection, row, Option.isSome_some]
  obtain ⟨segments, warnings, laidOut, laid, warned⟩ := exists_buildSegments texts covered
    (recovered [] read) Rule.Overrides.empty separators.multi
  obtain rfl : segments = ordered.map (choiceSegment s (recovered [] read) separators.multi) := by
    apply laid.of_chosen
    intro entry member spec row
    obtain ⟨i, here⟩ := List.mem_iff_getElem?.mp member
    obtain ⟨_, _, row', _, some, _⟩ := respelled i entry here
    obtain rfl := Option.some.inj (row.symm.trans row')
    exact some
  have quiet : warnings = [] := by
    simpa [List.filter_map, Function.comp_def, choiceSegment] using warned
  refine ⟨ordered, _, positions, build_eq positions laidOut, rfl, rfl, quiet, raws, by simp, ?_⟩
  intro i entry here
  obtain ⟨spec, text, row, written, _, respells⟩ := respelled i entry here
  refine ⟨spec, text, _, row, written, ?_, respells⟩
  rw [List.getElem?_map, here, Option.map_some, choiceSegment, row, Option.map_some,
    Option.getD_some]

def sizeThenExtras : List CodeField := [⟨"extras", .int 2, .bool true⟩, ⟨"sizes", .int 1, .bool true⟩]

theorem enabledOrder_sizeThenExtras : enabledOrder sizeThenExtras =
    .ok [⟨"sizes", .int 1, .bool true⟩, ⟨"extras", .int 2, .bool true⟩] := by
  simp [enabledOrder, CodeField.enabledInOrder, CodeField.inOrder, Snapshot.inOrderOf,
    sizeThenExtras, Value.truthy, Value.isOrdered, Value.isNaN, Sorting.sort?, Sorting.comparable,
    Sorting.sort, Sorting.insert, Value.less?_int, bind, Except.bind, pure, Except.pure]

theorem texts_carOptions : ∀ collection, ∀ o ∈ Keyed.values (carOptions.optionsIn collection),
    o.code.truthy = true → o.code.kind = .text := by
  intro collection o listed _
  exact kind_of_options (by decide) o listed

/-- Small letters, blanks, a piece that comes again and a surplus piece are straightened. -/
theorem build_loose_text :
    carOptions.Filed ∧
    (∀ collection, ∀ o ∈ Keyed.values (carOptions.optionsIn collection),
      o.code.truthy = true → o.code.kind = .text) ∧
    ((sizeThenExtras.filter fun e => e.enabled.truthy).map CodeField.collection).Nodup ∧
    ∃ parsed, parse (.text " sl-wf+GP + Wf-x") sizeThenExtras carOptions .null
        Separators.standard = .ok parsed ∧
      parsed.confidence = .exact ∧ (∀ e ∈ parsed.selection, e.2 ≠ .text "") ∧
      ∃ built, build parsed.selection Rule.Overrides.empty sizeThenExtras carOptions
          Separators.standard = .ok built ∧
        built.warnings = [] ∧ built.segments.length = 2 ∧ built.sku = "SL-WF+GP" := by
  have filed : carOptions.Filed := by decide
  have distinct : ((sizeThenExtras.filter fun e => e.enabled.truthy).map
      CodeField.collection).Nodup := by decide
  have parses : ∃ parsed, parse (.text " sl-wf+GP + Wf-x") sizeThenExtras carOptions .null
        Separators.standard = .ok parsed ∧ parsed.confidence = .exact ∧
      parsed.selection = [("size", .text "large"), ("extra", .list [.text "wifi", .text "gps"])] := by
    rw [parse_eq enabledOrder_sizeThenExtras
      (rfl : trimmedPieces "-" " sl-wf+GP + Wf-x" = .ok ["sl", "wf+GP + Wf", "x"])
      (rfl : offerOf carOptions .null = .ok none)]
    exact ⟨_, rfl, rfl, rfl⟩
  obtain ⟨parsed, parses, exact, selection⟩ := parses
  have named : ∀ e ∈ parsed.selection, e.2 ≠ .text "" := by simp [selection]
  obtain ⟨ordered, built, positions, ok, _, _, quiet, _, length, _⟩ :=
    build_of_exact_parse filed texts_carOptions distinct parses exact named
  obtain rfl := Except.ok.inj (positions.symm.trans enabledOrder_sizeThenExtras)
  obtain ⟨known, ran, sku⟩ : ∃ known, build parsed.selection Rule.Overrides.empty sizeThenExtras
      carOptions Separators.standard = .ok known ∧ known.sku = "SL-WF+GP" := by
    rw [build, enabledOrder_sizeThenExtras, selection]
    exact ⟨_, rfl, rfl⟩
  obtain rfl := Except.ok.inj (ok.symm.trans ran)
  exact ⟨filed, texts_carOptions, distinct, parsed, parses, exact, named, built, ok, quiet, length,
    sku⟩

/-- A size whose id is the empty text is read, but what is recovered counts as no choice. -/
theorem build_after_unnamed : unnamedSize.Filed ∧
    (∀ collection, ∀ o ∈ Keyed.values (unnamedSize.optionsIn collection), o.code.kind = .text) ∧
    unnamedSize.table.Covers sizeField ∧ (sizeField.map CodeField.collection).Nodup ∧
    ∃ parsed built,
      parse (.text "S") sizeField unnamedSize .null Separators.standard = .ok parsed ∧
      parsed.confidence = .exact ∧ parsed.selection = [("size", .text "")] ∧
      build parsed.selection Rule.Overrides.empty sizeField unnamedSize Separators.standard =
        .ok built ∧
      built.segments.map Segment.origin = [.default] ∧ built.segments.map Segment.code = [""] ∧
      built.warnings = [missingWarning sizes] := by
  refine ⟨by decide, ?_, ?_, by decide, _, _, rfl, rfl, rfl, rfl, rfl, rfl, rfl⟩
  · exact fun _ => kind_of_options (by decide)
  · unfold FieldTable.Covers
    decide

end Sku

end MadeToOrder
