import MadeToOrder.Proofs.Configuration.Adjusting
import MadeToOrder.Proofs.Sku.Recovery
import MadeToOrder.Sku.Suggestion

/-!
# Suggested codes and parsed codes

A text that stands for no exact code is looked up three times: as a whole code, as the
beginning of one, and anywhere in one, and the first look that finds something decides. The
suggestions for the text are what the second look finds. So they hold every code that the text
could be or begin, they are the whole match where no code equals the text, and they are empty
where the text only occurs inside of codes or in none.
-/

set_option autoImplicit false

namespace MadeToOrder

theorem IdSet.union_of_nodup {keys ids : List String} (distinct : (keys ++ ids).Nodup) :
    IdSet.union keys ids = keys ++ ids := by
  induction ids generalizing keys with
  | nil => simp [IdSet.union]
  | cons id rest ih =>
    have fresh : id ∉ keys := by
      intro seen
      exact (List.nodup_append.mp distinct).2.2 id seen id List.mem_cons_self rfl
    rw [IdSet.union, IdSet.add, if_neg fresh, ih (by simpa using distinct), List.append_assoc,
      List.singleton_append]

theorem IdSet.ofList_of_nodup {ids : List String} (distinct : ids.Nodup) :
    IdSet.ofList ids = ids := IdSet.union_of_nodup distinct

namespace Sku

/-- How a code is looked up: as a whole, by its beginning, or by what is inside of it. -/
inductive Look where
  | same
  | beginning
  | inside
  deriving DecidableEq, Repr

namespace Look

def finds : Look → String → String → Bool
  | .same, needle, code => code == needle
  | .beginning, needle, code => Text.startsWith code needle
  | .inside, needle, code => Text.contains code needle

def earlier : Look → List Look
  | .same => []
  | .beginning => [.same]
  | .inside => [.same, .beginning]

def grade (look : Look) (found : List String) : MatchStatus :=
  if found.length = 1 then (if look = .same then .exact else .inexact) else .ambiguous

theorem eq_or_earlier (look other : Look) :
    look = other ∨ look ∈ other.earlier ∨ other ∈ look.earlier := by
  cases look <;> cases other <;> decide

end Look

section

variable {needle : String} {coded : List (String × String)}

theorem graded?_eq_none {single : MatchStatus} {keys : List String} :
    graded? single keys = none ↔ keys = [] := by
  match keys with
  | [] => simp [graded?]
  | [key] => simp [graded?]
  | first :: second :: rest => simp [graded?]

theorem graded?_of_ne_nil (look : Look) {keys : List String} (some : keys ≠ []) :
    graded? (if look = .same then .exact else .inexact) keys = .some (look.grade keys, keys) := by
  match keys with
  | [] => exact absurd rfl some
  | [key] => rfl
  | first :: second :: rest => simp [graded?, Look.grade]

/-- The first look that finds something decides. -/
theorem matchCode_of_look {look : Look} (found : hits coded (look.finds needle) ≠ [])
    (first : ∀ before ∈ look.earlier, hits coded (before.finds needle) = []) :
    matchCode needle coded =
      (look.grade (hits coded (look.finds needle)), hits coded (look.finds needle)) := by
  have nothing (before : Look) (single : MatchStatus) (member : before ∈ look.earlier) :
      graded? single (hits coded (before.finds needle)) = none :=
    graded?_eq_none.mpr (first before member)
  have decides := graded?_of_ne_nil look found
  cases look with
  | same =>
    show (Option.or (graded? .exact (hits coded (Look.finds .same needle))) _).getD _ = _
    rw [if_pos rfl] at decides
    rw [decides]
    rfl
  | beginning =>
    show (Option.or (graded? .exact (hits coded (Look.finds .same needle)))
      (Option.or (graded? .inexact (hits coded (Look.finds .beginning needle))) _)).getD _ = _
    rw [if_neg (by decide)] at decides
    rw [nothing .same _ (by decide), decides]
    rfl
  | inside =>
    show (Option.or (graded? .exact (hits coded (Look.finds .same needle)))
      (Option.or (graded? .inexact (hits coded (Look.finds .beginning needle)))
        (graded? .inexact (hits coded (Look.finds .inside needle))))).getD _ = _
    rw [if_neg (by decide)] at decides
    rw [nothing .same _ (by decide), nothing .beginning _ (by decide), decides]
    rfl

theorem matchCode_of_nothing (nothing : ∀ look : Look, hits coded (look.finds needle) = []) :
    matchCode needle coded = (.notFound, []) := by
  show (Option.or (graded? .exact (hits coded (Look.finds .same needle)))
    (Option.or (graded? .inexact (hits coded (Look.finds .beginning needle)))
      (graded? .inexact (hits coded (Look.finds .inside needle))))).getD _ = _
  rw [nothing, nothing, nothing]
  rfl

/-- Some look is the first to find something, or none finds anything. -/
theorem exists_first_look (needle : String) (coded : List (String × String)) :
    (∀ look : Look, hits coded (look.finds needle) = []) ∨
      ∃ look : Look, hits coded (look.finds needle) ≠ [] ∧
        ∀ before ∈ look.earlier, hits coded (before.finds needle) = [] := by
  by_cases same : hits coded (Look.same.finds needle) = []
  · by_cases beginning : hits coded (Look.beginning.finds needle) = []
    · by_cases inside : hits coded (Look.inside.finds needle) = []
      · exact Or.inl fun look => by cases look <;> assumption
      · exact Or.inr ⟨.inside, inside, by simp [Look.earlier, same, beginning]⟩
    · exact Or.inr ⟨.beginning, beginning, by simp [Look.earlier, same]⟩
  · exact Or.inr ⟨.same, same, by simp [Look.earlier]⟩

end

variable {s : Snapshot} {line : Value} {offer : Option (Keyed (List String))}
  {options : List CatalogOption} {collection text : String} {segment : ParsedSegment}
  {look other : Look} {ids : List String}

/-- The look for the text finds the code of the candidate, letter case aside. -/
def Look.Finds (s : Snapshot) (line : Value) (collection text : String) (look : Look)
    (o : CatalogOption) : Prop :=
  IsCandidate s line collection o ∧
    look.finds (Text.lower text) (Text.lower (codeText o)) = true

/-- A text is not found in an option without a code. -/
theorem Look.Finds.coded (filled : text ≠ "") {o : CatalogOption}
    (h : look.Finds s line collection text o) : codeText o ≠ "" := by
  intro empty
  have sought : (Text.lower text).toList ≠ [] := by simpa [Text.lower_eq_empty] using filled
  have found := h.2
  rw [empty] at found
  cases chars : (Text.lower text).toList with
  | nil => exact sought chars
  | cons c rest =>
    have none : Text.lower "" = "" := rfl
    cases look with
    | same => simp [Look.finds, none, ← String.toList_inj, chars] at found
    | beginning => simp [Look.finds, Text.startsWith, none, chars] at found
    | inside => simp [Look.finds, Text.contains, Text.occurs, none, chars] at found

theorem Look.Finds.beginning {o : CatalogOption} (h : look.Finds s line collection text o)
    (outer : look ≠ .inside) : Look.beginning.Finds s line collection text o := by
  refine ⟨h.1, ?_⟩
  cases look with
  | same =>
    have equal : Text.lower (codeText o) = Text.lower text := by simpa [Look.finds] using h.2
    simp [Look.finds, Text.startsWith, equal]
  | beginning => exact h.2
  | inside => exact absurd rfl outer

theorem candidates_sublist (shown : candidates s offer collection = .ok options) :
    ∃ all, s.optionsFor collection = .ok all ∧ options.Sublist all := by
  obtain ⟨all, displayed, shown⟩ := bind_eq_ok.mp shown
  refine ⟨all, displayed, ?_⟩
  split at shown
  · obtain rfl := Except.ok.inj shown
    exact List.filter_sublist
  · obtain rfl := Except.ok.inj shown
    exact List.Sublist.refl all

theorem hits_nodup_of_candidates (filed : s.Filed)
    (shown : candidates s offer collection = .ok options) (test : String → Bool) :
    (hits (lowerCodes options) test).Nodup := by
  obtain ⟨all, displayed, fewer⟩ := candidates_sublist shown
  exact (keys_nodup filed displayed).sublist
    ((hits_sublist options test).trans (fewer.map CatalogOption.key))

theorem mem_hits_iff_finds (filled : text ≠ "")
    (listed : ∀ o, o ∈ options ↔ IsCandidate s line collection o) (look : Look) {id : String} :
    id ∈ hits (lowerCodes options) (look.finds (Text.lower text)) ↔
      ∃ o, look.Finds s line collection text o ∧ o.key = id := by
  rw [mem_hits_lowerCodes]
  constructor
  · rintro ⟨o, member, _, found, own⟩
    exact ⟨o, ⟨(listed o).mp member, found⟩, own⟩
  · rintro ⟨o, finds, own⟩
    exact ⟨o, (listed o).mpr finds.1, truthy_of_codeText (finds.coded filled), finds.2, own⟩

theorem hits_eq_nil_iff (filled : text ≠ "")
    (listed : ∀ o, o ∈ options ↔ IsCandidate s line collection o) (look : Look) :
    hits (lowerCodes options) (look.finds (Text.lower text)) = [] ↔
      ∀ o, ¬look.Finds s line collection text o := by
  rw [List.eq_nil_iff_forall_not_mem]
  simp only [mem_hits_iff_finds filled listed, not_exists, not_and]
  exact ⟨fun none o finds => none o.key o finds rfl, fun none _ o finds => absurd finds (none o)⟩

/-- The segment has what the look finds for its text, and no earlier look finds anything. -/
structure MatchedBy (s : Snapshot) (line : Value) (collection text : String)
    (segment : ParsedSegment) (look : Look) : Prop where
  status : segment.status = look.grade segment.matched
  some : segment.matched ≠ []
  found : ∀ id, id ∈ segment.matched ↔ ∃ o, look.Finds s line collection text o ∧ o.key = id
  first : ∀ before ∈ look.earlier, ∀ o, ¬before.Finds s line collection text o

structure Unmatched (s : Snapshot) (line : Value) (collection text : String)
    (segment : ParsedSegment) : Prop where
  status : segment.status = .notFound
  none : segment.matched = []
  nothing : ∀ look : Look, ∀ o, ¬look.Finds s line collection text o

theorem MatchedBy.exists_finds (h : MatchedBy s line collection text segment look) :
    ∃ o, look.Finds s line collection text o := by
  obtain ⟨id, member⟩ := List.exists_mem_of_ne_nil _ h.some
  obtain ⟨o, finds, _⟩ := (h.found id).mp member
  exact ⟨o, finds⟩

theorem MatchedBy.eq (h : MatchedBy s line collection text segment look)
    (h' : MatchedBy s line collection text segment other) : look = other := by
  rcases look.eq_or_earlier other with same | before | before
  · exact same
  · obtain ⟨o, finds⟩ := h.exists_finds
    exact absurd finds (h'.first look before o)
  · obtain ⟨o, finds⟩ := h'.exists_finds
    exact absurd finds (h.first other before o)

theorem Look.grade_ne_notFound (look : Look) (found : List String) :
    look.grade found ≠ .notFound := by
  unfold Look.grade
  split
  · split <;> decide
  · decide

theorem Look.eq_same_of_grade {found : List String} (exact : look.grade found = .exact) :
    look = .same ∧ ∃ id, found = [id] := by
  unfold Look.grade at exact
  split at exact
  · rename_i single
    split at exact
    · rename_i same
      exact ⟨same, List.length_eq_one_iff.mp single⟩
    · cases exact
  · cases exact

/-- The suggestions for a text against the segment that the text gives. -/
structure Agrees (s : Snapshot) (line : Value) (collection text : String)
    (segment : ParsedSegment) (ids : List String) : Prop where
  graded : Unmatched s line collection text segment ∨
    ∃ look, MatchedBy s line collection text segment look
  exact : segment.status = .exact → ∃ id ∈ ids, segment.matched = [id]
  suggested : ∀ look, MatchedBy s line collection text segment look → look ≠ .inside →
    segment.matched ⊆ ids
  whole : MatchedBy s line collection text segment .beginning → segment.matched = ids
  nothing : segment.status = .notFound ∨ MatchedBy s line collection text segment .inside →
    ids = []
  known : ids ≠ [] → segment.status ≠ .notFound

/-- Suggestions that are what the second look finds agree with a segment that the first
successful look decides. -/
theorem agrees_of_looks
    (suggests : ∀ id, id ∈ ids ↔
      ∃ o, Look.beginning.Finds s line collection text o ∧ o.key = id)
    (decided : Unmatched s line collection text segment ∨
      ∃ look, MatchedBy s line collection text segment look ∧
        (look = .beginning → segment.matched = ids)) :
    Agrees s line collection text segment ids := by
  have suggested : ∀ look, MatchedBy s line collection text segment look → look ≠ .inside →
      segment.matched ⊆ ids := by
    intro look matched outer id member
    obtain ⟨o, finds, own⟩ := (matched.found id).mp member
    exact (suggests id).mpr ⟨o, finds.beginning outer, own⟩
  have empty (none : ∀ o, ¬Look.beginning.Finds s line collection text o) : ids = [] := by
    apply List.eq_nil_iff_forall_not_mem.mpr
    intro id member
    obtain ⟨o, finds, _⟩ := (suggests id).mp member
    exact none o finds
  have lost (missed : segment.status = .notFound) : ids = [] := by
    rcases decided with unmatched | ⟨look, matched, _⟩
    · exact empty (unmatched.nothing .beginning)
    · exact absurd (matched.status.symm.trans missed) (look.grade_ne_notFound _)
  exact {
    graded := decided.imp_right fun ⟨look, matched, _⟩ => ⟨look, matched⟩
    exact := by
      intro exact
      rcases decided with unmatched | ⟨look, matched, _⟩
      · rw [unmatched.status] at exact
        cases exact
      · obtain ⟨rfl, id, single⟩ := Look.eq_same_of_grade (matched.status.symm.trans exact)
        exact ⟨id, suggested .same matched (by decide) (by simp [single]), single⟩
    suggested := suggested
    whole := by
      intro begun
      rcases decided with unmatched | ⟨look, matched, same⟩
      · exact absurd unmatched.none begun.some
      · exact same (matched.eq begun)
    nothing := by
      rintro (missed | within)
      · exact lost missed
      · exact empty (within.first .beginning (by decide))
    known := fun some missed => some (lost missed) }

variable {separators : Separators} {spec : FieldSpec} {fields ordered : List CodeField}
  {position : Nat} {entry : CodeField} {order : Value}

theorem segmentAmong_single (single : spec.multiSelect = false) (filled : text ≠ "") :
    segmentAmong options separators spec position order (some text) =
      ⟨position, some text, (matchCode (Text.lower text) (lowerCodes options)).1, spec.collection,
        order, IdSet.ofList (matchCode (Text.lower text) (lowerCodes options)).2⟩ := by
  simp [segmentAmong, piecesOf, single, graded, filled, MatchStatus.worst, MatchStatus.worstFrom]

/-- The segment of a text has what the first successful look finds, in the order of the
options. -/
theorem looks_of_readSegment (filed : s.Filed) (active : s.Active)
    (offered : offerOf s line = .ok offer)
    (shown : candidates s offer spec.collection = .ok options)
    (single : spec.multiSelect = false) (filled : text ≠ "")
    (read : readSegment s offer separators spec position order (some text) = .ok segment) :
    Unmatched s line spec.collection text segment ∨
      ∃ look, MatchedBy s line spec.collection text segment look ∧
        segment.matched = hits (lowerCodes options) (look.finds (Text.lower text)) := by
  have listed : ∀ o, o ∈ options ↔ IsCandidate s line spec.collection o :=
    fun _ => mem_candidates_iff filed active offered shown
  obtain ⟨others, same, rfl⟩ := readSegment_of_filled (show (some text).getD "" ≠ "" from filled) read
  obtain rfl := Except.ok.inj (shown.symm.trans same)
  rw [segmentAmong_single single filled]
  rcases exists_first_look (Text.lower text) (lowerCodes options) with nothing | ⟨look, some, first⟩
  · rw [matchCode_of_nothing nothing]
    exact Or.inl ⟨rfl, rfl, fun look => (hits_eq_nil_iff filled listed look).mp (nothing look)⟩
  · have matched : IdSet.ofList (hits (lowerCodes options) (look.finds (Text.lower text))) =
        hits (lowerCodes options) (look.finds (Text.lower text)) :=
      IdSet.ofList_of_nodup (hits_nodup_of_candidates filed shown _)
    rw [matchCode_of_look some first, matched]
    refine Or.inr ⟨look, ⟨rfl, some, fun id => mem_hits_iff_finds filled listed look, ?_⟩, rfl⟩
    exact fun before member => (hits_eq_nil_iff filled listed before).mp (first before member)

theorem hits_of_suggestions {needle : String} {found : List (Option CodeSuggestion)}
    (h : options.mapM (segmentSuggestion? needle collection) = .ok found) :
    (found.filterMap id).map CodeSuggestion.option =
      hits (lowerCodes options) (Look.beginning.finds needle) := by
  have results := mapM_eq_ok_iff.mp h
  clear h
  induction results with
  | nil => rfl
  | @cons o suggestion rest others here _ ih =>
    unfold segmentSuggestion? at here
    by_cases coded : o.code.truthy = true
    · rw [if_neg (by simp [coded])] at here
      split at here
      · rename_i code text
        obtain rfl := Except.ok.inj here
        have name : codeText o = code := by rw [codeText, text]
        by_cases begun : Text.startsWith (Text.lower code) needle = true
        · simpa [hits, lowerCodes, coded, begun, name, Look.finds] using ih
        · simpa [hits, lowerCodes, coded, begun, name, Look.finds] using ih
      · cases here
    · rw [if_pos (by simp [coded])] at here
      obtain rfl := Except.ok.inj here
      simpa [hits, lowerCodes, coded] using ih

theorem needleOf_text {query : String} (filled : Text.trim query ≠ "") :
    needleOf (.text query) = .ok (Text.lower (Text.trim query)) := by
  have some : query ≠ "" := by
    rintro rfl
    exact filled (Text.trim_of_tight Text.tight_empty)
  simp [needleOf, Value.truthy, some]

/-- For a known line, or none, codes are suggested among the options that may be parsed. -/
theorem suggestSegment_eq (positions : enabledOrder fields = .ok ordered)
    (here : ordered[position]? = some entry)
    (known : line.isNull = true ∨ s.hasLine line = true) (offered : offerOf s line = .ok offer)
    (shown : candidates s offer entry.collection = .ok options) {query : String}
    (filled : Text.trim query ≠ "") (limit : Option Int) :
    suggestSegment s fields position (.text query) limit line =
      (options.mapM (segmentSuggestion? (Text.lower (Text.trim query)) entry.collection)).map
        fun found => firstFew limit (found.filterMap id) := by
  have placed : ¬(position : Int) < 0 := by omega
  have ran : ∀ {α β : Type} (a : α) (next : α → Except Fault β), (Except.ok a >>= next) = next a :=
    fun _ _ => rfl
  have ends : ∀ work : Except Fault (List (Option CodeSuggestion)),
      (work >>= fun found => pure (firstFew limit (found.filterMap id))) =
        work.map fun found => firstFew limit (found.filterMap id) := by
    intro work
    cases work <;> rfl
  unfold offerOf at offered
  cases null : line.isNull with
  | true =>
    rw [null] at offered
    obtain rfl := Except.ok.inj offered
    simp only [suggestSegment, positions, ran, if_neg placed, Int.toNat_natCast, here, null,
      if_true, pure_bind, needleOf_text filled, shown, ends]
  | false =>
    rw [null, known.resolve_left (by simp [null])] at offered
    have defaults : (s.lineDefaults line).map some = .ok offer := offered
    simp only [suggestSegment, positions, ran, if_neg placed, Int.toNat_natCast, here, null,
      Bool.false_eq_true, if_false, defaults, needleOf_text filled, shown, ends]

theorem firstFew_of_roomy {α : Type} {xs : List α} {limit : Option Int}
    (roomy : ∀ n ∈ limit, (xs.length : Int) ≤ n) : firstFew limit xs = xs := by
  cases limit with
  | none => rfl
  | some n =>
    have enough := roomy n rfl
    rw [firstFew, if_pos (by omega), List.take_of_length_le (by omega)]

/-- With room for the whole collection, the suggestions are all that the second look finds. -/
theorem suggestions_eq (positions : enabledOrder fields = .ok ordered)
    (here : ordered[position]? = some entry)
    (known : line.isNull = true ∨ s.hasLine line = true) (offered : offerOf s line = .ok offer)
    (shown : candidates s offer entry.collection = .ok options) {query : String}
    (filled : Text.trim query ≠ "") {limit : Option Int}
    (roomy : ∀ n ∈ limit, ((s.optionsIn entry.collection).length : Int) ≤ n)
    {found : List CodeSuggestion}
    (suggested : suggestSegment s fields position (.text query) limit line = .ok found) :
    found.map CodeSuggestion.option =
      hits (lowerCodes options) (Look.beginning.finds (Text.lower (Text.trim query))) := by
  rw [suggestSegment_eq positions here known offered shown filled limit] at suggested
  obtain ⟨results, looked, rfl⟩ := map_eq_ok.mp suggested
  have all := hits_of_suggestions looked
  have count : (results.filterMap id).length ≤ (s.optionsIn entry.collection).length := by
    obtain ⟨whole, displayed, fewer⟩ := candidates_sublist shown
    have listed := (s.optionsFor_perm displayed).length_eq
    calc (results.filterMap id).length
        = (hits (lowerCodes options)
            (Look.beginning.finds (Text.lower (Text.trim query)))).length := by
          rw [← all, List.length_map]
      _ ≤ (options.map CatalogOption.key).length := (hits_sublist options _).length_le
      _ ≤ whole.length := by simpa using fewer.length_le
      _ = (s.optionsIn entry.collection).length := by simpa [Keyed.values] using listed
  rw [firstFew_of_roomy fun n member => le_trans (by exact_mod_cast count) (roomy n member)]
  exact all

theorem exists_suggestions (sortable : s.Sortable) (spelled : AllSpelled (fun _ => False) s)
    (positions : enabledOrder fields = .ok ordered) (here : ordered[position]? = some entry)
    (known : line.isNull = true ∨ s.hasLine line = true) {query : String}
    (filled : Text.trim query ≠ "") (limit : Option Int) :
    ∃ found, suggestSegment s fields position (.text query) limit line = .ok found := by
  obtain ⟨offer, offered⟩ := exists_offer sortable line
  obtain ⟨options, shown⟩ := exists_candidates sortable offer entry.collection
  have looked : ∃ results, options.mapM
      (segmentSuggestion? (Text.lower (Text.trim query)) entry.collection) = .ok results := by
    apply exists_mapM_eq_ok.mpr
    intro o member
    unfold segmentSuggestion?
    by_cases coded : o.code.truthy = true
    · rcases spelled entry.collection o (mem_of_candidates shown member) coded with ⟨t, text⟩ | none
      · rw [if_neg (by simp [coded]), text]
        exact ⟨_, rfl⟩
      · exact none.elim
    · simp [coded]
  obtain ⟨results, looked⟩ := looked
  rw [suggestSegment_eq positions here known offered shown filled limit, looked]
  exact ⟨_, rfl⟩

/-- What is suggested for a text at a position of one option agrees with the segment that the
text gives there, and where the codes are texts there are suggestions and a segment. -/
theorem suggestions_agree_with_segments (delivered : s.Delivered)
    (positions : enabledOrder fields = .ok ordered) (here : ordered[position]? = some entry)
    (row : s.table.byCollection? entry.collection = some spec)
    (single : spec.multiSelect = false)
    (known : line.isNull = true ∨ s.hasLine line = true) (query : String)
    (filled : Text.trim query ≠ "") (limit : Option Int)
    (roomy : ∀ n ∈ limit, ((s.optionsIn entry.collection).length : Int) ≤ n) (sku : String)
    (separators : Separators)
    (written : ((Text.split separators.delimiter sku).map Text.trim)[position]? =
      some (Text.trim query)) :
    (∀ found parsed,
      suggestSegment s fields position (.text query) limit line = .ok found →
      parse (.text sku) fields s line separators = .ok parsed →
      ∃ segment, parsed.segments[position]? = some segment ∧
        Agrees s line entry.collection (Text.trim query) segment
          (found.map CodeSuggestion.option)) ∧
    (s.Sortable → AllSpelled (fun _ => False) s → s.table.Covers ordered →
      separators.delimiter ≠ "" → separators.multi ≠ "" → ∃ found parsed,
        suggestSegment s fields position (.text query) limit line = .ok found ∧
        parse (.text sku) fields s line separators = .ok parsed) := by
  constructor
  · intro found parsed suggested parses
    obtain ⟨others, offer, read, same, offered, segments, cut, kept, _, _⟩ := parse_eq_ok parses
    obtain rfl := Except.ok.inj (positions.symm.trans same)
    obtain ⟨spec', segment, there, row', result⟩ := getElem?_of_readSegments segments here
    obtain rfl := Option.some.inj (row.symm.trans row')
    rw [cut, inputText, written] at result
    have named := (s.table.byCollection?_spec row).2
    obtain ⟨options, shown, _⟩ :=
      readSegment_of_filled (show (some (Text.trim query)).getD "" ≠ "" from filled) result
    have decided := looks_of_readSegment delivered.filed delivered.active offered shown single filled
      result
    rw [named] at shown decided
    have whole := suggestions_eq positions here known offered shown filled roomy suggested
    refine ⟨segment, by rw [kept, List.getElem?_map, there, Option.map_some], ?_⟩
    apply agrees_of_looks
    · intro id
      rw [whole]
      exact mem_hits_iff_finds filled
        (fun _ => mem_candidates_iff delivered.filed delivered.active offered shown) .beginning
    · refine decided.imp_right ?_
      rintro ⟨look, matched, same⟩
      refine ⟨look, matched, ?_⟩
      rintro rfl
      rw [same, whole]
  · intro sortable spelled covered delimited separated
    obtain ⟨found, suggested⟩ :=
      exists_suggestions sortable spelled positions here known filled limit
    obtain ⟨parsed, parses⟩ :=
      exists_parse sortable spelled positions covered delimited separated (.text sku) line
    exact ⟨found, parsed, suggested, parses⟩

def redBeforeRuby : Source (Except Fault) where
  lines := .ok []
  options _ := .ok [.object [("id", .text "red"), ("sku_code", .text "R")],
    .object [("id", .text "ruby"), ("sku_code", .text "RB")]]
  products := .ok []
  overrides := .ok []
  rules := .ok []
  codeFields := .ok [.object [("collection", .text "colors"), ("order", .int 1)]]

def redAndRuby : Snapshot where
  table := (Configuration.twoColors []).table
  lines := []
  options := [("colors", [("red", ⟨.text "red", .text "red", .text "R", "colors", .null, .bool true⟩),
      ("ruby", ⟨.text "ruby", .text "ruby", .text "RB", "colors", .null, .bool true⟩)]),
    ("product_lines", [])]
  products := []
  overrides := []
  rules := []
  codeFields := [⟨"colors", .int 1, .bool true⟩]
  diagnostics := []
  asOf := ""

theorem redAndRuby_delivered : redAndRuby.Delivered :=
  .direct redBeforeRuby (Configuration.twoColors []).table "" rfl

theorem redAndRuby_sortable : redAndRuby.Sortable := by
  unfold Snapshot.Sortable
  decide

theorem redAndRuby_spelled : AllSpelled (fun _ => False) redAndRuby := by
  apply spelled_of_texts
  intro collection o listed _
  obtain ⟨options, filed, listed⟩ := Snapshot.exists_of_mem_optionsIn listed
  have texts : ∀ e ∈ redAndRuby.options, ∀ o ∈ Keyed.values e.2, o.code.kind = .text := by decide
  exact texts (collection, options) filed o listed

/-- The letter stands for red, and ruby is suggested with it. -/
theorem red_and_ruby_are_suggested :
    redAndRuby.Delivered ∧ redAndRuby.Sortable ∧ AllSpelled (fun _ => False) redAndRuby ∧
    ∃ found parsed segment,
      suggestSegment redAndRuby redAndRuby.codeFields 0 (.text " r") (some 2) .null = .ok found ∧
      parse (.text "r-x") redAndRuby.codeFields redAndRuby .null Separators.standard =
        .ok parsed ∧
      parsed.segments[0]? = some segment ∧
      Agrees redAndRuby .null "colors" "r" segment (found.map CodeSuggestion.option) ∧
      found.map CodeSuggestion.option = ["red", "ruby"] ∧ segment.matched = ["red"] ∧
      segment.status = .exact := by
  have covered : redAndRuby.table.Covers redAndRuby.codeFields := by
    unfold FieldTable.Covers
    decide
  have positions : enabledOrder redAndRuby.codeFields = .ok redAndRuby.codeFields := rfl
  have here : redAndRuby.codeFields[0]? = some ⟨"colors", .int 1, .bool true⟩ := rfl
  obtain ⟨agrees, returns⟩ := suggestions_agree_with_segments redAndRuby_delivered positions here
    rfl rfl (Or.inl rfl : Value.null.isNull = true ∨ _) " r" (by decide) (some 2)
    (by simp; decide) "r-x" Separators.standard rfl
  obtain ⟨found, parsed, suggested, parses⟩ := returns redAndRuby_sortable redAndRuby_spelled
    covered (by decide) (by decide)
  obtain ⟨segment, there, agreed⟩ := agrees found parsed suggested parses
  refine ⟨redAndRuby_delivered, redAndRuby_sortable, redAndRuby_spelled, found, parsed, segment,
    suggested, parses, there, agreed, ?_⟩
  cases suggested
  cases parses
  cases there
  exact ⟨rfl, rfl, rfl⟩

end Sku

end MadeToOrder
