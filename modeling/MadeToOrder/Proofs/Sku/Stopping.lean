import MadeToOrder.Proofs.Configuration.DomainFaults
import MadeToOrder.Proofs.Sku.Recovery

/-!
# Where reading stops

Reading a code should not stop at anything that may be written in one, and what is written
does not stop it by itself. But the codes of lines, unlike those of options, are kept as they
come. As soon as something is written at the position of the line, they are all asked for
their lower case, and one that is no text has none.
-/

set_option autoImplicit false

namespace MadeToOrder

variable {s : Snapshot} {line : Value}

structure Snapshot.IsOddLine (s : Snapshot) (l : ProductLine) : Prop where
  known : l ∈ Keyed.values s.lines
  coded : l.code.truthy = true
  odd : l.code.kind ≠ .text

/-- The codes of options are texts, but for those of the lines. -/
theorem Snapshot.Delivered.kind_code (delivered : s.Delivered) {collection : String}
    (other : collection ≠ lineCollection) {o : CatalogOption}
    (listed : o ∈ Keyed.values (s.optionsIn collection)) : o.code.kind = .text := by
  obtain ⟨_, _, _, _, _, _, assembled⟩ := delivered.exists_assembled
  obtain ⟨options, filed, listed⟩ := exists_of_mem_optionsIn listed
  obtain ⟨e, member, rfl⟩ := List.mem_map.mp listed
  rcases assembled.mem_options (collection, options) filed with ⟨records, _, read⟩ | ⟨same, _⟩
  · obtain ⟨_, record, _, result⟩ := Assembly.mem_readOptions read member
    obtain ⟨fs, id, code, _, _, o⟩ := Assembly.readOption_eq_ok result
    rw [o]
    rfl
  · exact absurd same other

theorem Snapshot.Delivered.exists_oddLine (delivered : s.Delivered)
    (mapped : s.table.hasCollection lineCollection = true) :
    (∃ o ∈ Keyed.values (s.optionsIn lineCollection), o.code.truthy = true ∧ o.code.kind ≠ .text) ↔
      ∃ l, s.IsOddLine l := by
  obtain ⟨_, _, _, _, _, _, assembled⟩ := delivered.exists_assembled
  rw [assembled.table_eq] at mapped
  rw [optionsIn_lineCollection assembled mapped]
  have code (l : ProductLine) (given : l.code.truthy = true) :
      (Assembly.lineOption l).code = l.code := if_pos given
  constructor
  · rintro ⟨o, listed, coded, odd⟩
    obtain ⟨e, member, rfl⟩ := List.mem_map.mp listed
    obtain ⟨⟨key, l⟩, known, rfl⟩ := List.mem_map.mp member
    by_cases given : l.code.truthy = true
    · rw [code l given] at odd
      exact ⟨l, List.mem_map_of_mem known, given, odd⟩
    · have blank : (Assembly.lineOption l).code = .text "" := if_neg given
      rw [blank] at coded
      cases coded
  · rintro ⟨l, known, coded, odd⟩
    obtain ⟨e, member, rfl⟩ := List.mem_map.mp known
    refine ⟨Assembly.lineOption e.2, ?_, ?_⟩
    · exact List.mem_map_of_mem (List.mem_map_of_mem (f := fun e => (e.1, _)) member)
    · rw [code e.2 coded]
      exact ⟨coded, odd⟩

namespace Sku

variable {offer : Option (Keyed (List String))} {options : List CatalogOption}
  {separators : Separators} {ordered : List CodeField} {raws : List String}

/-- Every line can be meant, whatever line the code is read for. -/
theorem mem_line_candidates (filed : s.Filed) (offered : offerOf s line = .ok offer)
    (mapped : s.table.hasCollection lineCollection = true)
    (shown : candidates s offer lineCollection = .ok options) {o : CatalogOption}
    (listed : o ∈ Keyed.values (s.optionsIn lineCollection)) : o ∈ options := by
  apply (mem_candidates filed shown).mpr
  refine ⟨Keyed.get?_of_mem (filed.optionsIn _).distinct (filed.entry listed), ?_⟩
  unfold offerOf at offered
  split at offered
  · obtain ⟨defaults, delivered, rfl⟩ := map_eq_ok.mp offered
    obtain ⟨l, _, delivered⟩ := bind_eq_ok.mp delivered
    obtain ⟨keys, _, delivered⟩ := bind_eq_ok.mp delivered
    rw [if_pos mapped] at delivered
    obtain ⟨all, displayed, delivered⟩ := bind_eq_ok.mp delivered
    obtain rfl := Except.ok.inj delivered
    intro ids same
    rw [Option.bind_some, Keyed.get?_put_self] at same
    obtain rfl := Option.some.inj same
    exact List.mem_map_of_mem ((s.optionsFor_perm displayed).mem_iff.mpr listed)
  · obtain rfl := Except.ok.inj offered
    nofun

/-- A position stops at its options if it is that of the line and a line is odd. -/
theorem exists_odd_candidate (delivered : s.Delivered) (offered : offerOf s line = .ok offer)
    {collection : String} (mapped : s.table.hasCollection collection = true)
    (shown : candidates s offer collection = .ok options) :
    (¬∀ o ∈ options, o.code.truthy = true → o.code.kind = .text) ↔
      collection = lineCollection ∧ ∃ l, s.IsOddLine l := by
  constructor
  · intro stops
    have lines : collection = lineCollection := by
      by_contra other
      exact stops fun o member _ => delivered.kind_code other (mem_of_candidates shown member)
    subst lines
    refine ⟨rfl, (delivered.exists_oddLine mapped).mp ?_⟩
    by_contra none
    exact stops fun o member coded => by
      by_contra odd
      exact none ⟨o, mem_of_candidates shown member, coded, odd⟩
  · rintro ⟨rfl, odd⟩ texts
    obtain ⟨o, listed, coded, odd⟩ := (delivered.exists_oddLine mapped).mpr odd
    exact odd (texts o (mem_line_candidates delivered.filed offered mapped shown listed) coded)

/-- Something is written at the position of the line. -/
def NamesLine (s : Snapshot) (separators : Separators) (ordered : List CodeField)
    (raws : List String) : Prop :=
  ∃ (i : Nat) (entry : CodeField) (spec : FieldSpec), ordered[i]? = some entry ∧
    entry.collection = lineCollection ∧ s.table.lineSpec? = some spec ∧
    ∃ piece ∈ piecesOf separators spec (raws[i]?.getD ""), piece ≠ ""

theorem exists_readSegments_iff (delivered : s.Delivered) (sortable : s.Sortable)
    (covered : s.table.Covers ordered) (separated : separators.multi ≠ "")
    (offered : offerOf s line = .ok offer) :
    (∃ read, readSegments s offer separators 0 ordered raws = .ok read) ↔
      ¬(NamesLine s separators ordered raws ∧ ∃ l, s.IsOddLine l) := by
  rw [exists_readSegments covered]
  have mapped : ∀ collection spec, s.table.byCollection? collection = some spec →
      spec.collection = collection ∧ s.table.hasCollection spec.collection = true := by
    intro collection spec row
    obtain ⟨_, rfl⟩ := s.table.byCollection?_spec row
    exact ⟨rfl, by rw [FieldTable.hasCollection, row]; rfl⟩
  constructor
  · rintro reads ⟨⟨i, entry, spec, here, lines, row, written⟩, odd⟩
    obtain ⟨named, known⟩ := mapped _ _ row
    obtain ⟨options, shown⟩ := exists_candidates sortable offer spec.collection
    have texts := (exists_readSegment separated shown).mp
      (reads i entry spec here (lines ▸ row)) written
    exact (exists_odd_candidate delivered offered known shown).mpr ⟨named, odd⟩ texts
  · intro quiet i entry spec here row
    obtain ⟨named, known⟩ := mapped _ _ row
    obtain ⟨options, shown⟩ := exists_candidates sortable offer spec.collection
    apply (exists_readSegment separated shown).mpr
    intro written
    by_contra stops
    obtain ⟨lines, odd⟩ := (exists_odd_candidate delivered offered known shown).mp stops
    rw [named] at lines
    rw [lines] at row
    exact quiet ⟨⟨i, entry, spec, here, lines, row, written⟩, odd⟩

/-- Reading stops if something is written at the position of the line and a line has a code
that is no text, and then because such a code has no lower case. It stops at nothing else. -/
theorem reading_stops_at_odd_lines (s : Snapshot) (delivered : s.Delivered) (sortable : s.Sortable)
    (enabled : ∃ e ∈ s.codeFields, e.enabled.truthy = true) (separators : Separators)
    (delimited : separators.delimiter ≠ "") (separated : separators.multi ≠ "")
    (sku line : Value) :
    ∃ ordered, enabledOrder s.codeFields = .ok ordered ∧
      ((∃ parsed, parse sku s.codeFields s line separators = .ok parsed) ↔
        ¬(NamesLine s separators ordered
            ((Text.split separators.delimiter (inputText sku)).map Text.trim) ∧
          ∃ l, s.IsOddLine l)) ∧
      ∀ fault, parse sku s.codeFields s line separators = .error fault →
        ∃ l, s.IsOddLine l ∧ fault = .noAttribute l.code.kind "lower" := by
  obtain ⟨_, _, _, _, _, _, assembled⟩ := delivered.exists_assembled
  obtain ⟨records, _, read⟩ := assembled.codeFields
  obtain ⟨covered, numbered⟩ := Assembly.readCodeFields_eq_ok read
  rw [← assembled.table_eq] at covered
  obtain ⟨ordered, positions⟩ := exists_enabledOrder numbered enabled
  obtain ⟨offer, offered⟩ := exists_offer sortable line
  refine ⟨ordered, positions, ?_, ?_⟩
  · have covers : s.table.Covers ordered := fun e member =>
      covered e (mem_of_enabledOrder positions member)
    rw [← exists_readSegments_iff delivered sortable covers separated offered,
      parse_eq positions (if_neg (by simpa using delimited)) offered]
    cases readSegments s offer separators 0 ordered
      ((Text.split separators.delimiter (inputText sku)).map Text.trim) <;> simp [Except.map]
  · show FailsOnly (fun fault => ∃ l, s.IsOddLine l ∧ fault = .noAttribute l.code.kind "lower") _
    refine failsOnly_parse (Or.inr sortable) ?_ ?_ covered (Or.inr numbered) ?_ sku line
    · rintro (none | none)
      · exact absurd none delimited
      · exact absurd none separated
    · intro collection o listed coded
      apply (delivered.spelled collection o listed coded).imp_right
      rintro ⟨l, filed, given, same, other⟩
      exact ⟨l, ⟨filed, given, same ▸ other⟩, by rw [same]⟩
    · intro none
      obtain ⟨e, member, active⟩ := enabled
      rw [none e member] at active
      cases active

def numberedNeo : Source (Except Fault) where
  lines := .ok [.object [("id", .text "deco"), ("sku_code", .text "D")],
    .object [("id", .text "neo"), ("sku_code", .int 7)]]
  options _ := .ok []
  products := .ok []
  overrides := .ok []
  rules := .ok []
  codeFields := .ok [.object [("collection", .text "product_lines"), ("order", .int 1)]]

def decoAndNeo : Snapshot where
  table := (Configuration.twoColors []).table
  lines := [("deco", ⟨.text "deco", .text "deco", .text "D", [], .null⟩),
    ("neo", ⟨.text "neo", .text "neo", .int 7, [], .null⟩)]
  options := [("colors", []),
    ("product_lines", [("deco", ⟨.text "deco", .text "deco", .text "D", "product_lines", .null,
        .bool true⟩),
      ("neo", ⟨.text "neo", .text "neo", .int 7, "product_lines", .null, .bool true⟩)])]
  products := []
  overrides := []
  rules := []
  codeFields := [⟨"product_lines", .int 1, .bool true⟩]
  diagnostics := []
  asOf := ""

theorem decoAndNeo_delivered : decoAndNeo.Delivered :=
  .direct numberedNeo (Configuration.twoColors []).table "" rfl

theorem decoAndNeo_sortable : decoAndNeo.Sortable := by
  unfold Snapshot.Sortable
  decide

theorem parse_deco : parse (.text "D") decoAndNeo.codeFields decoAndNeo .null Separators.standard =
    .error (.noAttribute .int "lower") := rfl

/-- The number of the one line stops the reading of the other, though nothing stops that of an
empty text. -/
theorem deco_is_not_read :
    decoAndNeo.Delivered ∧ decoAndNeo.Sortable ∧
    (∃ e ∈ decoAndNeo.codeFields, e.enabled.truthy = true) ∧
    (∃ ordered, enabledOrder decoAndNeo.codeFields = .ok ordered ∧
      NamesLine decoAndNeo Separators.standard ordered
        ((Text.split "-" "D").map Text.trim) ∧
      ∃ l, decoAndNeo.IsOddLine l ∧ parse (.text "D") decoAndNeo.codeFields decoAndNeo .null
        Separators.standard = .error (.noAttribute l.code.kind "lower")) ∧
    ∃ parsed, parse (.text "") decoAndNeo.codeFields decoAndNeo .null Separators.standard =
      .ok parsed := by
  have enabled : ∃ e ∈ decoAndNeo.codeFields, e.enabled.truthy = true :=
    ⟨_, List.mem_cons_self, rfl⟩
  obtain ⟨ordered, positions, reads, stops⟩ := reading_stops_at_odd_lines decoAndNeo
    decoAndNeo_delivered decoAndNeo_sortable enabled Separators.standard (by decide) (by decide)
    (.text "D") .null
  obtain ⟨l, odd, fault⟩ := stops _ parse_deco
  have named : NamesLine decoAndNeo Separators.standard ordered
      ((Text.split "-" "D").map Text.trim) := by
    by_contra quiet
    obtain ⟨parsed, read⟩ := reads.mpr fun both => quiet both.1
    rw [parse_deco] at read
    cases read
  exact ⟨decoAndNeo_delivered, decoAndNeo_sortable, enabled,
    ⟨ordered, positions, named, l, odd, fault ▸ parse_deco⟩, _, rfl⟩

/-- So not every text can be read. -/
theorem not_every_text_is_read :
    ¬∀ (s : Snapshot) (separators : Separators) (sku line : Value), s.Delivered → s.Sortable →
      (∃ e ∈ s.codeFields, e.enabled.truthy = true) → separators.delimiter ≠ "" →
      separators.multi ≠ "" → ∃ parsed, parse sku s.codeFields s line separators = .ok parsed := by
  intro claimed
  obtain ⟨parsed, read⟩ := claimed decoAndNeo Separators.standard (.text "D") .null
    decoAndNeo_delivered decoAndNeo_sortable ⟨_, List.mem_cons_self, rfl⟩ (by decide) (by decide)
  rw [parse_deco] at read
  cases read

end Sku

end MadeToOrder
