import MadeToOrder.Proofs.Sku.Reading

/-!
# Building and parsing

Parsing a built code gives the selection back. That takes more than codes that
can be told apart: each choice must count as one, and parsing must be able to look
at every option of the collections it reads.
-/

set_option autoImplicit false

namespace MadeToOrder.Sku

variable {snapshot : Snapshot} {separators : Separators} {selection : Selection}
  {spec : FieldSpec} {specs : List FieldSpec} {v : Value}

theorem length_of_mapped {ordered : List CodeField}
    (mapped : ordered.map (fun e => snapshot.table.byCollection? e.collection) = specs.map some) :
    ordered.length = specs.length := by
  simpa using congrArg List.length mapped

theorem mem_table_of_mapped {ordered : List CodeField}
    (mapped : ordered.map (fun e => snapshot.table.byCollection? e.collection) = specs.map some)
    (member : spec ∈ specs) : spec ∈ snapshot.table.specs := by
  have found : some spec ∈ ordered.map (fun e => snapshot.table.byCollection? e.collection) := by
    rw [mapped]
    exact List.mem_map_of_mem member
  obtain ⟨entry, _, row⟩ := List.mem_map.mp found
  exact (snapshot.table.byCollection?_spec row).1

theorem build_eq {fields ordered : List CodeField} {segments : List Segment}
    {warnings : List Diagnostic} (positions : enabledOrder fields = .ok ordered)
    (h : buildSegments snapshot selection Rule.Overrides.empty separators.multi ordered =
      .ok (segments, warnings)) :
    build selection Rule.Overrides.empty fields snapshot separators =
      .ok ⟨Text.join separators.delimiter (segments.map Segment.code), segments, warnings,
        false⟩ := by
  simp only [Rule.Overrides.empty] at h
  simp [build, positions, h, Rule.Overrides.empty, bind, Except.bind, pure, Except.pure]

/-- A built code is read back: the selection comes back whole, a required field
without a choice is missing, and if every field has one nothing is reported. -/
theorem parse_build (filed : snapshot.Filed) {fields ordered : List CodeField}
    (positions : enabledOrder fields = .ok ordered)
    (mapped : ordered.map (fun e => snapshot.table.byCollection? e.collection) = specs.map some)
    (delimited : separators.delimiter ≠ "") (separated : separators.multi ≠ "")
    (apart : Text.Clear separators.delimiter.toList separators.multi)
    (chosen : ∀ field v, Keyed.get? selection field = some v → ∃ spec ∈ specs,
      spec.field = field ∧ Readable snapshot spec.collection ∧
        Spellable snapshot separators spec v)
    (trailing : specs.Pairwise (fun a b => Skipped selection a → Skipped selection b)) :
    ∃ built parsed,
      build selection Rule.Overrides.empty fields snapshot separators = .ok built ∧
      parse (.text built.sku) fields snapshot .null separators = .ok parsed ∧
      (∀ field, Keyed.get? parsed.selection field = Keyed.get? selection field) ∧
      parsed.segments.map (fun segment => (segment.collection, segment.status)) =
        specs.map (fun spec => (spec.collection,
          if Keyed.has selection spec.field then .exact else .missing)) ∧
      ((∀ spec ∈ specs, Keyed.has selection spec.field = true) →
        parsed.confidence = .exact ∧ parsed.issues = []) := by
  have own : ∀ spec ∈ specs, ∀ v, Keyed.get? selection spec.field = some v →
      Readable snapshot spec.collection ∧ Spellable snapshot separators spec v := by
    intro spec member v found
    obtain ⟨other, otherMember, same, readable, spellable⟩ := chosen spec.field v found
    obtain rfl := snapshot.table.eq_of_field_eq (mem_table_of_mapped mapped otherMember)
      (mem_table_of_mapped mapped member) same
    exact ⟨readable, spellable⟩
  have spells := fun spec member v found => (own spec member v found).2
  have sameLength := length_of_mapped mapped
  have filled : specs ≠ [] := by
    rintro rfl
    exact enabledOrder_ne_nil positions (List.length_eq_zero_iff.mp sameLength)
  obtain ⟨segments, warnings, built, codes⟩ := buildSegments_of_spellable mapped spells
  obtain ⟨raws, cut, fits⟩ := trimmedPieces_code filled delimited apart spells trailing
  obtain ⟨read, parsed, rows, reads⟩ := readSegments_of_fits filed separated mapped own fits 0
  have surplus : raws.drop ordered.length = [] := by
    rw [List.drop_eq_nil_iff, sameLength]
    exact fits_length fits
  have spelled : trimmedPieces separators.delimiter
      (inputText (.text (Text.join separators.delimiter (segments.map Segment.code)))) =
        .ok raws := by
    rw [inputText, codes]
    exact cut
  have parses := parse_eq positions spelled (rfl : offerOf snapshot .null = .ok none)
  rw [parsed] at parses
  refine ⟨_, _, build_eq positions built, parses, ?_, ?_, ?_⟩
  · refine get?_recovered_of_reads rows reads ?_
    intro field v found
    obtain ⟨spec, member, same, _⟩ := chosen field v found
    exact same ▸ List.mem_map_of_mem member
  · rw [← rows, List.map_map, List.map_map]
    apply List.map_congr_left
    intro r member
    simp [(reads r member).collection, (reads r member).status]
  · intro all
    obtain ⟨exact, quiet⟩ := exact_of_reads rows reads spells all
    refine ⟨exact, ?_⟩
    simp [quiet, surplus, surplusIssue]

def optionsOnly (table : FieldTable) (options : Keyed (Keyed CatalogOption)) : Snapshot where
  table := table
  lines := []
  options := options
  products := []
  overrides := []
  rules := []
  codeFields := []
  diagnostics := []
  asOf := ""

def coded (collection id : String) (code : Value) : CatalogOption :=
  ⟨.text id, .text id, code, collection, .null, .bool true⟩

def sizes : FieldSpec := ⟨"sizes", "size", "size", "Size", true, false, true⟩

def extras : FieldSpec := ⟨"extras", "extra", "extra", "Extras", false, true, true⟩

def colors : FieldSpec := ⟨"colors", "color", "color", "Color", true, false, true⟩

def packs : FieldSpec := ⟨"packs", "pack", "pack", "Pack", false, false, true⟩

def carOptions : Snapshot :=
  optionsOnly ⟨[sizes, extras, colors, packs], by decide, by decide, by decide⟩
    [("sizes", [("small", coded "sizes" "small" (.text "S")),
        ("large", coded "sizes" "large" (.text "SL"))]),
      ("extras", [("wifi", coded "extras" "wifi" (.text "WF")),
        ("gps", coded "extras" "gps" (.text "GP"))])]

def carFields : List CodeField :=
  [⟨"sizes", .int 1, .bool true⟩, ⟨"extras", .int 2, .bool true⟩, ⟨"colors", .int 3, .bool true⟩,
    ⟨"packs", .int 4, .bool true⟩]

def smallWithExtras : Selection :=
  [("size", .text "small"), ("extra", .list [.text "gps", .text "wifi"])]

theorem enabledOrder_carFields : enabledOrder carFields = .ok carFields := by
  simp [enabledOrder, CodeField.enabledInOrder, CodeField.inOrder, Snapshot.inOrderOf, carFields,
    Value.truthy, Value.isOrdered, Value.isNaN, Sorting.sort?, Sorting.comparable, Sorting.sort,
    Sorting.insert, Value.less?_int, bind, Except.bind, pure, Except.pure]

/-- The code `S--GP+WF--` gives the size and both extras back. -/
theorem parse_small_with_extras :
    ∃ built parsed,
      build smallWithExtras Rule.Overrides.empty carFields carOptions ⟨"--", "+"⟩ = .ok built ∧
      parse (.text built.sku) carFields carOptions .null ⟨"--", "+"⟩ = .ok parsed ∧
      (∀ field, Keyed.get? parsed.selection field = Keyed.get? smallWithExtras field) ∧
      parsed.segments.map (fun segment => (segment.collection, segment.status)) =
        [("sizes", .exact), ("extras", .exact), ("colors", .missing), ("packs", .missing)] := by
  have chosen : ∀ field v, Keyed.get? smallWithExtras field = some v →
      ∃ spec ∈ [sizes, extras, colors, packs], spec.field = field ∧
        Readable carOptions spec.collection ∧ Spellable carOptions ⟨"--", "+"⟩ spec v := by
    intro field v found
    rcases (by simpa [smallWithExtras] using Keyed.mem_of_get? found :
      field = "size" ∧ v = .text "small" ∨
        field = "extra" ∧ v = .list [.text "gps", .text "wifi"]) with ⟨rfl, rfl⟩ | ⟨rfl, rfl⟩
    · exact ⟨sizes, by simp, rfl, ⟨⟨_, rfl⟩, by decide⟩,
        .one "small" rfl (by decide) (by decide)⟩
    · exact ⟨extras, by simp, rfl, ⟨⟨_, rfl⟩, by decide⟩,
        .several ["gps", "wifi"] rfl (by decide) (by decide) (by decide)⟩
  obtain ⟨built, parsed, buildOk, parseOk, same, statuses, _⟩ :=
    @parse_build carOptions ⟨"--", "+"⟩ smallWithExtras [sizes, extras, colors, packs] (by decide)
      carFields carFields enabledOrder_carFields rfl (by decide) (by decide) (by decide) chosen
      (by decide)
  exact ⟨built, parsed, buildOk, parseOk, same, statuses⟩

/-- Building a code and parsing it gives the selection back. -/
def Recovers (snapshot : Snapshot) (fields : List CodeField) (selection : Selection) : Prop :=
  ∃ built parsed,
    build selection Rule.Overrides.empty fields snapshot Separators.standard = .ok built ∧
    parse (.text built.sku) fields snapshot .null Separators.standard = .ok parsed ∧
    ∀ field, Keyed.get? parsed.selection field = Keyed.get? selection field

theorem not_recovers_of_build {fields : List CodeField} {fault : Fault}
    (h : build selection Rule.Overrides.empty fields snapshot Separators.standard =
      .error fault) : ¬ Recovers snapshot fields selection := by
  rintro ⟨built, parsed, buildOk, _⟩
  simp [h] at buildOk

theorem not_recovers_of_parse {fields : List CodeField} {fault : Fault} {built : Built}
    (buildOk : build selection Rule.Overrides.empty fields snapshot Separators.standard =
      .ok built)
    (h : parse (.text built.sku) fields snapshot .null Separators.standard = .error fault) :
    ¬ Recovers snapshot fields selection := by
  rintro ⟨other, parsed, otherOk, parseOk, _⟩
  obtain rfl := Except.ok.inj (buildOk.symm.trans otherOk)
  simp [h] at parseOk

theorem not_recovers_of_lost {fields : List CodeField} {built : Built} {parsed : Parsed}
    (field : String)
    (buildOk : build selection Rule.Overrides.empty fields snapshot Separators.standard =
      .ok built)
    (parseOk : parse (.text built.sku) fields snapshot .null Separators.standard = .ok parsed)
    (chosen : Keyed.get? selection field = some v)
    (lost : Keyed.get? parsed.selection field = none) : ¬ Recovers snapshot fields selection := by
  rintro ⟨otherBuilt, other, otherOk, otherParsed, same⟩
  obtain rfl := Except.ok.inj (buildOk.symm.trans otherOk)
  obtain rfl := Except.ok.inj (parseOk.symm.trans otherParsed)
  rw [same field, chosen] at lost
  simp at lost

def sizesOnly (options : Keyed CatalogOption) : Snapshot :=
  optionsOnly ⟨[sizes], by decide, by decide, by decide⟩ [("sizes", options)]

def sizeField : List CodeField := [⟨"sizes", .int 1, .bool true⟩]

def lineField : List CodeField := [⟨"product_lines", .int 1, .bool true⟩]

def unnamedSize : Snapshot := sizesOnly [("", coded "sizes" "" (.text "S"))]

def unsortedSizes : Snapshot :=
  sizesOnly [("small", { coded "sizes" "small" (.text "S") with sort := .int 1 }),
    ("large", { coded "sizes" "large" (.text "L") with sort := .text "last" })]

def numberedLine : Snapshot :=
  optionsOnly ⟨[⟨"product_lines", "line", "line", "Line", true, false, false⟩], by decide,
    by decide, by decide⟩
    [("product_lines", [("deco", coded "product_lines" "deco" (.text "D")),
      ("neo", coded "product_lines" "neo" (.int 7))])]

/-- Distinct legible codes are not enough: the empty id counts as no choice, an
order without entries builds nothing, and options that have no display order or a
code that is no text stop the parsing of every code in their collection. -/
theorem unrecovered :
    (Legible unnamedSize "sizes" ['-'] "" ∧
      ¬ Recovers unnamedSize sizeField [("size", .text "")]) ∧
    ¬ Recovers unnamedSize [] [] ∧
    (Legible unsortedSizes "sizes" ['-'] "small" ∧
      ¬ Recovers unsortedSizes sizeField [("size", .text "small")]) ∧
    (Legible numberedLine "product_lines" ['-'] "deco" ∧
      ¬ Recovers numberedLine lineField [("line", .text "deco")]) := by
  refine ⟨⟨by decide, ?_⟩, ?_, ⟨by decide, ?_⟩, ⟨by decide, ?_⟩⟩
  · exact not_recovers_of_lost "size" rfl rfl rfl rfl
  · exact not_recovers_of_build rfl
  · exact not_recovers_of_parse rfl rfl
  · exact not_recovers_of_parse rfl rfl

end MadeToOrder.Sku
