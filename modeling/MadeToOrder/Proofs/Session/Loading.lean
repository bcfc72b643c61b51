import MadeToOrder.Proofs.Configuration.DomainFaults
import MadeToOrder.Proofs.Selection.Reordered
import MadeToOrder.Proofs.Sku.Recovery
import MadeToOrder.Session

/-!
# Loading a code

What is recovered from a code is a line of the catalog, if it is a line at all. So loading
never asks for a line that there is not.
-/

set_option autoImplicit false

namespace MadeToOrder

open MadeToOrder.Configuration (lineOf? pass recompute)
open Selection (normalize)

variable {s : Snapshot} {line : Value} {trigger : Trigger} {selection : Selection}

def Fault.IsSited (fault : Fault) : Prop := ∀ line, fault ≠ .unknownLine line

theorem isSited_ofRefusal (id : String) (refusal : Numeral.Refusal) :
    (Fault.ofRefusal id refusal).IsSited := by
  intro line
  cases refusal <;> exact Fault.noConfusion

theorem isSited_of_stops {fault : Fault} (h : Rule.Stops fault) : fault.IsSited := by
  rintro line rfl
  rcases h with wide | ⟨kind, unhashable⟩
  · cases wide
  · cases unhashable

theorem Configuration.failsOnly_pass_of_known (known : s.hasLine line = true) :
    FailsOnly Fault.IsSited (pass s trigger line selection) := by
  have defaults : FailsOnly Fault.IsSited (s.lineDefaults line) :=
    Snapshot.failsOnly_lineDefaults (Or.inl fun _ => Fault.noConfusion) fun unknown => by
      rw [known] at unknown
      cases unknown
  have outcome : FailsOnly Fault.IsSited (Rule.outcomeFor s selection) :=
    Rule.failsOnly_outcomeFor (Or.inr fun _ => isSited_of_stops)
      fun _ _ id _ refusal _ _ => isSited_ofRefusal id refusal
  unfold pass
  rw [Availability.compute_eq]
  exact (defaults.map _).bind fun _ => outcome.bind fun _ => failsOnly_ok _

theorem Configuration.failsOnly_recompute_of_known (covered : s.table.Covers s.codeFields)
    (settings : Settings)
    (known : ∀ line, lineOf? s.table (normalize s.table selection) = some line →
      s.hasLine line = true) : FailsOnly Fault.IsSited (recompute selection s settings) := by
  rw [recompute_eq_configure, configure]
  split
  · exact failsOnly_ok _
  · rename_i line chosen
    apply FailsOnly.bind
    · exact failsOnly_settle (Or.inl fun _ => Fault.noConfusion)
        fun _ _ _ => failsOnly_pass_of_known (known line chosen)
    · intro settled
      exact (Sku.failsOnly_build (fun _ _ _ _ => Or.inr fun _ => Fault.noConfusion) covered
        (Or.inl fun _ => Fault.noConfusion) (fun _ _ => Fault.noConfusion) _ _ _).bind
          fun _ => failsOnly_ok _

theorem Snapshot.Delivered.hasLine_of_option? (delivered : s.Delivered)
    (mapped : s.table.hasCollection lineCollection = true) {id : String} {o : CatalogOption}
    (found : s.option? lineCollection id = some o) : s.hasLine (.text id) = true := by
  obtain ⟨_, _, _, _, _, _, assembled⟩ := delivered.exists_assembled
  rw [assembled.table_eq] at mapped
  rw [Snapshot.option?, optionsIn_lineCollection assembled mapped, Keyed.get?_mapValues] at found
  rw [Snapshot.hasLine, Value.plain_text, Keyed.has, ← Option.isSome_map, found]
  rfl

namespace Sku

/-- What a parsed code chooses for the line is an option of the lines. -/
theorem option_of_parse {sku asked : Value} {fields : List CodeField} {separators : Separators}
    {parsed : Parsed} (filed : s.Filed) (active : s.Active) {spec : FieldSpec}
    (known : spec ∈ s.table.specs) (single : spec.multiSelect = false)
    (h : parse sku fields s asked separators = .ok parsed) {v : Value}
    (chosen : (spec.field, v) ∈ parsed.selection) :
    ∃ id o, v = .text id ∧ s.option? spec.collection id = some o := by
  obtain ⟨ordered, offer, read, _, offered, segments, _, _, selection, _⟩ := parse_eq_ok h
  rw [selection] at chosen
  rcases mem_recovered chosen with none | ⟨r, here, found, own⟩
  · cases none
  obtain ⟨_, rows⟩ := collections_of_readSegments segments
  obtain rfl := s.table.eq_of_field_eq (rows r here) known own
  obtain ⟨position, order, raw, result⟩ := readSegment_of_mem segments here
  obtain ⟨_, means⟩ := recovers_of_readSegment filed active offered result
  obtain ⟨_, _, said⟩ := means v found
  exact said.option single

/-- The line that a code gives is one of the catalog. -/
theorem hasLine_of_parse {sku asked : Value} {fields : List CodeField} {separators : Separators}
    {parsed : Parsed} (delivered : s.Delivered)
    (single : ∀ spec, s.table.lineSpec? = some spec → spec.multiSelect = false)
    (h : parse sku fields s asked separators = .ok parsed)
    (chosen : lineOf? s.table (normalize s.table parsed.selection) = some line) :
    s.hasLine line = true := by
  obtain ⟨spec, row, chosen⟩ := Option.bind_eq_some_iff.mp chosen
  obtain ⟨known, named⟩ := s.table.byCollection?_spec row
  obtain ⟨v, held, rfl⟩ := Selection.exists_of_mem_normalize (Keyed.mem_of_get? chosen)
  obtain ⟨id, o, rfl, option⟩ :=
    option_of_parse delivered.filed delivered.active known (single spec row) h held
  rw [named] at option
  have mapped : s.table.hasCollection lineCollection = true := by
    rw [FieldTable.hasCollection, show s.table.byCollection? lineCollection = some spec from row]
    rfl
  rw [Selection.takesSeveral_of_mem known, single spec row]
  exact delivered.hasLine_of_option? mapped option

end Sku

namespace Session

theorem isSited_of_load {session : Session} (delivered : session.snapshot.Delivered)
    (single : ∀ spec, session.snapshot.table.lineSpec? = some spec → spec.multiSelect = false)
    (sku : Value) (now : Moment) : FailsOnly Fault.IsSited (session.load sku now).answer := by
  obtain ⟨_, _, _, _, _, _, assembled⟩ := delivered.exists_assembled
  have admits := admits_isMapped assembled
  unfold load
  split
  · rename_i fault stopped
    apply failsOnly_error
    exact Sku.failsOnly_parse (Or.inl fun _ => Fault.noConfusion) (fun _ _ => Fault.noConfusion)
      (fun _ _ _ _ => Or.inr fun _ => Fault.noConfusion) admits.covered
      (Or.inl fun _ => Fault.noConfusion) (fun _ _ => Fault.noConfusion) _ _ fault stopped
  · rename_i parsed read
    apply FailsOnly.map
    have computes := Configuration.failsOnly_recompute_of_known admits.covered session.settings
      fun line => Sku.hasLine_of_parse delivered single read
    unfold apply
    split
    · rename_i fault stopped
      exact failsOnly_error (computes fault stopped)
    · exact failsOnly_ok _

end Session

/-- Every text is read where all codes are texts, whatever the line and the separators. Each
enabled entry has its segment, and what exact segments recover is what they denote. So
loading a code into a session never asks for an unknown line. -/
theorem recovered_selections_are_sound (s : Snapshot) (fields : List CodeField)
    (delivered : s.Delivered) (sortable : s.Sortable)
    (texts : ∀ collection, ∀ o ∈ Keyed.values (s.optionsIn collection), o.code.kind = .text)
    (numbered : CodeField.Numbered fields) (enabled : ∃ e ∈ fields, e.enabled.truthy = true)
    (mapped : s.table.Covers (fields.filter fun e => e.enabled.truthy))
    (distinct : ((fields.filter fun e => e.enabled.truthy).map CodeField.collection).Nodup) :
    (∀ (sku line : Value) (separators : Sku.Separators), separators.delimiter ≠ "" →
      separators.multi ≠ "" → ∃ ordered parsed, Sku.enabledOrder fields = .ok ordered ∧
        ordered.Perm (fields.filter fun e => e.enabled.truthy) ∧
        ordered.Pairwise (fun a b => Sku.place a ≤ Sku.place b) ∧
        Sku.parse sku fields s line separators = .ok parsed ∧
        Sku.SoundParse s line separators ordered sku parsed) ∧
    ((∀ spec, s.table.lineSpec? = some spec → spec.multiSelect = false) →
      ∀ session : Session, session.snapshot = s → ∀ sku now line,
        (session.load sku now).answer ≠ .error (.unknownLine line)) := by
  refine ⟨fun sku line separators delimited separated => ?_, ?_⟩
  · obtain ⟨ordered, parsed, positions, read, sound⟩ := Sku.parse_is_sound delivered sortable texts
      numbered enabled mapped distinct delimited separated sku line
    exact ⟨ordered, parsed, positions, Sku.enabledOrder_perm positions,
      Sku.enabledOrder_sorted numbered positions, read, sound⟩
  · rintro single session rfl sku now line stopped
    exact Session.isSited_of_load delivered single sku now _ stopped line rfl

def lineThenColor : List CodeField :=
  [⟨"colors", .int 2, .bool true⟩, ⟨"trims", .int 3, .bool false⟩,
    ⟨"product_lines", .int 1, .bool true⟩]

theorem enabledOrder_lineThenColor : Sku.enabledOrder lineThenColor =
    .ok [⟨"product_lines", .int 1, .bool true⟩, ⟨"colors", .int 2, .bool true⟩] := by
  simp [Sku.enabledOrder, CodeField.enabledInOrder, CodeField.inOrder, Snapshot.inOrderOf,
    lineThenColor, Value.truthy, Value.isOrdered, Value.isNaN, Sorting.sort?, Sorting.comparable,
    Sorting.sort, Sorting.insert, Value.less?_int, bind, Except.bind, pure, Except.pure]

def onlyRedSession : Session := ⟨onlyRed, Settings.standard, ⟨[], none, none, ""⟩, [], 0⟩

/-- A code in small letters with a blank and a surplus piece gives the line and the color. -/
theorem small_letters_are_read :
    onlyRed.Delivered ∧ onlyRed.Sortable ∧
    (∀ collection, ∀ o ∈ Keyed.values (onlyRed.optionsIn collection), o.code.kind = .text) ∧
    CodeField.Numbered lineThenColor ∧ (∃ e ∈ lineThenColor, e.enabled.truthy = true) ∧
    onlyRed.table.Covers (lineThenColor.filter fun e => e.enabled.truthy) ∧
    ((lineThenColor.filter fun e => e.enabled.truthy).map CodeField.collection).Nodup ∧
    (∃ ordered parsed, Sku.enabledOrder lineThenColor = .ok ordered ∧
      Sku.parse (.text "d - c-x") lineThenColor onlyRed (.text "deco") Sku.Separators.standard =
        .ok parsed ∧
      Sku.SoundParse onlyRed (.text "deco") Sku.Separators.standard ordered (.text "d - c-x")
        parsed ∧
      parsed.confidence = .exact ∧
      parsed.selection = [("line", .text "deco"), ("color", .text "red")]) ∧
    (∃ parsed state, (onlyRedSession.load (.text "d") 0).answer = .ok (parsed, state) ∧
      state.line = some (.text "deco")) ∧
    ∀ line, (onlyRedSession.load (.text "d") 0).answer ≠ .error (.unknownLine line) := by
  have texts : ∀ collection, ∀ o ∈ Keyed.values (onlyRed.optionsIn collection),
      o.code.kind = .text := by
    intro collection o listed
    obtain ⟨options, filed, listed⟩ := Snapshot.exists_of_mem_optionsIn listed
    have all : ∀ e ∈ onlyRed.options, ∀ o ∈ Keyed.values e.2, o.code.kind = .text := by decide
    exact all (collection, options) filed o listed
  have numbered : CodeField.Numbered lineThenColor :=
    List.forall_mem_cons.mpr ⟨⟨2, rfl⟩,
      List.forall_mem_cons.mpr ⟨⟨3, rfl⟩, List.forall_mem_singleton.mpr ⟨1, rfl⟩⟩⟩
  have enabled : ∃ e ∈ lineThenColor, e.enabled.truthy = true :=
    ⟨_, List.mem_cons_self, rfl⟩
  have mapped : onlyRed.table.Covers (lineThenColor.filter fun e => e.enabled.truthy) := by
    unfold FieldTable.Covers
    decide
  have distinct : ((lineThenColor.filter fun e => e.enabled.truthy).map
      CodeField.collection).Nodup := by decide
  obtain ⟨reads, loads⟩ := recovered_selections_are_sound onlyRed lineThenColor onlyRed_delivered
    onlyRed_sortable texts numbered enabled mapped distinct
  have single : ∀ spec, onlyRed.table.lineSpec? = some spec → spec.multiSelect = false := by
    rintro spec ⟨⟩
    rfl
  obtain ⟨ordered, parsed, positions, _, _, read, sound⟩ := reads (.text "d - c-x") (.text "deco")
    Sku.Separators.standard (by decide) (by decide)
  obtain ⟨shown, ran, exact, found⟩ : ∃ shown,
      Sku.parse (.text "d - c-x") lineThenColor onlyRed (.text "deco") Sku.Separators.standard =
        .ok shown ∧ shown.confidence = .exact ∧
      shown.selection = [("line", .text "deco"), ("color", .text "red")] := by
    rw [Sku.parse_eq enabledOrder_lineThenColor
      (rfl : Sku.trimmedPieces "-" "d - c-x" = .ok ["d", "c", "x"])
      (rfl : Sku.offerOf onlyRed (.text "deco") =
        .ok (some [("colors", ["red"]), ("product_lines", ["deco"])]))]
    exact ⟨_, rfl, rfl, rfl⟩
  obtain rfl := Except.ok.inj (read.symm.trans ran)
  exact ⟨onlyRed_delivered, onlyRed_sortable, texts, numbered, enabled, mapped, distinct,
    ⟨ordered, parsed, positions, read, sound, exact, found⟩, ⟨_, _, rfl, rfl⟩,
    loads single onlyRedSession rfl (.text "d") 0⟩

end MadeToOrder
