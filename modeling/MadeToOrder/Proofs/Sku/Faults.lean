import MadeToOrder.Proofs.Catalog.Display
import MadeToOrder.Sku.Parse

/-!
# What stops the work on codes

A code cannot be built without an enabled field, where a field has no row in the
table, or where a chosen code is no text. Reading a code needs text codes too, and
separators that are not empty. Nothing else stops either of them.
-/

set_option autoImplicit false

namespace MadeToOrder

def FieldTable.Covers (table : FieldTable) (fields : List CodeField) : Prop :=
  ∀ e ∈ fields, table.hasCollection e.collection = true

def CodeField.Numbered (fields : List CodeField) : Prop := ∀ e ∈ fields, ∃ i, e.order = .int i

theorem FieldTable.rowOf_of_covers {table : FieldTable} {fields : List CodeField}
    (h : table.Covers fields) {e : CodeField} (member : e ∈ fields) (usedBy : String) :
    ∃ spec, table.rowOf e.collection usedBy = .ok spec := by
  obtain ⟨spec, found⟩ := Option.isSome_iff_exists.mp (h e member)
  exact ⟨spec, by rw [rowOf, found]⟩

theorem FieldTable.byCollection?_of_rowOf {table : FieldTable} {collection usedBy : String}
    {spec : FieldSpec} (h : table.rowOf collection usedBy = .ok spec) :
    table.byCollection? collection = some spec := by
  unfold rowOf at h
  split at h
  · rename_i found
    rw [found, Except.ok.inj h]
  · cases h

namespace Sku

variable {P : Fault → Prop} {s : Snapshot} {fields ordered : List CodeField}

theorem enabledOrder_perm (h : enabledOrder fields = .ok ordered) :
    ordered.Perm (fields.filter (fun f => f.enabled.truthy)) := by
  obtain ⟨sorted, found, kept⟩ := bind_eq_ok.mp h
  split at kept
  · cases kept
  · obtain rfl := Except.ok.inj kept
    exact Snapshot.inOrderOf_perm found

theorem mem_of_enabledOrder (h : enabledOrder fields = .ok ordered) {e : CodeField}
    (member : e ∈ ordered) : e ∈ fields :=
  (List.mem_filter.mp ((enabledOrder_perm h).mem_iff.mp member)).1

theorem failsOnly_inOrder (h : P .incomparable ∨ CodeField.Numbered fields) :
    FailsOnly P (CodeField.inOrder fields) := by
  unfold CodeField.inOrder
  rcases h with allowed | numbered
  · unfold Snapshot.inOrderOf
    dsimp only
    split
    · exact failsOnly_ok _
    · exact failsOnly_error allowed
  · have compared : ∀ a ∈ fields, ∀ b ∈ fields, (a.order.less? b.order).isSome = true := by
      intro a first b second
      obtain ⟨i, left⟩ := numbered a first
      obtain ⟨j, right⟩ := numbered b second
      simp [left, right, Value.less?_int]
    obtain ⟨sorted, found⟩ := @Snapshot.exists_inOrderOf CodeField CodeField.order
      (fun a b => a.order.less? b.order) fields compared
    rw [found]
    exact failsOnly_ok sorted

theorem failsOnly_enabledOrder (numbered : P .incomparable ∨ CodeField.Numbered fields)
    (none : (∀ e ∈ fields, e.enabled.truthy = false) → P .noFieldOrder) :
    FailsOnly P (enabledOrder fields) := by
  have sorts : FailsOnly P (CodeField.enabledInOrder fields) :=
    failsOnly_inOrder (numbered.imp_right fun all e member => all e (List.mem_filter.mp member).1)
  apply sorts.bind_of_ok
  intro sorted found
  split
  · rename_i empty
    apply failsOnly_error
    apply none
    intro e member
    obtain rfl : sorted = [] := by simpa using empty
    have nothing := (Snapshot.inOrderOf_perm found).symm.eq_nil
    have disabled := List.filter_eq_nil_iff.mp nothing e member
    simpa using disabled
  · exact failsOnly_ok _

/-- The code of an option is a text or empty, or else of an allowed kind. -/
def Spelled (allowed : Kind → Prop) (o : CatalogOption) : Prop :=
  o.code.truthy = true → (∃ t, o.code = .text t) ∨ allowed o.code.kind

def AllSpelled (allowed : Kind → Prop) (s : Snapshot) : Prop :=
  ∀ collection, ∀ o ∈ Keyed.values (s.optionsIn collection), Spelled allowed o

theorem failsOnly_texts {codes : List Value}
    (h : ∀ v ∈ codes, (∃ t, v = .text t) ∨ P (.notText v.kind)) : FailsOnly P (texts codes) := by
  induction codes with
  | nil => exact failsOnly_ok _
  | cons v rest ih =>
    obtain ⟨here, others⟩ := List.forall_mem_cons.mp h
    rcases here with ⟨t, rfl⟩ | allowed
    · exact (ih others).map _
    · cases v with
      | text t => exact (ih others).map _
      | _ => exact failsOnly_error allowed

theorem failsOnly_fieldCode (spelled : AllSpelled (fun kind => P (.notText kind)) s)
    (selection : Selection) (overrides : Rule.Overrides) (multi : String) (spec : FieldSpec) :
    FailsOnly P (fieldCode s selection overrides multi spec) := by
  unfold fieldCode
  dsimp only
  split
  · exact failsOnly_ok _
  · split
    · exact failsOnly_ok _
    · apply FailsOnly.map
      unfold chosenCode
      split
      · exact failsOnly_ok _
      · dsimp only
        split
        · exact failsOnly_ok _
        · apply FailsOnly.map
          apply failsOnly_texts
          intro code member
          obtain ⟨chosen, filled⟩ := List.mem_filter.mp member
          obtain ⟨item, _, coded⟩ := List.mem_filterMap.mp chosen
          obtain ⟨o, found, rfl⟩ := Option.map_eq_some_iff.mp coded
          exact spelled spec.collection o (Snapshot.mem_of_option? found) filled

theorem failsOnly_buildSegments (spelled : AllSpelled (fun kind => P (.notText kind)) s)
    (covered : s.table.Covers fields) (selection : Selection) (overrides : Rule.Overrides)
    (multi : String) :
    FailsOnly P (buildSegments s selection overrides multi fields) := by
  induction fields with
  | nil => exact failsOnly_ok _
  | cons e rest ih =>
    obtain ⟨spec, found⟩ := FieldTable.rowOf_of_covers covered List.mem_cons_self "SKU field order"
    obtain ⟨_, others⟩ := List.forall_mem_cons.mp covered
    unfold buildSegments
    rw [found]
    exact (failsOnly_fieldCode spelled selection overrides multi spec).bind fun _ =>
      (ih others).bind fun _ => failsOnly_ok _

theorem failsOnly_build (spelled : AllSpelled (fun kind => P (.notText kind)) s)
    (covered : s.table.Covers fields) (numbered : P .incomparable ∨ CodeField.Numbered fields)
    (none : (∀ e ∈ fields, e.enabled.truthy = false) → P .noFieldOrder) (selection : Selection)
    (overrides : Rule.Overrides) (separators : Separators) :
    FailsOnly P (build selection overrides fields s separators) := by
  apply (failsOnly_enabledOrder numbered none).bind_of_ok
  intro ordered found
  dsimp only
  split
  · exact failsOnly_ok _
  · apply (failsOnly_buildSegments spelled _ selection overrides separators.multi).bind
    · exact fun _ => failsOnly_ok _
    · exact fun e member => covered e (mem_of_enabledOrder found member)

theorem failsOnly_trimmedPieces {separator : String}
    (separated : separator = "" → P .emptySeparator) (text : String) :
    FailsOnly P (trimmedPieces separator text) := by
  unfold trimmedPieces
  split
  · rename_i empty
    exact failsOnly_error (separated (by simpa using empty))
  · exact failsOnly_ok _

theorem failsOnly_codedOptions {options : List CatalogOption}
    (spelled : ∀ o ∈ options, Spelled (fun kind => P (.noAttribute kind "lower")) o) :
    FailsOnly P (codedOptions options) := by
  apply FailsOnly.mapM
  intro o member
  obtain ⟨listed, coded⟩ := List.mem_filter.mp member
  apply FailsOnly.map
  unfold lowerCode
  rcases spelled o listed coded with ⟨t, code⟩ | allowed
  · rw [code]
    exact failsOnly_ok _
  · split
    · exact failsOnly_ok _
    · exact failsOnly_error allowed

theorem failsOnly_matchPieces {options : List CatalogOption}
    (spelled : ∀ o ∈ options, Spelled (fun kind => P (.noAttribute kind "lower")) o)
    (keys : IdSet) (pieces : List String) : FailsOnly P (matchPieces options keys pieces) := by
  induction pieces generalizing keys with
  | nil => exact failsOnly_ok _
  | cons piece rest ih =>
    unfold matchPieces
    split
    · exact (ih keys).bind fun _ => failsOnly_ok _
    · exact (failsOnly_codedOptions spelled).bind fun _ => (ih _).bind fun _ => failsOnly_ok _

theorem failsOnly_candidates (sortable : P .incomparable ∨ s.Sortable)
    (offer : Option (Keyed (List String))) (collection : String) :
    FailsOnly P (candidates s offer collection) := by
  apply (Snapshot.failsOnly_optionsFor sortable collection).bind
  intro options
  split <;> exact failsOnly_ok _

theorem mem_of_candidates {offer : Option (Keyed (List String))} {collection : String}
    {options : List CatalogOption} (h : candidates s offer collection = .ok options)
    {o : CatalogOption} (member : o ∈ options) : o ∈ Keyed.values (s.optionsIn collection) := by
  obtain ⟨all, shown, h⟩ := bind_eq_ok.mp h
  have listed : o ∈ all := by
    split at h
    · obtain rfl := Except.ok.inj h
      exact (List.mem_filter.mp member).1
    · obtain rfl := Except.ok.inj h
      exact member
  exact (s.optionsFor_perm shown).mem_iff.mp listed

theorem failsOnly_readSegment {separators : Separators}
    (sortable : P .incomparable ∨ s.Sortable)
    (separated : separators.multi = "" → P .emptySeparator)
    (spelled : AllSpelled (fun kind => P (.noAttribute kind "lower")) s)
    (offer : Option (Keyed (List String))) (spec : FieldSpec)
    (position : Nat) (order : Value) (raw : Option String) :
    FailsOnly P (readSegment s offer separators spec position order raw) := by
  unfold readSegment
  dsimp only
  split
  · exact failsOnly_ok _
  · apply (failsOnly_candidates sortable offer spec.collection).bind_of_ok
    intro options found
    have matched : ∀ pieces, FailsOnly P (matchPieces options [] pieces) := fun pieces =>
      failsOnly_matchPieces
        (fun o member => spelled spec.collection o (mem_of_candidates found member)) [] pieces
    split
    · exact (failsOnly_trimmedPieces separated _).bind fun pieces =>
        (matched pieces).bind fun _ => failsOnly_ok _
    · exact (matched [raw.getD ""]).bind fun _ => failsOnly_ok _

theorem failsOnly_readSegments {separators : Separators}
    (sortable : P .incomparable ∨ s.Sortable)
    (separated : separators.multi = "" → P .emptySeparator)
    (spelled : AllSpelled (fun kind => P (.noAttribute kind "lower")) s)
    (covered : s.table.Covers fields) (offer : Option (Keyed (List String)))
    (position : Nat) (raws : List String) :
    FailsOnly P (readSegments s offer separators position fields raws) := by
  induction fields generalizing position raws with
  | nil => exact failsOnly_ok _
  | cons e rest ih =>
    obtain ⟨spec, found⟩ := FieldTable.rowOf_of_covers covered List.mem_cons_self "SKU field order"
    obtain ⟨_, others⟩ := List.forall_mem_cons.mp covered
    unfold readSegments
    rw [found]
    exact (failsOnly_readSegment sortable separated spelled _ _ _ _ _).bind fun _ =>
      (ih others _ _).bind fun _ => failsOnly_ok _

/-- A line that is not known is as good as none, so reading does not stop at it. -/
theorem failsOnly_offerOf (sortable : P .incomparable ∨ s.Sortable) (line : Value) :
    FailsOnly P (offerOf s line) := by
  unfold offerOf
  split
  · rename_i known
    apply FailsOnly.map
    apply Snapshot.failsOnly_lineDefaults sortable
    intro unknown
    simp [unknown] at known
  · exact failsOnly_ok _

theorem failsOnly_parse {separators : Separators} (sortable : P .incomparable ∨ s.Sortable)
    (separated : separators.delimiter = "" ∨ separators.multi = "" → P .emptySeparator)
    (spelled : AllSpelled (fun kind => P (.noAttribute kind "lower")) s)
    (covered : s.table.Covers fields) (numbered : P .incomparable ∨ CodeField.Numbered fields)
    (none : (∀ e ∈ fields, e.enabled.truthy = false) → P .noFieldOrder) (sku line : Value) :
    FailsOnly P (parse sku fields s line separators) := by
  apply (failsOnly_enabledOrder numbered none).bind_of_ok
  intro ordered found
  have covers : s.table.Covers ordered := fun e member =>
    covered e (mem_of_enabledOrder found member)
  exact (failsOnly_trimmedPieces (fun empty => separated (Or.inl empty)) _).bind fun _ =>
    (failsOnly_offerOf sortable line).bind fun _ =>
      (failsOnly_readSegments sortable (fun empty => separated (Or.inr empty)) spelled covers
        _ _ _).bind fun _ => failsOnly_ok _

end Sku

end MadeToOrder
