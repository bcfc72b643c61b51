import MadeToOrder.Proofs.Catalog.Reading
import MadeToOrder.Proofs.Configuration.Faults

/-!
# Mappings are checked at once

A snapshot is only assembled where every collection that its lines and its code fields
refer to has a row in the table, and override rows without one are reported. So the work
on a snapshot never meets a collection without a row.
-/

set_option autoImplicit false

namespace MadeToOrder

open Value (entry entryOr)

variable {table : FieldTable} {records : List Value}

theorem FieldTable.hasCollection_of_rowOfValue {name : Value} {usedBy : String} {spec : FieldSpec}
    (h : table.rowOfValue name usedBy = .ok spec) :
    name = .text spec.collection ∧ table.hasCollection spec.collection = true := by
  unfold rowOfValue at h
  split at h
  · rename_i t
    unfold rowOf at h
    split at h
    · rename_i found
      obtain rfl := Except.ok.inj h
      obtain ⟨_, rfl⟩ := table.byCollection?_spec found
      exact ⟨rfl, by rw [hasCollection, found]; rfl⟩
    · cases h
  · split at h <;> cases h

namespace Assembly

theorem readCodeField_eq_ok {record : Value} {e : CodeField}
    (h : readCodeField table record = .ok e) :
    table.hasCollection e.collection = true ∧ ∃ i, e.order = .int i := by
  obtain ⟨fs, _, h⟩ := bind_eq_ok.mp h
  obtain ⟨spec, row, h⟩ := bind_eq_ok.mp h
  obtain ⟨order, _, h⟩ := bind_eq_ok.mp h
  obtain rfl := Except.ok.inj h
  exact ⟨(FieldTable.hasCollection_of_rowOfValue row).2, order, rfl⟩

theorem readCodeFields_eq_ok {fields : List CodeField}
    (h : readCodeFields table records = .ok fields) :
    table.Covers fields ∧ CodeField.Numbered fields := by
  obtain ⟨entries, read, ordered⟩ := bind_eq_ok.mp h
  have sound : ∀ e ∈ fields, table.hasCollection e.collection = true ∧ ∃ i, e.order = .int i := by
    intro e member
    have listed := (Snapshot.inOrderOf_perm ordered).mem_iff.mp member
    obtain ⟨record, _, result⟩ := (mem_iff_of_mapM read).mp listed
    exact readCodeField_eq_ok result
  exact ⟨fun e member => (sound e member).1, fun e member => (sound e member).2⟩

def productNamed (fs : List (String × Value)) : String :=
  (entryOr fs "products_id" (entry fs "product")).plain

/-- What becomes of an override row: it is kept for a known product and a collection of
the table, or reported for what it lacks. -/
inductive Accounts (table : FieldTable) (products : List String) :
    Value → OverrideRow ⊕ Diagnostic → Prop
  | kept {fs : List (String × Value)} {collection : String}
    (known : productNamed fs ∈ products)
    (named : entryOr fs "collection" (.text "") = .text collection)
    (mapped : table.hasCollection collection = true) :
    Accounts table products (.object fs)
      (.inl ⟨productNamed fs, collection, (entry fs "item").plain⟩)
  | unknown {fs : List (String × Value)} {report : Diagnostic}
    (unknown : productNamed fs ∉ products) (kind : report.kind = .overrideInconsistent)
    (subject : report.subject = .text (productNamed fs)) :
    Accounts table products (.object fs) (.inr report)
  | unmapped {fs : List (String × Value)} {report : Diagnostic}
    (known : productNamed fs ∈ products)
    (unmapped : ∀ collection, entryOr fs "collection" (.text "") = .text collection →
      table.hasCollection collection = false)
    (kind : report.kind = .overrideInconsistent)
    (subject : report.subject = entryOr fs "collection" (.text "")) :
    Accounts table products (.object fs) (.inr report)

theorem accounts_readOverride {products : List String} {record : Value}
    {result : OverrideRow ⊕ Diagnostic} (h : readOverride table products record = .ok result) :
    Accounts table products record result := by
  obtain ⟨fs, shape, h⟩ := bind_eq_ok.mp h
  obtain rfl := Value.fields_eq_ok.mp shape
  by_cases known : productNamed fs ∈ products
  · have found : ¬productNamed fs ∉ products := not_not_intro known
    change (if productNamed fs ∉ products then _ else _) = _ at h
    rw [if_neg found] at h
    split at h
    · rename_i spec row
      obtain rfl := Except.ok.inj h
      obtain ⟨named, mapped⟩ := FieldTable.hasCollection_of_rowOfValue row
      exact .kept known named mapped
    · rename_i missing
      obtain rfl := Except.ok.inj h
      refine .unmapped known (fun collection named => ?_) rfl rfl
      rw [named, FieldTable.rowOfValue, FieldTable.rowOf] at missing
      split at missing
      · cases missing
      · rename_i absent
        rw [FieldTable.hasCollection, absent]
        rfl
    · cases h
  · change (if productNamed fs ∉ products then _ else _) = _ at h
    rw [if_pos known] at h
    obtain rfl := Except.ok.inj h
    exact .unknown known rfl rfl

theorem row_of_accounts {products : List String} {results : List (OverrideRow ⊕ Diagnostic)}
    (accounted : List.Forall₂ (Accounts table products) records results) {row : OverrideRow}
    (member : row ∈ results.filterMap Sum.getLeft?) :
    row.product ∈ products ∧ table.hasCollection row.collection = true := by
  induction accounted with
  | nil => cases member
  | cons first _ ih =>
    cases first with
    | kept known named mapped =>
      rcases List.mem_cons.mp member with rfl | later
      · exact ⟨known, mapped⟩
      · exact ih later
    | unknown | unmapped => exact ih member

def IsActiveLine (record : Value) (key : String) : Prop :=
  ∃ fs id, record = .object fs ∧ (entryOr fs "active" (.bool true)).truthy = true ∧
    Keyed.get? fs "id" = some id ∧ id.plain = key

theorem isActiveLine_iff {record : Value} {found : Option ProductLine}
    (h : readLine table record = .ok found) (key : String) :
    IsActiveLine record key ↔ ∃ l, found = some l ∧ l.id.plain = key := by
  obtain ⟨fs, rfl, read⟩ := readLine_eq_ok h
  unfold IsActiveLine
  cases read with
  | inactive unused => simp [unused]
  | active used named _ _ _ => simp [used, named]

/-- The lines are those of the active records. -/
theorem has_readLines {lines : Keyed ProductLine} (h : readLines table [] records = .ok lines)
    (key : String) :
    Keyed.has lines key = true ↔ ∃ record ∈ records, IsActiveLine record key := by
  obtain ⟨found, read, rfl⟩ := readLines_eq_ok h
  rw [Keyed.has_fileAll]
  constructor
  · rintro (none | ⟨l, listed, own⟩)
    · cases none
    · have member : some l ∈ found := by simpa using listed
      obtain ⟨record, delivered, result⟩ := (mem_iff_of_mapM read).mp member
      exact ⟨record, delivered, (isActiveLine_iff result key).mpr ⟨l, rfl, own⟩⟩
  · rintro ⟨record, delivered, active⟩
    obtain ⟨result, here⟩ := exists_mapM_eq_ok.mp ⟨found, read⟩ record delivered
    obtain ⟨l, rfl, own⟩ := (isActiveLine_iff here key).mp active
    have member : some l ∈ found := (mem_iff_of_mapM read).mpr ⟨record, delivered, here⟩
    exact Or.inr ⟨l, by simpa using member, own⟩

end Assembly

theorem optionsIn_lineCollection {m : Type → Type} [Monad m] [MonadExceptOf Fault m]
    {r : Answering m} {source : Source m} {s : Snapshot} (h : r.Assembled source table s)
    (mapped : table.hasCollection lineCollection = true) :
    s.optionsIn lineCollection = Keyed.mapValues Assembly.lineOption s.lines := by
  obtain ⟨collections, _, filed⟩ := h.options
  rw [if_pos mapped] at filed
  rw [Snapshot.optionsIn, filed, Keyed.get?_put_self, Option.getD_some]

def Fault.IsMapped (fault : Fault) : Prop :=
  ∀ collection usedBy, fault ≠ .unmapped collection usedBy

def Mapped {α : Type} (work : Except Fault α) : Prop := FailsOnly Fault.IsMapped work

theorem isMapped_ofRefusal (id : String) (refusal : Numeral.Refusal) :
    (Fault.ofRefusal id refusal).IsMapped := by
  intro collection usedBy
  cases refusal <;> exact Fault.noConfusion

theorem isMapped_of_stops {fault : Fault} (h : Rule.Stops fault) : fault.IsMapped := by
  rintro collection usedBy rfl
  rcases h with wide | ⟨kind, unhashable⟩
  · cases wide
  · cases unhashable

theorem admits_isMapped {m : Type → Type} [Monad m] [MonadExceptOf Fault m] {r : Answering m}
    {source : Source m} {s : Snapshot} (h : r.Assembled source table s) :
    s.Admits Fault.IsMapped where
  sortable := Or.inl (fun _ _ => Fault.noConfusion)
  unknown _ _ := fun _ _ => Fault.noConfusion
  rules := Or.inr (fun _ => isMapped_of_stops)
  counted _ o _ := fun refusal _ _ => isMapped_ofRefusal o.key refusal
  covered := by
    obtain ⟨records, _, read⟩ := h.codeFields
    rw [h.table_eq]
    exact (Assembly.readCodeFields_eq_ok read).1
  numbered := Or.inl (fun _ _ => Fault.noConfusion)
  enabled _ := fun _ _ => Fault.noConfusion
  spelled := fun _ _ _ _ => Or.inr (fun _ _ => Fault.noConfusion)

/-- On a snapshot that is assembled no collection lacks its row: codes are built and read,
options and configurations computed without that fault. Every override record is kept or
reported, once and in order, and what is kept names a product and a mapped collection.
The lines, where they have a row, are the options of their own collection, under the keys
of the active records. -/
theorem mapping_is_checked {m : Type → Type} [Monad m] [MonadExceptOf Fault m]
    (r : Answering m) (source : Source m) (table : FieldTable) (asOf : String) (s : Snapshot)
    (assembled : r.answers (source.snapshot table asOf) s) :
    (∀ selection overrides separators,
      Mapped (Sku.build selection overrides s.codeFields s separators)) ∧
    (∀ sku line separators, Mapped (Sku.parse sku s.codeFields s line separators)) ∧
    (∀ selection line trigger, Mapped (Availability.compute selection line s trigger)) ∧
    (∀ selection settings, Mapped (Configuration.recompute selection s settings)) ∧
    (∃ records results, r.answers source.overrides records ∧
      List.Forall₂ (Assembly.Accounts table (s.products.map Product.key)) records results ∧
      s.overrides = results.filterMap Sum.getLeft? ∧
      s.diagnostics = results.filterMap Sum.getRight?) ∧
    (∀ row ∈ s.overrides, (∃ p ∈ s.products, p.key = row.product) ∧
      s.table.hasCollection row.collection = true) ∧
    (s.table.hasCollection lineCollection = true →
      s.optionsIn lineCollection = Keyed.mapValues Assembly.lineOption s.lines ∧
      ∃ records, r.answers source.lines records ∧ ∀ key,
        Keyed.has (s.optionsIn lineCollection) key = true ↔
          ∃ record ∈ records, Assembly.IsActiveLine record key) := by
  have parts := r.assembled assembled
  have admits := admits_isMapped parts
  obtain ⟨overrideRecords, asked, rowsRead⟩ := parts.overrides
  obtain ⟨results, read, kept, reported⟩ := Assembly.readOverrides_eq_ok rowsRead
  have accounted : List.Forall₂ (Assembly.Accounts table (s.products.map Product.key))
      overrideRecords results :=
    (mapM_eq_ok_iff.mp read).imp fun _ _ => Assembly.accounts_readOverride
  refine ⟨?_, ?_, ?_, ?_, ⟨overrideRecords, results, asked, accounted, kept, reported⟩, ?_, ?_⟩
  · exact fun selection overrides separators => Sku.failsOnly_build admits.spelled admits.covered
      admits.numbered admits.enabled selection overrides separators
  · exact fun sku line separators => Sku.failsOnly_parse admits.sortable
      (fun _ _ _ => Fault.noConfusion) (fun _ _ _ _ => Or.inr (fun _ _ => Fault.noConfusion))
      admits.covered admits.numbered admits.enabled sku line
  · exact fun selection line trigger => Availability.failsOnly_compute admits
  · intro selection settings
    apply Configuration.failsOnly_recompute admits settings
    exact fun _ _ id _ refusal _ _ => isMapped_ofRefusal id refusal
  · intro row member
    rw [kept] at member
    obtain ⟨known, mapped⟩ := Assembly.row_of_accounts accounted member
    rw [parts.table_eq]
    exact ⟨List.mem_map.mp known, mapped⟩
  · intro mapped
    rw [parts.table_eq] at mapped
    have own := optionsIn_lineCollection parts mapped
    obtain ⟨lineRecords, delivered, linesRead⟩ := parts.lines
    refine ⟨own, lineRecords, delivered, fun key => ?_⟩
    rw [own, Keyed.has, Keyed.get?_mapValues, Option.isSome_map]
    exact Assembly.has_readLines linesRead key

def strayRows : Source (Except Fault) where
  lines := .ok [.object [("id", .text "deco"), ("sku_code", .text "D")],
    .object [("id", .text "neo"), ("active", .bool false)]]
  options _ := .ok [.object [("id", .text "red"), ("sku_code", .text "R")]]
  products := .ok [.object [("id", .int 1), ("product_line", .text "deco")]]
  overrides := .ok [
    .object [("products_id", .int 2), ("collection", .text "colors"), ("item", .text "red")],
    .object [("products_id", .int 1), ("collection", .text "colors"), ("item", .text "red")],
    .object [("products_id", .int 1), ("collection", .text "shapes"), ("item", .text "oval")]]
  rules := .ok []
  codeFields := .ok [.object [("sku_code_item", .text "product_lines"), ("order", .int 1)],
    .object [("sku_code_item", .text "colors"), ("order", .int 2)]]

theorem stray_rows_reported :
    ∃ s, strayRows.snapshot (Configuration.twoColors []).table "" = .ok s ∧
      Mapped (Configuration.recompute Configuration.inRed s Settings.standard) ∧
      Mapped (Sku.parse (.text "D-R") s.codeFields s .null Sku.Separators.standard) ∧
      (∀ row ∈ s.overrides, ∃ p ∈ s.products, p.key = row.product) ∧
      s.overrides = [⟨"1", "colors", "red"⟩] ∧
      s.diagnostics.map Diagnostic.subject = [.text "2", .text "shapes"] ∧
      s.optionsIn lineCollection = Keyed.mapValues Assembly.lineOption s.lines ∧
      Keyed.keys s.lines = ["deco"] := by
  have built : ∃ s, strayRows.snapshot (Configuration.twoColors []).table "" = .ok s ∧
      s.overrides = [⟨"1", "colors", "red"⟩] ∧
      s.diagnostics.map Diagnostic.subject = [.text "2", .text "shapes"] ∧
      s.table.hasCollection lineCollection = true ∧ Keyed.keys s.lines = ["deco"] :=
    ⟨_, rfl, rfl, rfl, rfl, rfl⟩
  obtain ⟨s, assembled, kept, reported, mapped, keys⟩ := built
  obtain ⟨_, reads, _, computes, _, rows, lines⟩ := mapping_is_checked Answering.direct strayRows
    (Configuration.twoColors []).table "" s assembled
  exact ⟨s, assembled, computes _ _, reads _ _ _, fun row member => (rows row member).1, kept,
    reported, (lines mapped).1, keys⟩

end MadeToOrder
