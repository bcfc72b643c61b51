import MadeToOrder.Catalog.File
import MadeToOrder.Proofs.Catalog.Alike

/-!
# Documents with rows in another order

Two documents hold the same rows in another order, and each line its default options.
Where ids are distinct within the lines and within each collection, and every sort value
is a number or nothing, their snapshots are alike.
-/

set_option autoImplicit false

namespace MadeToOrder

open Value (entry entryOr)

variable {table : FieldTable} {records records' : List Value}

/-- No two records have ids of the same text. -/
def DistinctIds (records : List Value) : Prop :=
  records.Pairwise (fun r q => ∀ i j, r.field "id" = .ok i → q.field "id" = .ok j →
    i.plain ≠ j.plain)

/-- Every sort value is a number or nothing. -/
def PlacedRecords (records : List Value) : Prop :=
  ∀ fs, .object fs ∈ records → (entry fs "sort").isPlaced = true

theorem DistinctIds.perm (h : DistinctIds records) (perm : records.Perm records') :
    DistinctIds records' :=
  (perm.pairwise_iff fun apart i j first second => (apart j i second first).symm).mp h

namespace Assembly

/-- With distinct ids the options of a collection are those of its active records, each
under its own key. -/
theorem readOptions_of_distinct {collection : String} {options : Keyed CatalogOption}
    (distinct : DistinctIds records) (h : readOptions collection [] records = .ok options) :
    ∃ found, records.mapM (readOption collection) = .ok found ∧
      options = (found.filter (fun o => o.active.truthy)).map (fun o => (o.key, o)) := by
  obtain ⟨found, read, rfl⟩ := readOptions_eq_ok h
  have apart : found.Pairwise (fun a b => a.key ≠ b.key) := by
    apply pairwise_of_mapM read distinct
    intro record record' o o' first second apart
    obtain ⟨fs, id, _, rfl, named, rfl⟩ := readOption_eq_ok first
    obtain ⟨fs', id', _, rfl, named', rfl⟩ := readOption_eq_ok second
    exact apart id id' (Value.field_eq_ok.mpr ⟨fs, rfl, named⟩)
      (Value.field_eq_ok.mpr ⟨fs', rfl, named'⟩)
  refine ⟨found, read, Keyed.fileAll_of_nodup ?_⟩
  exact List.pairwise_map.mpr (apart.filter _)

theorem perm_readOptions {collection : String} {options options' : Keyed CatalogOption}
    (perm : records.Perm records') (distinct : DistinctIds records)
    (h : readOptions collection [] records = .ok options)
    (h' : readOptions collection [] records' = .ok options') : options.Perm options' := by
  obtain ⟨found, read, rfl⟩ := readOptions_of_distinct distinct h
  obtain ⟨found', read', rfl⟩ := readOptions_of_distinct (distinct.perm perm) h'
  exact ((perm_of_mapM perm read read').filter _).map _

theorem placed_readOptions {collection : String} {options : Keyed CatalogOption}
    (placed : PlacedRecords records) (h : readOptions collection [] records = .ok options) :
    ∀ o ∈ Keyed.values options, o.sort.isPlaced = true := by
  intro o listed
  obtain ⟨e, member, rfl⟩ := List.mem_map.mp listed
  obtain ⟨_, record, delivered, result⟩ := mem_readOptions h member
  obtain ⟨fs, _, _, rfl, _, o⟩ := readOption_eq_ok result
  rw [o]
  exact placed fs delivered

theorem perm_readOverrides {products products' : List String} {kept kept' : List OverrideRow}
    {reports reports' : List Diagnostic} (perm : records.Perm records')
    (same : products.Perm products')
    (h : readOverrides table products records = .ok (kept, reports))
    (h' : readOverrides table products' records' = .ok (kept', reports')) :
    kept.Perm kept' := by
  have alike : readOverride table products = readOverride table products' := by
    funext record
    unfold readOverride
    simp only [same.mem_iff]
  obtain ⟨results, read, rfl, _⟩ := readOverrides_eq_ok h
  obtain ⟨results', read', rfl, _⟩ := readOverrides_eq_ok h'
  exact (perm_of_mapM perm (alike ▸ read) read').filterMap _

end Assembly

structure ProductLine.Alike (l l' : ProductLine) : Prop where
  id : l'.id = l.id
  option : Assembly.lineOption l' = Assembly.lineOption l
  defaults : l.defaults.Perm l'.defaults

namespace CatalogFile

def SameDefaults (v v' : Value) : Prop :=
  ∃ rows rows', defaultRows v = .ok rows ∧ defaultRows v' = .ok rows' ∧ rows.Perm rows'

def SameFields (fs fs' : List (String × Value)) : Prop :=
  ∀ key, key ≠ "default_options" → Keyed.get? fs' key = Keyed.get? fs key

def SameLine (record record' : Value) : Prop :=
  ∃ fs fs', record = .object fs ∧ record' = .object fs' ∧ SameFields fs fs' ∧
    SameDefaults (entry fs "default_options") (entry fs' "default_options")

theorem readAs_of_sameFields {fs fs' : List (String × Value)}
    {rows : Except Fault (List Value)} {found : Option ProductLine} (same : SameFields fs fs')
    (h : Assembly.ReadAs table fs' rows found) : Assembly.ReadAs table fs rows found := by
  have entries : ∀ key, key ≠ "default_options" → entry fs' key = entry fs key := by
    intro key other
    rw [entry, same key other, entry]
  have given : entryOr fs' "active" (.bool true) = entryOr fs "active" (.bool true) := by
    rw [entryOr, same "active" (by decide), entryOr]
  cases h with
  | inactive unused => exact .inactive (given ▸ unused)
  | active used named listed paired mapped =>
    rw [Assembly.nameOf, entries "name" (by decide), entries "sku_code" (by decide),
      entries "sort" (by decide)]
    rw [same "id" (by decide)] at named
    exact .active (given ▸ used) named listed paired mapped

/-- Rows of defaults in another order give the same line. -/
theorem alike_of_readAs {fs : List (String × Value)} {rows rows' : List Value}
    {found found' : Option ProductLine} (perm : rows.Perm rows')
    (h : Assembly.ReadAs table fs (.ok rows) found)
    (h' : Assembly.ReadAs table fs (.ok rows') found') :
    Option.Rel ProductLine.Alike found found' := by
  cases h with
  | inactive unused =>
    cases h' with
    | inactive _ => exact .none
    | active used => exact absurd (unused.symm.trans used) (by decide)
  | active used named listed paired mapped =>
    cases h' with
    | inactive unused => exact absurd (unused.symm.trans used) (by decide)
    | active _ named' listed' paired' mapped' =>
      obtain rfl := Option.some.inj (named.symm.trans named')
      obtain rfl := Except.ok.inj listed
      obtain rfl := Except.ok.inj listed'
      exact .some ⟨rfl, rfl, perm_of_mapM (perm_of_mapM perm paired paired') mapped mapped'⟩

def readRow (table : FieldTable) (record : Value) : Except Fault (Option ProductLine) :=
  lineRecord record >>= Assembly.readLine table

theorem readRow_eq_ok {record : Value} {found : Option ProductLine}
    (h : readRow table record = .ok found) : ∃ fs rows, record = .object fs ∧
      defaultRows (entry fs "default_options") = .ok rows ∧
      Assembly.ReadAs table fs (.ok rows) found := by
  obtain ⟨delivered, spread, h⟩ := bind_eq_ok.mp h
  obtain ⟨fs, shape, spread⟩ := bind_eq_ok.mp spread
  obtain ⟨rows, listed, spread⟩ := bind_eq_ok.mp spread
  obtain rfl := Except.ok.inj spread
  obtain ⟨_, same, read⟩ := Assembly.readLine_eq_ok h
  obtain rfl := Value.object.inj same
  have own : ((entry (Keyed.put fs "default_options" (.list rows)) "default_options").orElse
      (.list [])).iterate = .ok rows := by
    rw [entry, Keyed.get?_put_self]
    cases rows <;> rfl
  rw [own] at read
  refine ⟨fs, rows, Value.spread_eq_ok.mp shape, listed, ?_⟩
  exact readAs_of_sameFields (fun key other => Keyed.get?_put_of_ne fs (.list rows) other) read

theorem alike_readRow {record record' : Value} {found found' : Option ProductLine}
    (same : SameLine record record') (h : readRow table record = .ok found)
    (h' : readRow table record' = .ok found') : Option.Rel ProductLine.Alike found found' := by
  obtain ⟨fs, fs', rfl, rfl, fields, rows, rows', listed, listed', perm⟩ := same
  obtain ⟨gs, _, shape, own, read⟩ := readRow_eq_ok h
  obtain ⟨gs', _, shape', own', read'⟩ := readRow_eq_ok h'
  obtain rfl := Value.object.inj shape
  obtain rfl := Value.object.inj shape'
  obtain rfl := Except.ok.inj (listed.symm.trans own)
  obtain rfl := Except.ok.inj (listed'.symm.trans own')
  exact alike_of_readAs perm read (readAs_of_sameFields fields read')

theorem line_of_readRow {record : Value} {l : ProductLine}
    (h : readRow table record = .ok (some l)) : record.field "id" = .ok l.id ∧
      ∃ fs, record = .object fs ∧ l.sort = entry fs "sort" := by
  obtain ⟨fs, rows, rfl, _, read⟩ := readRow_eq_ok h
  cases read with
  | active _ named _ _ _ => exact ⟨Value.field_eq_ok.mpr ⟨fs, rfl, named⟩, fs, rfl, rfl⟩

/-- With distinct ids the lines are those of the active records, each under its own key. -/
theorem readLines_of_distinct {rows : List Value} {lines : Keyed ProductLine}
    (distinct : DistinctIds rows) (delivered : rows.mapM lineRecord = .ok records)
    (h : Assembly.readLines table [] records = .ok lines) :
    ∃ found, rows.mapM (readRow table) = .ok found ∧
      lines = (found.filterMap id).map (fun l => (l.id.plain, l)) := by
  obtain ⟨found, read, rfl⟩ := Assembly.readLines_eq_ok h
  have all : rows.mapM (readRow table) = .ok found := mapM_bind_eq_ok delivered read
  have apart : (found.filterMap id).Pairwise (fun a b => a.id.plain ≠ b.id.plain) := by
    apply List.pairwise_filterMap.mpr
    apply pairwise_of_mapM all distinct
    rintro record record' _ _ first second apart l rfl l' rfl
    exact apart l.id l'.id (line_of_readRow first).1 (line_of_readRow second).1
  exact ⟨found, all, Keyed.fileAll_of_nodup (List.pairwise_map.mpr apart)⟩

theorem SameLine.field_id {record record' : Value} (h : SameLine record record') :
    record'.field "id" = record.field "id" := by
  obtain ⟨fs, fs', rfl, rfl, same, _⟩ := h
  simp only [Value.field, same "id" (by decide)]

theorem distinct_of_sameLine (h : List.Forall₂ SameLine records records')
    (distinct : DistinctIds records) : DistinctIds records' := by
  have ids : records'.map (Value.field "id") = records.map (Value.field "id") := by
    induction h with
    | nil => rfl
    | cons first _ ih =>
      rw [List.map_cons, List.map_cons, first.field_id, ih (List.pairwise_cons.mp distinct).2]
  have apart : (records.map (Value.field "id")).Pairwise (fun x y => ∀ i j, x = .ok i → y = .ok j →
      i.plain ≠ j.plain) := List.pairwise_map.mpr distinct
  rw [← ids] at apart
  exact List.pairwise_map.mp apart

def SameLines (rows rows' : List Value) : Prop :=
  ∃ moved, rows.Perm moved ∧ List.Forall₂ SameLine moved rows'

def LineEntry (e e' : String × ProductLine) : Prop := e'.1 = e.1 ∧ e.2.Alike e'.2

theorem exists_moved_readLines {rows rows' : List Value} {lines lines' : Keyed ProductLine}
    (same : SameLines rows rows') (distinct : DistinctIds rows)
    (delivered : rows.mapM lineRecord = .ok records)
    (delivered' : rows'.mapM lineRecord = .ok records')
    (h : Assembly.readLines table [] records = .ok lines)
    (h' : Assembly.readLines table [] records' = .ok lines') :
    ∃ moved, lines.Perm moved ∧ List.Forall₂ LineEntry moved lines' := by
  -- the rows are moved first, then each line has its defaults rearranged in place
  obtain ⟨middle, perm, alike⟩ := same
  have distinct' : DistinctIds rows' := distinct_of_sameLine alike (distinct.perm perm)
  obtain ⟨found, read, rfl⟩ := readLines_of_distinct distinct delivered h
  obtain ⟨found', read', rfl⟩ := readLines_of_distinct distinct' delivered' h'
  obtain ⟨others, between, permuted⟩ := exists_mapM_of_perm perm read
  refine ⟨(others.filterMap id).map (fun l => (l.id.plain, l)), (permuted.filterMap id).map _, ?_⟩
  have related : List.Forall₂ (Option.Rel ProductLine.Alike) others found' :=
    forall₂_of_mapM alike between read' fun _ _ _ _ => alike_readRow
  apply List.forall₂_map_left_iff.mpr
  apply List.forall₂_map_right_iff.mpr
  apply (List.rel_filterMap (fun _ _ same => same) related).imp
  exact fun l l' same => ⟨congrArg Value.plain same.id, same⟩

theorem rel_get?_of_lineEntry {lines lines' : Keyed ProductLine}
    (h : List.Forall₂ LineEntry lines lines') (key : String) :
    Option.Rel (fun l l' : ProductLine => l.defaults.Perm l'.defaults) (Keyed.get? lines key)
      (Keyed.get? lines' key) := by
  induction h with
  | nil => exact .none
  | cons first _ ih =>
    rw [Keyed.get?, Keyed.get?, first.1]
    split
    · exact .some first.2.defaults
    · exact ih

theorem lineOptions_of_lineEntry {lines lines' : Keyed ProductLine}
    (h : List.Forall₂ LineEntry lines lines') :
    Keyed.mapValues Assembly.lineOption lines' = Keyed.mapValues Assembly.lineOption lines := by
  induction h with
  | nil => rfl
  | cons first _ ih =>
    rw [Keyed.mapValues, List.map_cons, first.1, first.2.option]
    exact congrArg _ ih

theorem placed_lineOptions {rows : List Value} {lines : Keyed ProductLine}
    (placed : PlacedRecords rows) (delivered : rows.mapM lineRecord = .ok records)
    (h : Assembly.readLines table [] records = .ok lines) :
    ∀ o ∈ Keyed.values (Keyed.mapValues Assembly.lineOption lines), o.sort.isPlaced = true := by
  obtain ⟨found, read, rfl⟩ := Assembly.readLines_eq_ok h
  intro o listed
  have filed : ∃ e ∈ Keyed.fileAll (fun l => l.id.plain) [] (found.filterMap id),
      Assembly.lineOption e.2 = o := by
    simpa [Keyed.values, Keyed.mapValues] using listed
  obtain ⟨e, filed, rfl⟩ := filed
  rcases Keyed.mem_fileAll filed with none | ⟨l, member, rfl⟩
  · cases none
  · have active : some l ∈ found := by simpa using member
    obtain ⟨record, listed, result⟩ := (mem_iff_of_mapM (mapM_bind_eq_ok delivered read)).mp active
    obtain ⟨_, fs, rfl, sort⟩ := line_of_readRow result
    show l.sort.isPlaced = true
    rw [sort]
    exact placed fs listed

/-- The same rows in every section. Rows of lines, options, products and overrides may be
in another order, and so may the defaults of each line. -/
structure Shuffled (file file' : CatalogFile) : Prop where
  lines : Paired SameLines (file.rows "product_lines") (file'.rows "product_lines")
  options : ∀ collection, Paired List.Perm (file.options collection) (file'.options collection)
  products : Paired List.Perm file.products file'.products
  overrides : Paired List.Perm file.overrides file'.overrides
  rules : file'.rules = file.rules
  codeFields : file'.codeFields = file.codeFields

/-- Ids are distinct within the lines and within each collection, and the sort values of
both are nothing or numbers with a place. -/
structure Orderly (file : CatalogFile) : Prop where
  distinctLines : ∀ rows, file.rows "product_lines" = .ok rows → DistinctIds rows
  distinctOptions : ∀ collection rows, file.options collection = .ok rows → DistinctIds rows
  placedLines : ∀ rows, file.rows "product_lines" = .ok rows → PlacedRecords rows
  placedOptions : ∀ collection rows, file.options collection = .ok rows → PlacedRecords rows

variable {file file' : CatalogFile}

def CollectionEntry (e e' : String × Keyed CatalogOption) : Prop := e'.1 = e.1 ∧ e.2.Perm e'.2

theorem perm_fetchOptions (shuffled : file.Shuffled file') (orderly : file.Orderly)
    {specs : List FieldSpec} {collections collections' : Keyed (Keyed CatalogOption)}
    (h : Assembly.fetchOptions file.source specs = .ok collections)
    (h' : Assembly.fetchOptions file'.source specs = .ok collections') :
    List.Forall₂ CollectionEntry collections collections' := by
  induction specs generalizing collections collections' with
  | nil =>
    obtain rfl := Except.ok.inj h
    obtain rfl := Except.ok.inj h'
    exact .nil
  | cons spec rest ih =>
    unfold Assembly.fetchOptions at h h'
    by_cases line : spec.isLine = true
    · rw [if_pos line] at h h'
      exact ih h h'
    · rw [if_neg line] at h h'
      obtain ⟨records, delivered, h⟩ := bind_eq_ok.mp h
      obtain ⟨options, read, h⟩ := bind_eq_ok.mp h
      obtain ⟨others, later, h⟩ := bind_eq_ok.mp h
      obtain rfl := Except.ok.inj h
      obtain ⟨records', delivered', h'⟩ := bind_eq_ok.mp h'
      obtain ⟨options', read', h'⟩ := bind_eq_ok.mp h'
      obtain ⟨others', later', h'⟩ := bind_eq_ok.mp h'
      obtain rfl := Except.ok.inj h'
      rw [Answering.ofExcept_eq] at read read'
      have perm : records.Perm records' :=
        (shuffled.options spec.collection).related delivered delivered'
      have distinct := orderly.distinctOptions spec.collection records delivered
      exact .cons ⟨rfl, Assembly.perm_readOptions perm distinct read read'⟩ (ih later later')

theorem perm_get?_of_collectionEntry {collections collections' : Keyed (Keyed CatalogOption)}
    (h : List.Forall₂ CollectionEntry collections collections') (collection : String) :
    ((Keyed.get? collections collection).getD []).Perm
      ((Keyed.get? collections' collection).getD []) := by
  induction h with
  | nil => exact .refl _
  | cons first _ ih =>
    rw [Keyed.get?, Keyed.get?, first.1]
    split
    · exact first.2
    · exact ih

theorem eq_of_same_rows {α : Type} {read : List Value → Except Fault α}
    {rows rows' : Except Fault (List Value)} {a a' : α} (same : rows' = rows)
    (h : ∃ records, rows = .ok records ∧ read records = .ok a)
    (h' : ∃ records, rows' = .ok records ∧ read records = .ok a') : a' = a := by
  obtain ⟨records, rfl, result⟩ := h
  obtain ⟨_, here, result'⟩ := h'
  obtain rfl := Except.ok.inj (same.symm.trans here)
  exact Except.ok.inj (result'.symm.trans result)

section

variable {s s' : Snapshot} (shuffled : file.Shuffled file') (orderly : file.Orderly)
  (parts : Answering.direct.Assembled file.source table s)
  (parts' : Answering.direct.Assembled file'.source table s')

include shuffled orderly parts parts'

theorem Shuffled.exists_moved_lines : ∃ moved, s.lines.Perm moved ∧
    List.Forall₂ LineEntry moved s'.lines := by
  obtain ⟨records, delivered, read⟩ := parts.lines
  obtain ⟨records', delivered', read'⟩ := parts'.lines
  obtain ⟨rows, listed, spread⟩ := bind_eq_ok.mp delivered
  obtain ⟨rows', listed', spread'⟩ := bind_eq_ok.mp delivered'
  exact exists_moved_readLines (shuffled.lines.related listed listed')
    (orderly.distinctLines rows listed) spread spread' read read'

theorem Shuffled.perm_optionsIn (collection : String) :
    (s.optionsIn collection).Perm (s'.optionsIn collection) := by
  obtain ⟨moved, permuted, entries⟩ := shuffled.exists_moved_lines orderly parts parts'
  obtain ⟨collections, fetched, filed⟩ := parts.options
  obtain ⟨collections', fetched', filed'⟩ := parts'.options
  have collected := perm_get?_of_collectionEntry
    (perm_fetchOptions shuffled orderly fetched fetched') collection
  unfold Snapshot.optionsIn
  rw [filed, filed']
  split
  · by_cases own : collection = lineCollection
    · rw [own, Keyed.get?_put_self, Keyed.get?_put_self, lineOptions_of_lineEntry entries]
      exact permuted.map _
    · rw [Keyed.get?_put_of_ne _ _ own, Keyed.get?_put_of_ne _ _ own]
      exact collected
  · exact collected

omit orderly in
theorem Shuffled.perm_products : s.products.Perm s'.products := by
  obtain ⟨records, delivered, read⟩ := parts.products
  obtain ⟨records', delivered', read'⟩ := parts'.products
  exact perm_of_mapM (shuffled.products.related delivered delivered') read read'

omit orderly in
theorem Shuffled.perm_overrides : s.overrides.Perm s'.overrides := by
  obtain ⟨records, delivered, read⟩ := parts.overrides
  obtain ⟨records', delivered', read'⟩ := parts'.overrides
  have products := shuffled.perm_products parts parts'
  exact Assembly.perm_readOverrides (shuffled.overrides.related delivered delivered')
    (products.map Product.key) read read'

omit shuffled parts' in
theorem Orderly.placed (collection : String) :
    ∀ o ∈ Keyed.values (s.optionsIn collection), o.sort.isPlaced = true := by
  intro o listed
  obtain ⟨options, member, listed⟩ := Snapshot.exists_of_mem_optionsIn listed
  rcases parts.mem_options _ member with ⟨records, delivered, read⟩ | ⟨_, same⟩
  · exact Assembly.placed_readOptions (orderly.placedOptions _ records delivered) read o listed
  · obtain ⟨records, delivered, read⟩ := parts.lines
    obtain ⟨rows, delivered, spread⟩ := bind_eq_ok.mp delivered
    obtain rfl : options = _ := same
    exact placed_lineOptions (orderly.placedLines rows delivered) spread read o listed

/-- Shuffled documents give alike snapshots. -/
theorem Shuffled.alike : s.Alike s' where
  table := parts'.table_eq.trans parts.table_eq.symm
  lines key := by
    obtain ⟨moved, permuted, entries⟩ := shuffled.exists_moved_lines orderly parts parts'
    obtain ⟨records, _, read⟩ := parts.lines
    have distinct := (Assembly.readLines_filedBy read).distinct
    rw [Keyed.get?_eq_of_perm permuted distinct]
    exact rel_get?_of_lineEntry entries key
  options := shuffled.perm_optionsIn orderly parts parts'
  filed := parts.filed
  placed := orderly.placed parts
  products := shuffled.perm_products parts parts'
  overrides := shuffled.perm_overrides parts parts'
  rules := eq_of_same_rows shuffled.rules parts.rules parts'.rules
  codeFields := eq_of_same_rows shuffled.codeFields parts.codeFields parts'.codeFields

end

end CatalogFile

end MadeToOrder
