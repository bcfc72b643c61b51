import MadeToOrder.Catalog.Assembly
import MadeToOrder.Proofs.Traversal

/-!
# Sections read record by record

The rows of a section are read one by one, and what is read is filed under its own name.
Where the names are distinct nothing is replaced, so every row keeps an entry. Everything
that a record can be read as is said here once.
-/

set_option autoImplicit false

namespace MadeToOrder

universe u

namespace Keyed

variable {α : Type u} {name : α → String} {m : Keyed α}

def fileAll (name : α → String) (m : Keyed α) (items : List α) : Keyed α :=
  items.foldl (fun m item => put m (name item) item) m

theorem put_of_fresh {key : String} (fresh : key ∉ keys m) (value : α) :
    put m key value = m ++ [(key, value)] := by
  induction m with
  | nil => rfl
  | cons e rest ih =>
    obtain ⟨other, fresh⟩ := not_or.mp (mt List.mem_cons.mpr fresh)
    rw [put, if_neg (Ne.symm other), ih fresh]
    rfl

theorem fileAll_of_nodup {items : List α} (distinct : (keys m ++ items.map name).Nodup) :
    fileAll name m items = m ++ items.map (fun item => (name item, item)) := by
  induction items generalizing m with
  | nil => exact (List.append_nil m).symm
  | cons item rest ih =>
    have fresh : name item ∉ keys m := by
      intro known
      exact (List.nodup_append.mp distinct).2.2 _ known _ List.mem_cons_self rfl
    show fileAll name (put m (name item) item) rest = _
    rw [put_of_fresh fresh, ih]
    · simp
    · simpa [keys] using distinct

theorem mem_fileAll {items : List α} {e : String × α} (h : e ∈ fileAll name m items) :
    e ∈ m ∨ ∃ item ∈ items, e = (name item, item) := by
  induction items generalizing m with
  | nil => exact Or.inl h
  | cons item rest ih =>
    rcases ih h with earlier | ⟨other, later, same⟩
    · apply (mem_put earlier).imp_right
      exact fun same => ⟨item, List.mem_cons_self, same⟩
    · exact Or.inr ⟨other, List.mem_cons_of_mem _ later, same⟩

theorem has_fileAll {items : List α} {key : String} :
    has (fileAll name m items) key = true ↔
      has m key = true ∨ ∃ item ∈ items, name item = key := by
  induction items generalizing m with
  | nil => simp [fileAll]
  | cons item rest ih =>
    show has (fileAll name (put m (name item) item) rest) key = true ↔ _
    rw [ih, has_put, List.exists_mem_cons_iff, or_assoc, or_left_comm, @eq_comm _ key]

end Keyed

namespace Assembly

open Value (entry entryOr)

variable {table : FieldTable} {records : List Value}

def defaultPair (v : Value) : Except Fault (Value × String) := do
  let collection ← v.field "collection"
  let item ← v.field "item"
  return (collection, item.plain)

theorem defaultPairs_eq (rows : List Value) : defaultPairs rows = rows.mapM defaultPair := by
  induction rows with
  | nil => rfl
  | cons v rest ih =>
    rw [defaultPairs, List.mapM_cons, ih]
    simp only [defaultPair, bind_assoc, pure_bind]

def mappedPair (table : FieldTable) (usedBy : String) (pair : Value × String) :
    Except Fault (String × String) := do
  let spec ← table.rowOfValue pair.1 usedBy
  return (spec.collection, pair.2)

theorem mappedPairs_eq (usedBy : String) (pairs : List (Value × String)) :
    mappedPairs table usedBy pairs = pairs.mapM (mappedPair table usedBy) := by
  induction pairs with
  | nil => rfl
  | cons pair rest ih =>
    rw [mappedPairs, List.mapM_cons, ih]
    simp only [mappedPair, bind_assoc, pure_bind]

/-- What the fields of a line record are read as, with rows of defaults that may not be
there. Those of an inactive record are not looked at. -/
inductive ReadAs (table : FieldTable) (fs : List (String × Value))
    (rows : Except Fault (List Value)) : Option ProductLine → Prop
  | inactive (unused : (entryOr fs "active" (.bool true)).truthy = false) :
    ReadAs table fs rows none
  | active {id : Value} {entries : List Value} {pairs : List (Value × String)}
    {defaults : List (String × String)}
    (used : (entryOr fs "active" (.bool true)).truthy = true)
    (named : Keyed.get? fs "id" = some id) (listed : rows = .ok entries)
    (paired : entries.mapM defaultPair = .ok pairs)
    (mapped : pairs.mapM (mappedPair table s!"product line {id.plain} defaults") =
      .ok defaults) :
    ReadAs table fs rows
      (some ⟨id, nameOf fs id, entry fs "sku_code", defaults, entry fs "sort"⟩)

theorem readLine_eq_ok {record : Value} {found : Option ProductLine}
    (h : readLine table record = .ok found) : ∃ fs, record = .object fs ∧
      ReadAs table fs ((entry fs "default_options").orElse (.list [])).iterate found := by
  obtain ⟨fs, shape, h⟩ := bind_eq_ok.mp h
  obtain rfl := Value.fields_eq_ok.mp shape
  refine ⟨fs, rfl, ?_⟩
  split at h
  · rename_i inactive
    obtain rfl := Except.ok.inj h
    exact .inactive (by simpa using inactive)
  · rename_i active
    obtain ⟨id, named, h⟩ := bind_eq_ok.mp h
    obtain ⟨entries, listed, h⟩ := bind_eq_ok.mp h
    obtain ⟨pairs, paired, h⟩ := bind_eq_ok.mp h
    obtain ⟨defaults, mapped, h⟩ := bind_eq_ok.mp h
    obtain rfl := Except.ok.inj h
    obtain ⟨gs, same, named⟩ := Value.field_eq_ok.mp named
    obtain rfl := Value.object.inj same
    rw [defaultPairs_eq] at paired
    rw [mappedPairs_eq] at mapped
    exact .active (by simpa using active) named listed paired mapped

theorem readOption_eq_ok {collection : String} {record : Value} {o : CatalogOption}
    (h : readOption collection record = .ok o) :
    ∃ fs id code, record = .object fs ∧ Keyed.get? fs "id" = some id ∧
      o = ⟨id, nameOf fs id, .text code, collection, entry fs "sort",
        entryOr fs "active" (.bool true)⟩ := by
  obtain ⟨id, named, h⟩ := bind_eq_ok.mp h
  obtain ⟨fs, shape, h⟩ := bind_eq_ok.mp h
  obtain ⟨code, _, h⟩ := bind_eq_ok.mp h
  obtain rfl := Value.fields_eq_ok.mp shape
  obtain ⟨gs, same, named⟩ := Value.field_eq_ok.mp named
  obtain rfl := Value.object.inj same
  exact ⟨fs, id, _, rfl, named, (Except.ok.inj h).symm⟩

theorem readLines_eq_ok {lines result : Keyed ProductLine}
    (h : readLines table lines records = .ok result) :
    ∃ found, records.mapM (readLine table) = .ok found ∧
      result = Keyed.fileAll (fun l => l.id.plain) lines (found.filterMap id) := by
  induction records generalizing lines with
  | nil => exact ⟨[], rfl, (Except.ok.inj h).symm⟩
  | cons record rest ih =>
    obtain ⟨first, here, h⟩ := bind_eq_ok.mp h
    cases first with
    | none | some =>
      obtain ⟨others, later, filed⟩ := ih h
      exact ⟨_ :: others, mapM_cons_eq_ok here later, filed⟩

theorem readOptions_eq_ok {collection : String} {options result : Keyed CatalogOption}
    (h : readOptions collection options records = .ok result) :
    ∃ found, records.mapM (readOption collection) = .ok found ∧
      result = Keyed.fileAll CatalogOption.key options
        (found.filter (fun o => o.active.truthy)) := by
  induction records generalizing options with
  | nil => exact ⟨[], rfl, (Except.ok.inj h).symm⟩
  | cons record rest ih =>
    obtain ⟨o, here, h⟩ := bind_eq_ok.mp h
    by_cases active : o.active.truthy = true
    · rw [if_pos active] at h
      obtain ⟨others, later, filed⟩ := ih h
      exact ⟨o :: others, mapM_cons_eq_ok here later, by simp [filed, active, Keyed.fileAll]⟩
    · rw [if_neg active] at h
      obtain ⟨others, later, filed⟩ := ih h
      exact ⟨o :: others, mapM_cons_eq_ok here later, by simp [filed, active]⟩

theorem readOverrides_eq_ok {products : List String} {kept : List OverrideRow}
    {reports : List Diagnostic}
    (h : readOverrides table products records = .ok (kept, reports)) :
    ∃ results, records.mapM (readOverride table products) = .ok results ∧
      kept = results.filterMap Sum.getLeft? ∧ reports = results.filterMap Sum.getRight? := by
  induction records generalizing kept reports with
  | nil =>
    obtain ⟨rfl, rfl⟩ := Prod.mk.inj (Except.ok.inj h)
    exact ⟨[], rfl, rfl, rfl⟩
  | cons record rest ih =>
    obtain ⟨first, here, h⟩ := bind_eq_ok.mp h
    obtain ⟨⟨rows, notes⟩, later, h⟩ := bind_eq_ok.mp h
    obtain ⟨results, read, rfl, rfl⟩ := ih later
    refine ⟨first :: results, mapM_cons_eq_ok here read, ?_⟩
    cases first with
    | inl row =>
      obtain ⟨rfl, rfl⟩ := Prod.mk.inj (Except.ok.inj h)
      exact ⟨rfl, rfl⟩
    | inr report =>
      obtain ⟨rfl, rfl⟩ := Prod.mk.inj (Except.ok.inj h)
      exact ⟨rfl, rfl⟩

/-- An option of a section is read from an active record. -/
theorem mem_readOptions {collection : String} {options : Keyed CatalogOption}
    (h : readOptions collection [] records = .ok options) {e : String × CatalogOption}
    (member : e ∈ options) : e.2.active.truthy = true ∧
      ∃ record ∈ records, readOption collection record = .ok e.2 := by
  obtain ⟨found, read, rfl⟩ := readOptions_eq_ok h
  rcases Keyed.mem_fileAll member with none | ⟨o, listed, rfl⟩
  · cases none
  · obtain ⟨listed, active⟩ := List.mem_filter.mp listed
    exact ⟨active, (mem_iff_of_mapM read).mp listed⟩

end Assembly

end MadeToOrder
