import MadeToOrder.Fault

/-!
# Field table

Catalog data is filed by collection, a selection by field and a rule context by
context key. A table holds one row for each collection, and no two rows share
one of the three names, so each name leads to one row.
-/

set_option autoImplicit false

namespace MadeToOrder

structure FieldSpec where
  collection : String
  field : String
  contextKey : String
  label : String
  required : Bool
  multiSelect : Bool
  productAttribute : Bool
  deriving DecidableEq, Repr

def lineCollection : String := "product_lines"

def FieldSpec.isLine (spec : FieldSpec) : Bool := spec.collection == lineCollection

structure FieldTable where
  specs : List FieldSpec
  collections_nodup : (specs.map FieldSpec.collection).Nodup
  fields_nodup : (specs.map FieldSpec.field).Nodup
  contextKeys_nodup : (specs.map FieldSpec.contextKey).Nodup

namespace FieldTable

def clash? (earlier : List FieldSpec) : List FieldSpec → Option (String × String)
  | [] => none
  | spec :: rest =>
    if spec.collection ∈ earlier.map FieldSpec.collection then
      some ("collection", spec.collection)
    else if spec.field ∈ earlier.map FieldSpec.field then some ("field", spec.field)
    else if spec.contextKey ∈ earlier.map FieldSpec.contextKey then
      some ("context key", spec.contextKey)
    else clash? (spec :: earlier) rest

def Fresh (name : FieldSpec → String) (earlier specs : List FieldSpec) : Prop :=
  (specs.map name).Nodup ∧ ∀ spec ∈ specs, name spec ∉ earlier.map name

theorem fresh_cons {name : FieldSpec → String} {earlier rest : List FieldSpec}
    {spec : FieldSpec} (head : name spec ∉ earlier.map name)
    (tail : Fresh name (spec :: earlier) rest) : Fresh name earlier (spec :: rest) := by
  obtain ⟨distinct, unseen⟩ := tail
  refine ⟨?_, ?_⟩
  · rw [List.map_cons, List.nodup_cons]
    refine ⟨fun member => ?_, distinct⟩
    obtain ⟨other, otherMember, same⟩ := List.mem_map.mp member
    exact unseen other otherMember (by simp [same])
  · intro other member
    rcases List.mem_cons.mp member with rfl | member
    · exact head
    · intro seen
      exact unseen other member (by simp [seen])

theorem fresh_of_clash?_eq_none (earlier specs : List FieldSpec)
    (h : clash? earlier specs = none) :
    Fresh FieldSpec.collection earlier specs ∧ Fresh FieldSpec.field earlier specs ∧
      Fresh FieldSpec.contextKey earlier specs := by
  induction specs generalizing earlier with
  | nil => simp [Fresh]
  | cons spec rest ih =>
    unfold clash? at h
    split at h
    · simp at h
    · rename_i newCollection
      split at h
      · simp at h
      · rename_i newField
        split at h
        · simp at h
        · rename_i newKey
          obtain ⟨collections, fields, keys⟩ := ih (spec :: earlier) h
          exact ⟨fresh_cons newCollection collections, fresh_cons newField fields,
            fresh_cons newKey keys⟩

def ofSpecs (specs : List FieldSpec) : Except Fault FieldTable :=
  match h : clash? [] specs with
  | some (what, key) => .error (.duplicate what key)
  | none =>
    .ok ⟨specs, (fresh_of_clash?_eq_none [] specs h).1.1,
      (fresh_of_clash?_eq_none [] specs h).2.1.1, (fresh_of_clash?_eq_none [] specs h).2.2.1⟩

def empty : FieldTable := ⟨[], List.nodup_nil, List.nodup_nil, List.nodup_nil⟩

variable (table : FieldTable)

def byCollection? (name : String) : Option FieldSpec :=
  table.specs.find? (fun spec => spec.collection = name)

def byField? (name : String) : Option FieldSpec :=
  table.specs.find? (fun spec => spec.field = name)

def byContextKey? (name : String) : Option FieldSpec :=
  table.specs.find? (fun spec => spec.contextKey = name)

/-- A name is a field first, then a context key, then a collection. -/
def resolve? (name : String) : Option FieldSpec :=
  (table.byField? name).or ((table.byContextKey? name).or (table.byCollection? name))

def hasCollection (name : String) : Bool := (table.byCollection? name).isSome

def collections : List String := table.specs.map FieldSpec.collection

def attributes : List FieldSpec := table.specs.filter FieldSpec.productAttribute

def lineSpec? : Option FieldSpec := table.byCollection? lineCollection

def rowOf (name : String) (usedBy : String) : Except Fault FieldSpec :=
  match table.byCollection? name with
  | some spec => .ok spec
  | none => .error (.unmapped (.text name) usedBy)

def rowOfValue (name : Value) (usedBy : String) : Except Fault FieldSpec :=
  match name with
  | .text s => table.rowOf s usedBy
  | v => if v.isHashable then .error (.unmapped v usedBy) else .error (.unhashable v.kind)

def collectionOf? (field : String) : Option String :=
  (table.byField? field).map FieldSpec.collection

def fieldOf (collection : String) : Except Fault String :=
  (table.rowOf collection "").map FieldSpec.field

theorem byCollection?_spec {name : String} {spec : FieldSpec}
    (h : table.byCollection? name = some spec) :
    spec ∈ table.specs ∧ spec.collection = name :=
  ⟨List.mem_of_find?_eq_some h, by simpa using List.find?_some h⟩

theorem byField?_spec {name : String} {spec : FieldSpec}
    (h : table.byField? name = some spec) : spec ∈ table.specs ∧ spec.field = name :=
  ⟨List.mem_of_find?_eq_some h, by simpa using List.find?_some h⟩

/-- A row is found by a name that no other row has. -/
theorem find?_of_mem {specs : List FieldSpec} {name : FieldSpec → String}
    (distinct : (specs.map name).Nodup) {spec : FieldSpec} (member : spec ∈ specs) :
    specs.find? (fun other => name other = name spec) = some spec := by
  induction specs with
  | nil => simp at member
  | cons first rest ih =>
    obtain ⟨fresh, distinct⟩ := List.nodup_cons.mp distinct
    rcases List.mem_cons.mp member with rfl | member
    · simp
    · have other : name first ≠ name spec := fun same => fresh (same ▸ List.mem_map_of_mem member)
      simpa [List.find?_cons, other] using ih distinct member

theorem byCollection?_of_mem {spec : FieldSpec} (member : spec ∈ table.specs) :
    table.byCollection? spec.collection = some spec :=
  find?_of_mem table.collections_nodup member

theorem byField?_of_mem {spec : FieldSpec} (member : spec ∈ table.specs) :
    table.byField? spec.field = some spec :=
  find?_of_mem table.fields_nodup member

theorem mem_specs_of_mem_attributes {spec : FieldSpec} (member : spec ∈ table.attributes) :
    spec ∈ table.specs := (List.mem_filter.mp member).1

theorem attributes_collections_nodup : (table.attributes.map FieldSpec.collection).Nodup :=
  table.collections_nodup.sublist (List.filter_sublist.map FieldSpec.collection)

theorem eq_of_field_eq {a b : FieldSpec} (ha : a ∈ table.specs) (hb : b ∈ table.specs)
    (same : a.field = b.field) : a = b := by
  have found := table.byField?_of_mem ha
  rw [same, table.byField?_of_mem hb] at found
  exact (Option.some.inj found).symm

theorem eq_of_collection_eq {a b : FieldSpec} (ha : a ∈ table.specs) (hb : b ∈ table.specs)
    (same : a.collection = b.collection) : a = b := by
  have found := table.byCollection?_of_mem ha
  rw [same, table.byCollection?_of_mem hb] at found
  exact (Option.some.inj found).symm

end FieldTable

end MadeToOrder
