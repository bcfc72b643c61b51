import Mathlib.Data.List.Duplicate
import MadeToOrder.FieldTable

/-!
# Finding rows by name

A list of rows is refused exactly where two rows share a name of one kind. In a table
each row is found by each of its names, fields and collections lead to one another, and
a name that could be of several kinds is read as a field first, then as a context key,
and as a collection last.
-/

set_option autoImplicit false

namespace MadeToOrder.FieldTable

def Shared (name : FieldSpec → String) (specs : List FieldSpec) : Prop :=
  ∃ key, List.Duplicate key (specs.map name)

/-- The row that a name of any kind stands for. -/
inductive Meant (specs : List FieldSpec) (name : String) : FieldSpec → Prop
  | field {spec : FieldSpec} (member : spec ∈ specs) (named : spec.field = name) :
    Meant specs name spec
  | contextKey {spec : FieldSpec} (member : spec ∈ specs) (named : spec.contextKey = name)
    (noField : ∀ other ∈ specs, other.field ≠ name) : Meant specs name spec
  | collection {spec : FieldSpec} (member : spec ∈ specs) (named : spec.collection = name)
    (noField : ∀ other ∈ specs, other.field ≠ name)
    (noContextKey : ∀ other ∈ specs, other.contextKey ≠ name) : Meant specs name spec

section Building

variable {name : FieldSpec → String} {specs earlier rest : List FieldSpec} {spec : FieldSpec}

theorem not_shared_iff : ¬Shared name specs ↔ (specs.map name).Nodup := by
  rw [Shared, List.exists_duplicate_iff_not_nodup, not_not]

theorem fresh_nil_iff : Fresh name [] specs ↔ (specs.map name).Nodup := by
  simp [Fresh]

theorem Fresh.head (h : Fresh name earlier (spec :: rest)) : name spec ∉ earlier.map name :=
  h.2 spec List.mem_cons_self

theorem Fresh.tail (h : Fresh name earlier (spec :: rest)) :
    Fresh name (spec :: earlier) rest := by
  obtain ⟨distinct, unseen⟩ := h
  obtain ⟨here, distinct⟩ := List.nodup_cons.mp distinct
  refine ⟨distinct, fun other member seen => ?_⟩
  rcases List.mem_cons.mp seen with same | seen
  · exact here (same ▸ List.mem_map_of_mem member)
  · exact unseen other (List.mem_cons_of_mem _ member) seen

theorem clash?_of_fresh (collections : Fresh FieldSpec.collection earlier specs)
    (fields : Fresh FieldSpec.field earlier specs)
    (keys : Fresh FieldSpec.contextKey earlier specs) : clash? earlier specs = none := by
  induction specs generalizing earlier with
  | nil => rfl
  | cons spec rest ih =>
    rw [clash?, if_neg collections.head, if_neg fields.head, if_neg keys.head]
    exact ih collections.tail fields.tail keys.tail

theorem clash?_eq_none_iff : clash? [] specs = none ↔
    ¬(Shared FieldSpec.collection specs ∨ Shared FieldSpec.field specs ∨
      Shared FieldSpec.contextKey specs) := by
  simp only [not_or, not_shared_iff, ← fresh_nil_iff]
  constructor
  · exact fresh_of_clash?_eq_none [] specs
  · rintro ⟨collections, fields, keys⟩
    exact clash?_of_fresh collections fields keys

theorem specs_of_ofSpecs {table : FieldTable} (built : ofSpecs specs = .ok table) :
    table.specs = specs := by
  unfold ofSpecs at built
  split at built
  · cases built
  · cases built
    rfl

theorem ofSpecs_eq_error_iff {fault : Fault} : ofSpecs specs = .error fault ↔
    ∃ what key, clash? [] specs = some (what, key) ∧ fault = .duplicate what key := by
  unfold ofSpecs
  split
  next what key clash => simp [clash, eq_comm]
  next sound => simp [sound]

theorem refused_iff : (∃ fault, ofSpecs specs = .error fault) ↔
    Shared FieldSpec.collection specs ∨ Shared FieldSpec.field specs ∨
      Shared FieldSpec.contextKey specs := by
  rw [← not_iff_not, ← clash?_eq_none_iff, Option.eq_none_iff_forall_not_mem, Prod.forall]
  simp only [ofSpecs_eq_error_iff]
  constructor
  · intro accepted what key clash
    exact accepted ⟨_, what, key, clash, rfl⟩
  · rintro sound ⟨fault, what, key, clash, _⟩
    exact sound what key clash

end Building

section Looking

variable {table : FieldTable} {spec : FieldSpec} {name field collection : String}

theorem find?_eq_some_iff {specs : List FieldSpec} {nameOf : FieldSpec → String}
    (distinct : (specs.map nameOf).Nodup) :
    specs.find? (fun other => nameOf other = name) = some spec ↔
      spec ∈ specs ∧ nameOf spec = name := by
  constructor
  · intro found
    exact ⟨List.mem_of_find?_eq_some found, by simpa using List.find?_some found⟩
  · rintro ⟨member, rfl⟩
    exact find?_of_mem distinct member

theorem byField?_eq_some_iff :
    table.byField? name = some spec ↔ spec ∈ table.specs ∧ spec.field = name :=
  find?_eq_some_iff table.fields_nodup

theorem byContextKey?_eq_some_iff :
    table.byContextKey? name = some spec ↔ spec ∈ table.specs ∧ spec.contextKey = name :=
  find?_eq_some_iff table.contextKeys_nodup

theorem byCollection?_eq_some_iff :
    table.byCollection? name = some spec ↔ spec ∈ table.specs ∧ spec.collection = name :=
  find?_eq_some_iff table.collections_nodup

theorem rowOf_eq_ok_iff {usedBy : String} :
    table.rowOf name usedBy = .ok spec ↔ spec ∈ table.specs ∧ spec.collection = name := by
  rw [← byCollection?_eq_some_iff, rowOf]
  cases table.byCollection? name <;> simp

theorem collectionOf?_eq_some_iff : table.collectionOf? field = some collection ↔
    ∃ spec ∈ table.specs, spec.field = field ∧ spec.collection = collection := by
  simp only [collectionOf?, Option.map_eq_some_iff, byField?_eq_some_iff, and_assoc]

theorem fieldOf_eq_ok_iff : table.fieldOf collection = .ok field ↔
    ∃ spec ∈ table.specs, spec.field = field ∧ spec.collection = collection := by
  simp only [fieldOf, map_eq_ok, rowOf_eq_ok_iff, and_assoc]
  exact exists_congr (fun spec => and_congr_right (fun _ => and_comm))

/-- Looking through the three kinds in order meets the row that the name stands for. -/
theorem resolve?_eq_some_iff :
    table.resolve? name = some spec ↔ Meant table.specs name spec := by
  rw [resolve?, Option.or_eq_some_iff, Option.or_eq_some_iff, byField?_eq_some_iff,
    byContextKey?_eq_some_iff, byCollection?_eq_some_iff]
  simp only [byField?, byContextKey?, List.find?_eq_none, decide_eq_true_eq]
  constructor
  · rintro (⟨member, named⟩ | ⟨noField, ⟨member, named⟩ | ⟨noKey, member, named⟩⟩)
    · exact .field member named
    · exact .contextKey member named noField
    · exact .collection member named noField noKey
  · intro meant
    cases meant with
    | field member named => exact Or.inl ⟨member, named⟩
    | contextKey member named noField => exact Or.inr ⟨noField, Or.inl ⟨member, named⟩⟩
    | collection member named noField noKey =>
      exact Or.inr ⟨noField, Or.inr ⟨noKey, member, named⟩⟩

theorem exists_meant_iff {specs : List FieldSpec} : (∃ spec, Meant specs name spec) ↔
    ∃ spec ∈ specs, spec.field = name ∨ spec.contextKey = name ∨ spec.collection = name := by
  constructor
  · rintro ⟨spec, meant⟩
    cases meant with
    | field member named => exact ⟨spec, member, Or.inl named⟩
    | contextKey member named => exact ⟨spec, member, Or.inr (Or.inl named)⟩
    | collection member named => exact ⟨spec, member, Or.inr (Or.inr named)⟩
  · rintro ⟨spec, member, named⟩
    by_cases noField : ∀ other ∈ specs, other.field ≠ name
    · by_cases noKey : ∀ other ∈ specs, other.contextKey ≠ name
      · rcases named with named | named | named
        · exact absurd named (noField spec member)
        · exact absurd named (noKey spec member)
        · exact ⟨spec, .collection member named noField noKey⟩
      · push Not at noKey
        obtain ⟨other, member, named⟩ := noKey
        exact ⟨other, .contextKey member named noField⟩
    · push Not at noField
      obtain ⟨other, member, named⟩ := noField
      exact ⟨other, .field member named⟩

end Looking

/-- Rows become a table unless two of them share a name of one kind. Then each row is
found by its own names, fields and collections are mapped to one another and back, and
any name leads to the row that it stands for. -/
theorem rows_found_by_name (specs : List FieldSpec) :
    ((∃ fault, ofSpecs specs = .error fault) ↔ Shared FieldSpec.collection specs ∨
      Shared FieldSpec.field specs ∨ Shared FieldSpec.contextKey specs) ∧
    (∀ fault, ofSpecs specs = .error fault → fault.category = "ValueError") ∧
    ∀ table, ofSpecs specs = .ok table →
      (∀ spec ∈ specs, (∀ usedBy, table.rowOf spec.collection usedBy = .ok spec) ∧
        table.byField? spec.field = some spec ∧
        table.byContextKey? spec.contextKey = some spec) ∧
      (∀ field collection,
        table.collectionOf? field = some collection ↔ table.fieldOf collection = .ok field) ∧
      (∀ field, (∃ collection, table.collectionOf? field = some collection) ↔
        field ∈ specs.map FieldSpec.field) ∧
      (∀ collection, (∃ field, table.fieldOf collection = .ok field) ↔
        collection ∈ specs.map FieldSpec.collection) ∧
      (∀ name, (∃ spec, table.resolve? name = some spec) ↔ ∃ spec ∈ specs,
        spec.field = name ∨ spec.contextKey = name ∨ spec.collection = name) ∧
      ∀ name spec, table.resolve? name = some spec ↔ Meant specs name spec := by
  refine ⟨refused_iff, ?_, ?_⟩
  · intro fault refused
    obtain ⟨what, key, _, rfl⟩ := ofSpecs_eq_error_iff.mp refused
    rfl
  · intro table built
    obtain rfl := specs_of_ofSpecs built
    refine ⟨?_, ?_, ?_, ?_, ?_, ?_⟩
    · intro spec member
      exact ⟨fun usedBy => rowOf_eq_ok_iff.mpr ⟨member, rfl⟩,
        byField?_eq_some_iff.mpr ⟨member, rfl⟩, byContextKey?_eq_some_iff.mpr ⟨member, rfl⟩⟩
    · intro field collection
      rw [collectionOf?_eq_some_iff, fieldOf_eq_ok_iff]
    · intro field
      simp [collectionOf?_eq_some_iff]
    · intro collection
      simp [fieldOf_eq_ok_iff]
    · intro name
      simp only [resolve?_eq_some_iff, exists_meant_iff]
    · intro name spec
      exact resolve?_eq_some_iff

def wheelRow : FieldSpec := ⟨"wheels", "wheel", "hub", "Wheels", true, false, false⟩

def hubRow : FieldSpec := ⟨"hub", "axle", "wheel", "Hub", false, false, true⟩

theorem wheel_is_a_field_first :
    (∃ table, ofSpecs [hubRow, wheelRow] = .ok table ∧
      table.resolve? "wheel" = some wheelRow ∧ table.resolve? "hub" = some wheelRow ∧
      table.rowOf "hub" "options" = .ok hubRow ∧ table.collectionOf? "axle" = some "hub" ∧
      table.fieldOf "hub" = .ok "axle" ∧ table.resolve? "tyre" = none) ∧
    ∃ fault, ofSpecs [hubRow, wheelRow, { hubRow with collection := "hubs", field := "nave" }] =
      .error fault := by
  obtain ⟨table, built⟩ : ∃ table, ofSpecs [hubRow, wheelRow] = .ok table := ⟨_, rfl⟩
  obtain ⟨_, _, found⟩ := rows_found_by_name [hubRow, wheelRow]
  obtain ⟨own, inverse, _, _, resolved, meant⟩ := found table built
  have member : wheelRow ∈ [hubRow, wheelRow] := by decide
  have noField : ∀ other ∈ [hubRow, wheelRow], other.field ≠ "hub" := by decide
  have axle : table.collectionOf? "axle" = some "hub" := by
    obtain rfl := Except.ok.inj built
    rfl
  refine ⟨⟨table, built, ?_, ?_, (own hubRow (by decide)).1 "options", axle,
    (inverse "axle" "hub").mp axle, ?_⟩, ?_⟩
  · exact (meant "wheel" wheelRow).mpr (.field member rfl)
  · exact (meant "hub" wheelRow).mpr (.contextKey member rfl noField)
  · rw [Option.eq_none_iff_forall_ne_some]
    intro spec found
    exact absurd ((resolved "tyre").mp ⟨spec, found⟩) (by decide)
  · exact (rows_found_by_name _).1.mpr (Or.inr (Or.inr ⟨"wheel", by decide⟩))

end MadeToOrder.FieldTable
