import MadeToOrder.Catalog.File

/-!
# What stops the reading of a catalog

No snapshot comes of a catalog that cannot be read, that has a record of the wrong
shape, or that names a collection without a field. The other faults of the
domain belong to the work on a snapshot, and reading never meets them.
-/

set_option autoImplicit false

namespace MadeToOrder

def Fault.isOfCatalog : Fault → Bool
  | .noFieldOrder | .unknownLine _ | .defect _ => false
  | _ => true

def Confined {α : Type} (work : Except Fault α) : Prop :=
  ∀ fault, work = .error fault → fault.isOfCatalog = true

section

variable {α β : Type}

theorem confined_ok (a : α) : Confined (.ok a) := failsOnly_ok a

theorem confined_error {fault : Fault} (h : fault.isOfCatalog = true) :
    Confined (.error fault : Except Fault α) := failsOnly_error h

theorem Confined.bind {first : Except Fault α} {next : α → Except Fault β} (h : Confined first)
    (later : ∀ a, Confined (next a)) : Confined (first >>= next) := FailsOnly.bind h later

theorem Confined.map {first : Except Fault α} (h : Confined first) (f : α → β) :
    Confined (first.map f) := FailsOnly.map h f

theorem Confined.mapM {f : α → Except Fault β} (h : ∀ a, Confined (f a)) (xs : List α) :
    Confined (xs.mapM f) := FailsOnly.mapM (fun a _ => h a)

theorem confined_ofExcept {work : Except Fault α} (h : Confined work) :
    Confined (MonadExcept.ofExcept work : Except Fault α) := by
  cases work with
  | error fault => exact h
  | ok a => exact h

end

namespace Value

theorem confined_fields (v : Value) : Confined v.fields := by
  cases v with
  | object fs => exact confined_ok _
  | null | bool | int | float | text | list => exact confined_error rfl

theorem confined_spread (v : Value) : Confined v.spread := by
  cases v with
  | object fs => exact confined_ok _
  | null | bool | int | float | text | list => exact confined_error rfl

theorem confined_iterate (v : Value) : Confined v.iterate := by
  cases v with
  | list | text | object => exact confined_ok _
  | null | bool | int | float => exact confined_error rfl

theorem confined_field (key : String) (v : Value) : Confined (v.field key) := by
  cases v with
  | object fs =>
    unfold field
    dsimp only
    split
    · exact confined_ok _
    · exact confined_error rfl
  | null | bool | int | float | text | list => exact confined_error rfl

theorem confined_integer (v : Value) : Confined v.integer := by
  unfold integer
  split
  · exact confined_ok _
  · exact confined_ok _
  · exact confined_error rfl
  · split
    · exact confined_ok _
    · exact confined_error rfl
  · unfold integerOf
    split
    · exact confined_ok _
    · rename_i refusal _
      cases refusal <;> exact confined_error rfl
  · exact confined_error rfl

end Value

theorem FieldTable.confined_rowOfValue (table : FieldTable) (name : Value) (usedBy : String) :
    Confined (table.rowOfValue name usedBy) := by
  unfold rowOfValue rowOf
  split
  · split
    · exact confined_ok _
    · exact confined_error rfl
  · split <;> exact confined_error rfl

theorem Rule.confined_ofRecord (record : Value) : Confined (Rule.ofRecord record) :=
  record.confined_fields.map _

theorem CodeField.confined_inOrder (entries : List CodeField) : Confined (inOrder entries) := by
  unfold inOrder Snapshot.inOrderOf
  dsimp only
  split
  · exact confined_ok _
  · exact confined_error rfl

namespace Assembly

variable (table : FieldTable)

theorem confined_defaultPairs (entries : List Value) : Confined (defaultPairs entries) := by
  induction entries with
  | nil => exact confined_ok _
  | cons v rest ih =>
    exact (v.confined_field _).bind fun _ => (v.confined_field _).bind fun _ =>
      ih.bind fun _ => confined_ok _

theorem confined_mappedPairs (usedBy : String) (pairs : List (Value × String)) :
    Confined (mappedPairs table usedBy pairs) := by
  induction pairs with
  | nil => exact confined_ok _
  | cons pair rest ih =>
    exact (table.confined_rowOfValue _ _).bind fun _ => ih.bind fun _ => confined_ok _

theorem confined_readLine (record : Value) : Confined (readLine table record) := by
  refine record.confined_fields.bind fun fs => ?_
  split
  · exact confined_ok _
  · exact (record.confined_field _).bind fun _ => (Value.confined_iterate _).bind fun _ =>
      (confined_defaultPairs _).bind fun _ => (confined_mappedPairs table _ _).bind fun _ =>
        confined_ok _

theorem confined_readLines (lines : Keyed ProductLine) (records : List Value) :
    Confined (readLines table lines records) := by
  induction records generalizing lines with
  | nil => exact confined_ok _
  | cons record rest ih =>
    refine (confined_readLine table record).bind fun found => ?_
    cases found with
    | none => exact ih lines
    | some l => exact ih _

theorem confined_readOption (collection : String) (record : Value) :
    Confined (readOption collection record) :=
  (record.confined_field _).bind fun _ => record.confined_fields.bind fun _ =>
    (record.confined_fields.bind fun _ => confined_ok _).bind fun _ => confined_ok _

theorem confined_readOptions (collection : String) (options : Keyed CatalogOption)
    (records : List Value) : Confined (readOptions collection options records) := by
  induction records generalizing options with
  | nil => exact confined_ok _
  | cons record rest ih =>
    refine (confined_readOption collection record).bind fun o => ?_
    split
    · exact ih _
    · exact ih _

theorem confined_readProduct (record : Value) : Confined (readProduct table record) :=
  record.confined_fields.bind fun _ => (record.confined_field _).bind fun _ => confined_ok _

theorem confined_readOverride (products : List String) (record : Value) :
    Confined (readOverride table products record) := by
  refine record.confined_fields.bind fun fs => ?_
  dsimp only
  split
  · exact confined_ok _
  · split
    · exact confined_ok _
    · exact confined_ok _
    · rename_i fault _ found
      exact confined_error (table.confined_rowOfValue _ _ _ found)

theorem confined_readOverrides (products : List String) (records : List Value) :
    Confined (readOverrides table products records) := by
  induction records with
  | nil => exact confined_ok _
  | cons record rest ih =>
    refine (confined_readOverride table products record).bind fun first =>
      ih.bind fun others => ?_
    cases first with
    | inl row => exact confined_ok _
    | inr report => exact confined_ok _

theorem confined_readCodeField (record : Value) : Confined (readCodeField table record) :=
  record.confined_fields.bind fun _ => (table.confined_rowOfValue _ _).bind fun _ =>
    (Value.confined_integer _).bind fun _ => confined_ok _

theorem confined_readCodeFields (records : List Value) :
    Confined (readCodeFields table records) :=
  (Confined.mapM (confined_readCodeField table) records).bind fun _ =>
    CodeField.confined_inOrder _

end Assembly

structure Source.Confined (source : Source (Except Fault)) : Prop where
  lines : MadeToOrder.Confined source.lines
  options : ∀ collection, MadeToOrder.Confined (source.options collection)
  products : MadeToOrder.Confined source.products
  overrides : MadeToOrder.Confined source.overrides
  rules : MadeToOrder.Confined source.rules
  codeFields : MadeToOrder.Confined source.codeFields

theorem Assembly.confined_fetchOptions {source : Source (Except Fault)} (h : source.Confined)
    (specs : List FieldSpec) : Confined (fetchOptions source specs) := by
  induction specs with
  | nil => exact confined_ok _
  | cons spec rest ih =>
    unfold fetchOptions
    split
    · exact ih
    · exact (h.options _).bind fun _ => (confined_ofExcept (confined_readOptions _ _ _)).bind
        fun _ => ih.bind fun _ => confined_ok _

/-- Assembling a snapshot adds no faults but those of the catalog. -/
theorem Source.confined_snapshot {source : Source (Except Fault)} (h : source.Confined)
    (table : FieldTable) (asOf : String) : MadeToOrder.Confined (source.snapshot table asOf) := by
  unfold snapshot
  refine h.lines.bind fun _ => (confined_ofExcept (Assembly.confined_readLines table _ _)).bind
    fun _ => (Assembly.confined_fetchOptions h _).bind fun _ => ?_
  refine h.products.bind fun _ => (confined_ofExcept (Confined.mapM
    (Assembly.confined_readProduct table) _)).bind fun _ => ?_
  refine h.overrides.bind fun _ => (confined_ofExcept
    (Assembly.confined_readOverrides table _ _)).bind fun _ => ?_
  refine h.rules.bind fun _ => (confined_ofExcept (Confined.mapM Rule.confined_ofRecord _)).bind
    fun _ => ?_
  exact h.codeFields.bind fun _ => (confined_ofExcept
    (Assembly.confined_readCodeFields table _)).bind fun _ => confined_ok _

namespace CatalogFile

theorem confined_load (file : CatalogFile) : Confined file.load := by
  cases file with
  | absent => exact confined_error rfl
  | document v => exact confined_ok _

theorem confined_rows (file : CatalogFile) (name : String) : Confined (file.rows name) :=
  file.confined_load.bind fun _ => (Value.confined_fields _).bind fun _ =>
    Value.confined_iterate _

theorem confined_rowsByCollection (entries : List (String × Value)) :
    Confined (rowsByCollection entries) := by
  induction entries with
  | nil => exact confined_ok _
  | cons entry rest ih =>
    exact (Value.confined_iterate _).bind fun _ => ih.bind fun _ => confined_ok _

theorem confined_rowsOneByOne (entries : List Value) : Confined (rowsOneByOne entries) := by
  induction entries with
  | nil => exact confined_ok _
  | cons v rest ih =>
    exact (v.confined_field _).bind fun _ => (v.confined_field _).bind fun _ =>
      ih.bind fun _ => confined_ok _

theorem confined_defaultRows (v : Value) : Confined (defaultRows v) := by
  unfold defaultRows
  split
  · exact confined_rowsByCollection _
  · exact (Value.confined_iterate _).bind fun _ => confined_rowsOneByOne _

theorem confined_lineRecord (record : Value) : Confined (lineRecord record) :=
  record.confined_spread.bind fun _ => (confined_defaultRows _).bind fun _ => confined_ok _

theorem confined_source (file : CatalogFile) : file.source.Confined where
  lines := (file.confined_rows _).bind fun _ => Confined.mapM confined_lineRecord _
  options := fun _ => file.confined_load.bind fun _ => (Value.confined_fields _).bind fun _ =>
    (Value.confined_fields _).bind fun _ => Value.confined_iterate _
  products := file.confined_rows _
  overrides := file.confined_rows _
  rules := file.confined_rows _
  codeFields := file.confined_rows _

end CatalogFile

end MadeToOrder
