import MadeToOrder.Catalog.Snapshot
import MadeToOrder.Value.Access

/-!
# Assembling a snapshot

A snapshot is assembled from the rows that a source delivers, section by
section: lines, the options of each collection of the table, products, override
rows, rules and the code fields. The first fault ends the work, and later
sections are then not asked for. Override rows that name an unknown product or
collection are left out and reported.
-/

set_option autoImplicit false

namespace MadeToOrder

open Value (entry entryOr)

/-- Where rows come from; `m` carries what asking for them involves. -/
structure Source (m : Type → Type) where
  lines : m (List Value)
  options : String → m (List Value)
  products : m (List Value)
  overrides : m (List Value)
  rules : m (List Value)
  codeFields : m (List Value)

namespace Assembly

def nameOf (fs : List (String × Value)) (id : Value) : Value :=
  (entry fs "name").orElse (.text id.plain)

def defaultPairs : List Value → Except Fault (List (Value × String))
  | [] => .ok []
  | v :: rest => do
    let collection ← v.field "collection"
    let item ← v.field "item"
    let others ← defaultPairs rest
    return (collection, item.plain) :: others

def mappedPairs (table : FieldTable) (usedBy : String) :
    List (Value × String) → Except Fault (List (String × String))
  | [] => .ok []
  | (collection, item) :: rest => do
    let spec ← table.rowOfValue collection usedBy
    let others ← mappedPairs table usedBy rest
    return (spec.collection, item) :: others

def readLine (table : FieldTable) (record : Value) : Except Fault (Option ProductLine) := do
  let fs ← record.fields
  if !(entryOr fs "active" (.bool true)).truthy then return none
  else
    let id ← record.field "id"
    let entries ← ((entry fs "default_options").orElse (.list [])).iterate
    let pairs ← defaultPairs entries
    let defaults ← mappedPairs table s!"product line {id.plain} defaults" pairs
    return some ⟨id, nameOf fs id, entry fs "sku_code", defaults, entry fs "sort"⟩

def readLines (table : FieldTable) : Keyed ProductLine → List Value →
    Except Fault (Keyed ProductLine)
  | lines, [] => .ok lines
  | lines, record :: rest => do
    match ← readLine table record with
    | some l => readLines table (Keyed.put lines l.id.plain l) rest
    | none => readLines table lines rest

def codeOf (record : Value) : Except Fault String := do
  let fs ← record.fields
  return (((entry fs "sku_code").orElse (entry fs "short_code")).orElse (.text "")).plain

def readOption (collection : String) (record : Value) : Except Fault CatalogOption := do
  let id ← record.field "id"
  let fs ← record.fields
  let code ← codeOf record
  return ⟨id, nameOf fs id, .text code, collection, entry fs "sort",
    entryOr fs "active" (.bool true)⟩

def readOptions (collection : String) : Keyed CatalogOption → List Value →
    Except Fault (Keyed CatalogOption)
  | options, [] => .ok options
  | options, record :: rest => do
    let o ← readOption collection record
    if o.active.truthy then readOptions collection (Keyed.put options o.key o) rest
    else readOptions collection options rest

def lineOption (l : ProductLine) : CatalogOption :=
  ⟨l.id, l.name, l.code.orElse (.text ""), lineCollection, l.sort, .bool true⟩

def readAttributes (fs : List (String × Value)) : List FieldSpec → Keyed String
  | [] => []
  | spec :: rest =>
    match (entry fs spec.field).referred with
    | .null => readAttributes fs rest
    | v => (spec.collection, v.plain) :: readAttributes fs rest

def readProduct (table : FieldTable) (record : Value) : Except Fault Product := do
  let fs ← record.fields
  let id ← record.field "id"
  return {
    id := id
    name := nameOf fs id
    line := (entry fs "product_line").referred.plain
    code := (entry fs "sku_code").orElse (.text "")
    attributes := readAttributes fs table.attributes
    active := entryOr fs "active" (.bool true) }

def readOverride (table : FieldTable) (products : List String) (record : Value) :
    Except Fault (OverrideRow ⊕ Diagnostic) := do
  let fs ← record.fields
  let product := (entryOr fs "products_id" (entry fs "product")).plain
  let collection := entryOr fs "collection" (.text "")
  if product ∉ products then
    return .inr ⟨.overrideInconsistent, s!"Override references unknown product {product}",
      .text product⟩
  else match table.rowOfValue collection "" with
    | .ok spec => return .inl ⟨product, spec.collection, (entry fs "item").plain⟩
    | .error (.unmapped _ _) =>
      return .inr ⟨.overrideInconsistent,
        s!"Override for product {product} names unmapped collection '{collection.plain}'",
        collection⟩
    | .error fault => .error fault

def readOverrides (table : FieldTable) (products : List String) :
    List Value → Except Fault (List OverrideRow × List Diagnostic)
  | [] => .ok ([], [])
  | record :: rest => do
    let first ← readOverride table products record
    let (kept, reports) ← readOverrides table products rest
    match first with
    | .inl row => return (row :: kept, reports)
    | .inr report => return (kept, report :: reports)

def readCodeField (table : FieldTable) (record : Value) : Except Fault CodeField := do
  let fs ← record.fields
  let spec ← table.rowOfValue ((entry fs "sku_code_item").orElse (entry fs "collection"))
    "SKU field order"
  let order ← ((entry fs "order").orElse (.int 0)).integer
  return ⟨spec.collection, .int order, entryOr fs "enabled" (.bool true)⟩

def readCodeFields (table : FieldTable) (records : List Value) :
    Except Fault (List CodeField) := do
  let entries ← records.mapM (readCodeField table)
  CodeField.inOrder entries

variable {m : Type → Type} [Monad m] [MonadExceptOf Fault m]

def fetchOptions (source : Source m) : List FieldSpec → m (Keyed (Keyed CatalogOption))
  | [] => pure []
  | spec :: rest =>
    if spec.isLine then fetchOptions source rest
    else do
      let records ← source.options spec.collection
      let options ← MonadExcept.ofExcept (readOptions spec.collection [] records)
      let others ← fetchOptions source rest
      return (spec.collection, options) :: others

end Assembly

def Source.snapshot {m : Type → Type} [Monad m] [MonadExceptOf Fault m] (source : Source m)
    (table : FieldTable) (asOf : String) : m Snapshot := do
  let lines ← MonadExcept.ofExcept (Assembly.readLines table [] (← source.lines))
  let collections ← Assembly.fetchOptions source table.specs
  let options :=
    if table.hasCollection lineCollection then
      Keyed.put collections lineCollection (Keyed.mapValues Assembly.lineOption lines)
    else collections
  let productRecords ← source.products
  let products ← MonadExcept.ofExcept (productRecords.mapM (Assembly.readProduct table))
  let overrideRecords ← source.overrides
  let (overrides, diagnostics) ← MonadExcept.ofExcept
    (Assembly.readOverrides table (products.map Product.key) overrideRecords)
  let ruleRecords ← source.rules
  let rules ← MonadExcept.ofExcept (ruleRecords.mapM Rule.ofRecord)
  let fieldRecords ← source.codeFields
  let codeFields ← MonadExcept.ofExcept (Assembly.readCodeFields table fieldRecords)
  return ⟨table, lines, options, products, overrides, rules, codeFields, diagnostics, asOf⟩

end MadeToOrder
