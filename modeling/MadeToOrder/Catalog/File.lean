import MadeToOrder.Catalog.Assembly

/-!
# Catalog files

A catalog as one document with a section for each kind of row. The defaults of
a line may be written as lists of ids by collection and are delivered as rows.
The document is read anew for every question.
-/

set_option autoImplicit false

namespace MadeToOrder

open Value (entry entryOr)

inductive CatalogFile where
  | absent
  | document (v : Value)
  deriving Repr

namespace CatalogFile

def load : CatalogFile → Except Fault Value
  | .absent => .error (.unavailable "Cannot read catalog file")
  | .document v => .ok v

def rows (file : CatalogFile) (name : String) : Except Fault (List Value) := do
  let fs ← (← file.load).fields
  (entryOr fs name (.list [])).iterate

def defaultRow (collection : Value) (item : Value) : Value :=
  .object [("collection", collection), ("item", .text item.plain)]

def rowsByCollection : List (String × Value) → Except Fault (List Value)
  | [] => .ok []
  | (collection, ids) :: rest => do
    let items ← (ids.orElse (.list [])).iterate
    let others ← rowsByCollection rest
    return items.map (defaultRow (.text collection)) ++ others

def rowsOneByOne : List Value → Except Fault (List Value)
  | [] => .ok []
  | v :: rest => do
    let collection ← v.field "collection"
    let item ← v.field "item"
    let others ← rowsOneByOne rest
    return defaultRow collection item :: others

def defaultRows : Value → Except Fault (List Value)
  | .object fs => rowsByCollection fs
  | v => do
    let entries ← (v.orElse (.list [])).iterate
    rowsOneByOne entries

def lineRecord (record : Value) : Except Fault Value := do
  let fs ← record.spread
  let rows ← defaultRows (entry fs "default_options")
  return .object (Keyed.put fs "default_options" (.list rows))

def lines (file : CatalogFile) : Except Fault (List Value) := do
  let records ← file.rows "product_lines"
  records.mapM lineRecord

def defaultsIn (id : String) : List Value → Except Fault (List Value)
  | [] => .ok []
  | record :: rest => do
    let found ← record.field "id"
    if found.plain = id then (← record.field "default_options").iterate
    else defaultsIn id rest

def defaultsOf (file : CatalogFile) (id : Value) : Except Fault (List Value) := do
  defaultsIn id.plain (← file.lines)

def options (file : CatalogFile) (collection : String) : Except Fault (List Value) := do
  let fs ← (← file.load).fields
  let sections ← (entryOr fs "options" (.object [])).fields
  (entryOr sections collection (.list [])).iterate

def products (file : CatalogFile) : Except Fault (List Value) := file.rows "products"

def onLine (id : String) : List Value → Except Fault (List Value)
  | [] => .ok []
  | record :: rest => do
    let fs ← record.fields
    let others ← onLine id rest
    return if (entry fs "product_line").plain = id then record :: others else others

def productsOf (file : CatalogFile) (line : Value) : Except Fault (List Value) :=
  if line.isNull then file.products
  else do onLine line.plain (← file.products)

def overrides (file : CatalogFile) : Except Fault (List Value) :=
  file.rows "products_options_overrides"

def rules (file : CatalogFile) : Except Fault (List Value) := file.rows "rules"

def codeFields (file : CatalogFile) : Except Fault (List Value) := file.rows "sku_code_order"

def source (file : CatalogFile) : Source (Except Fault) where
  lines := file.lines
  options := file.options
  products := file.products
  overrides := file.overrides
  rules := file.rules
  codeFields := file.codeFields

def snapshot (file : CatalogFile) (table : FieldTable) (asOf : String) :
    Except Fault Snapshot :=
  file.source.snapshot table asOf

end CatalogFile

end MadeToOrder
