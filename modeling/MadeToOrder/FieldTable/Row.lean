import MadeToOrder.FieldTable
import MadeToOrder.Text.Search
import MadeToOrder.Text.TitleCase
import MadeToOrder.Value.Reading

/-!
# Rows of a field table

A row is written as an object with a collection and a field. The context key is
the field unless it is given, and the label is made from the collection.
-/

set_option autoImplicit false

namespace MadeToOrder

open Value (asText? asBool? fieldAs requiredAs)

namespace FieldSpec

def labelFor (collection : String) : String := Text.title (Text.replace collection '_' ' ')

def orIfEmpty (s other : String) : String := if s.isEmpty then other else s

def ofFields (fs : List (String × Value)) : Except Fault FieldSpec := do
  let collection ← requiredAs asText? fs "collection"
  let field ← requiredAs asText? fs "field"
  let contextKey ← fieldAs asText? "" fs "context_key"
  let label ← fieldAs asText? "" fs "label"
  let required ← fieldAs asBool? false fs "required"
  let multiSelect ← fieldAs asBool? false fs "multi_select"
  let productAttribute ← fieldAs asBool? false fs "product_attribute"
  return ⟨collection, field, orIfEmpty contextKey field, orIfEmpty label (labelFor collection),
    required, multiSelect, productAttribute⟩

def ofValue (row : Value) : Except Fault FieldSpec := do ofFields (← row.spread)

end FieldSpec

def FieldTable.ofRows (rows : Value) : Except Fault FieldTable := do
  let specs ← (← rows.iterate).mapM FieldSpec.ofValue
  FieldTable.ofSpecs specs

end MadeToOrder
