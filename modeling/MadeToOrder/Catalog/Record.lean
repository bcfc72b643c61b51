import MadeToOrder.Value.Agreement
import MadeToOrder.Value.Rendering
import MadeToOrder.Keyed

/-!
# Catalog records

The options, product lines, products, override rows and field order entries of
a catalog. Ids are kept as delivered and compared by their plain text.
-/

set_option autoImplicit false

namespace MadeToOrder

structure CatalogOption where
  id : Value
  name : Value
  code : Value
  collection : String
  sort : Value
  active : Value
  deriving Repr

namespace CatalogOption

def key (o : CatalogOption) : String := o.id.plain

/-- The place of an option in a display: options without a sort value come last,
and the key decides among equals. Not all sort values are comparable. -/
def less? (a b : CatalogOption) : Option Bool :=
  if a.sort.isNull then
    some (b.sort.isNull && decide (a.key < b.key))
  else if b.sort.isNull then some true
  else if a.sort.agrees b.sort then some (decide (a.key < b.key))
  else a.sort.less? b.sort

end CatalogOption

structure ProductLine where
  id : Value
  name : Value
  code : Value
  defaults : List (String × String)
  sort : Value
  deriving Repr

structure Product where
  id : Value
  name : Value
  line : String
  code : Value
  attributes : Keyed String
  active : Value
  deriving Repr

namespace Product

def key (p : Product) : String := p.id.plain

def carries (p : Product) (selected : Keyed String) : Bool :=
  selected.all (fun s => Keyed.get? p.attributes s.1 == some s.2)

end Product

structure OverrideRow where
  product : String
  collection : String
  item : String
  deriving DecidableEq, Repr

structure CodeField where
  collection : String
  order : Value
  enabled : Value
  deriving Repr

end MadeToOrder
