import MadeToOrder.Catalog.Record
import MadeToOrder.Diagnostic
import MadeToOrder.FieldTable
import MadeToOrder.Rule
import MadeToOrder.Sorting

/-!
# Catalog snapshots

A catalog as it stood at one moment, never changed afterwards. Options are kept
by collection and key; what an answer shows of a collection is in display
order. Display order is refused where two sort values cannot be compared.
-/

set_option autoImplicit false

namespace MadeToOrder

structure Snapshot where
  table : FieldTable
  lines : Keyed ProductLine
  options : Keyed (Keyed CatalogOption)
  products : List Product
  overrides : List OverrideRow
  rules : List Rule
  codeFields : List CodeField
  diagnostics : List Diagnostic
  asOf : String

namespace Snapshot

variable (s : Snapshot)

def inOrderOf {α : Type} (value : α → Value) (less? : α → α → Option Bool) (items : List α) :
    Except Fault (List α) :=
  let sorted? :=
    if items.all (fun item => (value item).isOrdered) then Sorting.sort? less? items
    else Sorting.halved? less? items
  match sorted? with
  | some sorted => .ok sorted
  | none => .error .incomparable

def display (options : List CatalogOption) : Except Fault (List CatalogOption) :=
  inOrderOf CatalogOption.sort CatalogOption.less? options

def line (id : Value) : Except Fault ProductLine :=
  match Keyed.get? s.lines id.plain with
  | some found => .ok found
  | none => .error (.unknownLine id)

def hasLine (id : Value) : Bool := Keyed.has s.lines id.plain

def optionsIn (collection : String) : Keyed CatalogOption :=
  (Keyed.get? s.options collection).getD []

def option? (collection key : String) : Option CatalogOption :=
  Keyed.get? (s.optionsIn collection) key

def optionsFor (collection : String) : Except Fault (List CatalogOption) :=
  display (Keyed.values (s.optionsIn collection))

def grouped : List (String × String) → Keyed (List CatalogOption) → Keyed (List CatalogOption)
  | [], groups => groups
  | (collection, item) :: rest, groups =>
    match s.option? collection item with
    | some o => grouped rest (Keyed.adjust groups collection (fun g => g.getD [] ++ [o]))
    | none => grouped rest groups

def displayKeys : Keyed (List CatalogOption) → Except Fault (Keyed (List String))
  | [] => .ok []
  | (collection, options) :: rest => do
    let sorted ← display options
    let others ← displayKeys rest
    return (collection, sorted.map CatalogOption.key) :: others

/-- The default option ids of a line by collection. Every line can be changed to
any other line. -/
def lineDefaults (id : Value) : Except Fault (Keyed (List String)) := do
  let found ← s.line id
  let defaults ← displayKeys (s.grouped found.defaults [])
  if s.table.hasCollection lineCollection then
    let all ← s.optionsFor lineCollection
    return Keyed.put defaults lineCollection (all.map CatalogOption.key)
  else return defaults

def productsOf (id : Value) : List Product :=
  s.products.filter (fun p => p.line == id.plain && p.active.truthy)

def allProductsOf (id : Value) : List Product :=
  s.products.filter (fun p => p.line == id.plain)

def product? (id : Value) : Option Product := s.products.find? (fun p => p.key == id.plain)

def overridesFor (products : List String) : List OverrideRow :=
  s.overrides.filter (fun o => o.product ∈ products)

theorem inOrderOf_perm {α : Type} {value : α → Value} {less? : α → α → Option Bool}
    {items sorted : List α} (h : inOrderOf value less? items = .ok sorted) :
    sorted.Perm items := by
  unfold inOrderOf at h
  dsimp only at h
  split at h
  · rename_i found
    obtain rfl := Except.ok.inj h
    split at found
    · exact Sorting.sort?_perm found
    · exact Sorting.halved?_perm found
  · simp at h

theorem optionsFor_perm {collection : String} {options : List CatalogOption}
    (h : s.optionsFor collection = .ok options) :
    options.Perm (Keyed.values (s.optionsIn collection)) := inOrderOf_perm h

end Snapshot

namespace CodeField

def inOrder (entries : List CodeField) : Except Fault (List CodeField) :=
  Snapshot.inOrderOf CodeField.order (fun a b => a.order.less? b.order) entries

def enabledInOrder (entries : List CodeField) : Except Fault (List CodeField) :=
  inOrder (entries.filter (fun f => f.enabled.truthy))

end CodeField

end MadeToOrder
