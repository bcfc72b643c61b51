import MadeToOrder.Sku.Parse

/-!
# Suggestions

What a beginning of a code can become: products whose code starts with it, or
the codes that can fill one segment.
-/

set_option autoImplicit false

namespace MadeToOrder.Sku

structure ProductSuggestion where
  product : String
  name : Value
  code : String
  line : String
  deriving Repr

structure CodeSuggestion where
  option : String
  code : String
  name : Value
  collection : String
  deriving Repr

/-- The first few; a negative number leaves out as many from the end. -/
def firstFew {α : Type} (limit : Option Int) (xs : List α) : List α :=
  match limit with
  | none => xs
  | some n => if 0 ≤ n then xs.take n.toNat else xs.take (xs.length - (-n).toNat)

def needleOf (query : Value) : Except Fault String :=
  if !query.truthy then .ok ""
  else match query with
    | .text s => .ok (Text.lower (Text.trim s))
    | v => .error (.noAttribute v.kind "strip")

def isOffered (line : Value) (p : Product) : Bool :=
  p.active.truthy && p.code.truthy && (line.isNull || p.line == line.plain)

def offered? (needle : String) (p : Product) : Except Fault (Option ProductSuggestion) :=
  match p.code with
  | .text code =>
    .ok (if Text.startsWith (Text.lower code) needle then some ⟨p.key, p.name, code, p.line⟩
      else none)
  | v => .error (.noAttribute v.kind "lower")

def suggestProducts (snapshot : Snapshot) (query : Value) (limit : Option Int) (line : Value) :
    Except Fault (List ProductSuggestion) := do
  let needle ← needleOf query
  if needle.isEmpty then return []
  else
    let found ← (snapshot.products.filter (isOffered line)).mapM (offered? needle)
    return firstFew limit
      (Sorting.sort (fun a b => decide (a.code ≤ b.code)) (found.filterMap id))

def segmentSuggestion? (needle collection : String) (o : CatalogOption) :
    Except Fault (Option CodeSuggestion) :=
  if !o.code.truthy then .ok none
  else match o.code with
    | .text code =>
      .ok (if Text.startsWith (Text.lower code) needle then some ⟨o.key, code, o.name, collection⟩
        else none)
    | v => .error (.noAttribute v.kind "lower")

def suggestSegment (snapshot : Snapshot) (fields : List CodeField) (position : Int)
    (query : Value) (limit : Option Int) (line : Value) :
    Except Fault (List CodeSuggestion) := do
  let ordered ← enabledOrder fields
  if position < 0 then return []
  else match ordered[position.toNat]? with
    | none => return []
    | some entry =>
      let offer ←
        if line.isNull then pure none else (snapshot.lineDefaults line).map some
      let needle ← needleOf query
      let options ← candidates snapshot offer entry.collection
      let found ← options.mapM (segmentSuggestion? needle entry.collection)
      return firstFew limit (found.filterMap id)

end MadeToOrder.Sku
