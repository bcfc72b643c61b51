import MadeToOrder.Keyed
import MadeToOrder.Number.Double

/-!
# Catalog values

Records, rule conditions and selections are data of any shape. A value is a
null, a truth value, an integer of any size, a double, a text, a list or an
object with ordered fields. Functions over values recurse on the value, on the
list of items and on the list of fields.
-/

set_option autoImplicit false

namespace MadeToOrder

inductive Value where
  | null
  | bool (b : Bool)
  | int (i : Int)
  | float (d : Double)
  | text (s : String)
  | list (items : List Value)
  | object (fields : List (String × Value))
  deriving Repr, Inhabited

inductive Kind where
  | null | bool | int | float | text | list | object
  deriving DecidableEq, Repr

namespace Value

def kind : Value → Kind
  | .null => .null
  | .bool _ => .bool
  | .int _ => .int
  | .float _ => .float
  | .text _ => .text
  | .list _ => .list
  | .object _ => .object

def isNull : Value → Bool
  | .null => true
  | _ => false

def truthy : Value → Bool
  | .null => false
  | .bool b => b
  | .int i => i != 0
  | .float d => !d.isZero
  | .text s => !s.isEmpty
  | .list items => !items.isEmpty
  | .object fields => !fields.isEmpty

def orElse (v other : Value) : Value := if v.truthy then v else other

/-- Null, the empty text and the empty list: no choice was made. -/
def isUnset : Value → Bool
  | .null => true
  | .text s => s.isEmpty
  | .list items => items.isEmpty
  | _ => false

def elements : Value → List Value
  | .list items => items
  | v => [v]

def isList : Value → Bool
  | .list _ => true
  | _ => false

def isHashable : Value → Bool
  | .list _ => false
  | .object _ => false
  | _ => true

/-- The place on the number line of a truth value, an integer or a double, in
steps of doubles; integers are exact. -/
def place? : Value → Option Place
  | .bool b => some (.steps (if b then Double.one else 0))
  | .int i => some (.steps (i * Double.one))
  | .float d => d.place?
  | _ => none

/-- Induction on a value, with the items of a list and the values of an object. -/
theorem induction {motive : Value → Prop} (scalar : ∀ v, v.isHashable = true → motive v)
    (list : ∀ items, (∀ v ∈ items, motive v) → motive (.list items))
    (object : ∀ fields, (∀ f ∈ fields, motive f.2) → motive (.object fields)) (v : Value) :
    motive v := by
  refine @Value.rec motive (fun items => ∀ v ∈ items, motive v)
    (fun fields => ∀ f ∈ fields, motive f.2) (fun f => motive f.2) (scalar .null rfl)
    (fun b => scalar (.bool b) rfl) (fun i => scalar (.int i) rfl)
    (fun d => scalar (.float d) rfl) (fun s => scalar (.text s) rfl) list object ?_ ?_ ?_ ?_
    (fun _ _ inner => inner) v
  · intro v member
    cases member
  · intro v rest first others
    exact List.forall_mem_cons.mpr ⟨first, others⟩
  · intro f member
    cases member
  · intro f rest first others
    exact List.forall_mem_cons.mpr ⟨first, others⟩

end Value

namespace Kind

def name : Kind → String
  | .null => "NoneType"
  | .bool => "bool"
  | .int => "int"
  | .float => "float"
  | .text => "str"
  | .list => "list"
  | .object => "dict"

end Kind

end MadeToOrder
