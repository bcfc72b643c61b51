import MadeToOrder.Condition
import MadeToOrder.Fault
import MadeToOrder.Text.LowerCase
import MadeToOrder.Text.Search
import MadeToOrder.Value.Agreement

/-!
# Evaluating conditions

A condition is evaluated in a context of named values. A field that the context
lacks makes its test false whatever the operator. Values that both stand for
numbers are compared as doubles, and a list in the context is compared by
membership. Evaluation stops only on an integer past the range of doubles.
-/

set_option autoImplicit false

namespace MadeToOrder

abbrev Context := Keyed Value

namespace Value

def double? : Value → Except Fault (Option Double)
  | .int i =>
    match Double.ofInt? i with
    | some d => .ok (some d)
    | none => .error .integerTooLarge
  | .float d => .ok (some d)
  | .text s => .ok (Numeral.decimal? (Text.trim s))
  | _ => .ok none

def matchesAsData (a b : Value) : Bool :=
  agrees a b || (!a.isNull && !b.isNull && a.plain == b.plain)

def same (a b : Value) : Except Fault Bool := do
  let x ← a.double?
  let y ← b.double?
  match x, y with
  | some x, some y => return Double.equal x y
  | _, _ => return matchesAsData a b

def sameAsAny (a : Value) : List Value → Except Fault Bool
  | [] => .ok false
  | b :: rest => do if ← same a b then return true else sameAsAny a rest

def isVoid : Value → Bool
  | .object fields => fields.isEmpty
  | v => v.isUnset

/-- The literal of an emptiness test asks for emptiness, as null does. -/
def asksYes : Value → Bool
  | .null => true
  | .text s => !(["false", "0", ""].contains (Text.lower (Text.trim s)))
  | v => v.truthy

end Value

namespace Condition

def walk : List String → Value → Option Value
  | [], v => some v
  | name :: rest, .object fields => (Keyed.get? fields name).bind (walk rest)
  | _ :: _, _ => none

/-- The value of a path: under the path itself, then through nested objects,
then under the path with its points made underscores. -/
def resolve? (context : Context) (path : String) : Option Value :=
  match Keyed.get? context path with
  | some v => some v
  | none =>
    if path.toList.contains '.' then
      match walk (Text.split "." path) (.object context) with
      | some v => some v
      | none => Keyed.get? context (Text.replace path '.' '_')
    else none

def ordering? : Operator → Option (Double → Double → Bool)
  | .above => some (fun a b => Double.less b a)
  | .atLeast => some (fun a b => Double.lessEqual b a)
  | .below => some Double.less
  | .atMost => some Double.lessEqual
  | _ => none

def ordered (order : Double → Double → Bool) (actual literal : Value) : Except Fault Bool := do
  let x ← actual.double?
  let y ← literal.double?
  match x, y with
  | some x, some y => return order x y
  | _, _ => return false

def holdsText (actual literal : Value) : Bool :=
  match actual, literal with
  | .null, _ => false
  | _, .null => false
  | a, l => Text.contains a.plain l.plain

def testScalar (op : Operator) (actual literal : Value) : Except Fault Bool :=
  match op with
  | .equal => actual.same literal
  | .notEqual => do return !(← actual.same literal)
  | .oneOf => actual.sameAsAny literal.elements
  | .noneOf => do return !(← actual.sameAsAny literal.elements)
  | .contains => .ok (holdsText actual literal)
  | .lacks => .ok (!holdsText actual literal)
  | .above | .atLeast | .below | .atMost =>
    match ordering? op with
    | some order => ordered order actual literal
    | none => .ok false
  | .empty | .filled => .ok false

def anyItem (passes : Value → Except Fault Bool) : List Value → Except Fault Bool
  | [] => .ok false
  | item :: rest => do if ← passes item then return true else anyItem passes rest

def testList (op : Operator) (items : List Value) (literal : Value) : Except Fault Bool :=
  match op with
  | .equal | .contains => anyItem (fun item => item.same literal) items
  | .notEqual | .lacks => do return !(← anyItem (fun item => item.same literal) items)
  | .oneOf => anyItem (fun item => item.sameAsAny literal.elements) items
  | .noneOf => do return !(← anyItem (fun item => item.sameAsAny literal.elements) items)
  | .above | .atLeast | .below | .atMost =>
    anyItem (fun item => testScalar op item literal) items
  | .empty | .filled => .ok false

def testValue (op : Operator) (actual literal : Value) : Except Fault Bool :=
  match op, actual with
  | .empty, actual => .ok (actual.isVoid == literal.asksYes)
  | .filled, actual => .ok (!actual.isVoid == literal.asksYes)
  | op, .list items => testList op items literal
  | op, actual => testScalar op actual literal

mutual

def evaluate (context : Context) : Condition → Except Fault Bool
  | .all parts => evaluateAll context parts
  | .any parts => evaluateAny context parts
  | .test op path literal =>
    match resolve? context path with
    | none => .ok false
    | some actual => testValue op actual literal
termination_by structural c => c

def evaluateAll (context : Context) : List Condition → Except Fault Bool
  | [] => .ok true
  | part :: rest => do if ← evaluate context part then evaluateAll context rest else return false
termination_by structural parts => parts

def evaluateAny (context : Context) : List Condition → Except Fault Bool
  | [] => .ok false
  | part :: rest => do if ← evaluate context part then return true else evaluateAny context rest
termination_by structural parts => parts

end

end Condition

end MadeToOrder
