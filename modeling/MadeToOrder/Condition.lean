import MadeToOrder.Value.Rendering

/-!
# Rule conditions

A condition is a conjunction, a disjunction, or a test of one field of the
context against a literal. The empty conjunction always holds, the empty
disjunction never does.
-/

set_option autoImplicit false

namespace MadeToOrder

inductive Operator where
  | equal | notEqual | oneOf | noneOf | contains | lacks
  | empty | filled | above | atLeast | below | atMost
  deriving DecidableEq, Repr

namespace Operator

def key : Operator → String
  | .equal => "_eq"
  | .notEqual => "_neq"
  | .oneOf => "_in"
  | .noneOf => "_nin"
  | .contains => "_contains"
  | .lacks => "_ncontains"
  | .empty => "_empty"
  | .filled => "_nempty"
  | .above => "_gt"
  | .atLeast => "_gte"
  | .below => "_lt"
  | .atMost => "_lte"

def all : List Operator :=
  [.equal, .notEqual, .oneOf, .noneOf, .contains, .lacks,
    .empty, .filled, .above, .atLeast, .below, .atMost]

def ofKey? (k : String) : Option Operator := all.find? (fun op => op.key = k)

def takesList : Operator → Bool
  | .oneOf | .noneOf => true
  | _ => false

def phrase : Operator → String
  | .equal => "="
  | .notEqual => "!="
  | .oneOf => "in"
  | .noneOf => "not in"
  | .contains => "contains"
  | .lacks => "does not contain"
  | .empty => "is empty"
  | .filled => "is not empty"
  | .above => ">"
  | .atLeast => ">="
  | .below => "<"
  | .atMost => "<="

theorem ofKey?_key (op : Operator) : ofKey? op.key = some op := by
  cases op <;> simp [ofKey?, all, key]

end Operator

inductive Condition where
  | all (parts : List Condition)
  | any (parts : List Condition)
  | test (op : Operator) (path : String) (literal : Value)
  deriving Repr

namespace Condition

def conjunction : List Condition → Condition
  | [part] => part
  | parts => .all parts

def needsBrackets : Condition → Bool
  | .all (_ :: _ :: _) => true
  | .any (_ :: _ :: _) => true
  | _ => false

def testText (op : Operator) (path : String) (literal : Value) : String :=
  match op with
  | .empty | .filled => path ++ " " ++ op.phrase
  | _ => path ++ " " ++ op.phrase ++ " " ++ literal.literal

mutual

def describe : Condition → String
  | .all [] => "always"
  | .all (part :: parts) => " AND ".intercalate (describeParts (part :: parts))
  | .any parts => " OR ".intercalate (describeParts parts)
  | .test op path literal => testText op path literal
termination_by structural c => c

def describeParts : List Condition → List String
  | [] => []
  | part :: rest =>
    (if part.needsBrackets then "(" ++ describe part ++ ")" else describe part) ::
      describeParts rest
termination_by structural parts => parts

end

end Condition

end MadeToOrder
