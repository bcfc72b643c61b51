import MadeToOrder.Text.Search
import MadeToOrder.Value

/-!
# Values in replies

Infinite doubles and those that are no number have no form in a reply. Replies
of a fixed shape show null in their place; a reply of any other shape cannot
show them at all, and it leaves out the fields that are reserved.
-/

set_option autoImplicit false

namespace MadeToOrder.Service

mutual

def isShowable : Value → Bool
  | .float d => d.isFinite
  | .list items => areShowable items
  | .object fs => fieldsShowable fs
  | _ => true
termination_by structural v => v

def areShowable : List Value → Bool
  | [] => true
  | v :: rest => isShowable v && areShowable rest
termination_by structural vs => vs

def fieldsShowable : List (String × Value) → Bool
  | [] => true
  | (_, v) :: rest => isShowable v && fieldsShowable rest
termination_by structural fs => fs

end

mutual

def withNulls : Value → Value
  | .float d => if d.isFinite then .float d else .null
  | .list items => .list (itemsWithNulls items)
  | .object fs => .object (fieldsWithNulls fs)
  | v => v
termination_by structural v => v

def itemsWithNulls : List Value → List Value
  | [] => []
  | v :: rest => withNulls v :: itemsWithNulls rest
termination_by structural vs => vs

def fieldsWithNulls : List (String × Value) → List (String × Value)
  | [] => []
  | (key, v) :: rest => (key, withNulls v) :: fieldsWithNulls rest
termination_by structural fs => fs

end

def isReserved (key : String) : Bool := Text.startsWith key "_sa"

mutual

def withoutReserved : Value → Value
  | .list items => .list (itemsWithoutReserved items)
  | .object fs => .object (fieldsWithoutReserved fs)
  | v => v
termination_by structural v => v

def itemsWithoutReserved : List Value → List Value
  | [] => []
  | v :: rest => withoutReserved v :: itemsWithoutReserved rest
termination_by structural vs => vs

def fieldsWithoutReserved : List (String × Value) → List (String × Value)
  | [] => []
  | (key, v) :: rest =>
    if isReserved key then fieldsWithoutReserved rest
    else (key, withoutReserved v) :: fieldsWithoutReserved rest
termination_by structural fs => fs

end

/-- A reply of a fixed shape, or of any shape, shows a value. -/
def shownAs (fixed : Bool) (v : Value) : Option Value :=
  if fixed then some (withNulls v)
  else
    let v := withoutReserved v
    if isShowable v then some v else none

end MadeToOrder.Service
