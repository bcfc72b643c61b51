import MadeToOrder.Number.Shortest
import MadeToOrder.Text.Quoted
import MadeToOrder.Value

/-!
# Values as text

A value has a literal form, in which texts are quoted, and a plain form, in
which a text is itself. Ids are compared by their plain form. Inside lists and
objects every value is literal. An integer is written whatever its length: the limit on digits
that reading has is left out here.
-/

set_option autoImplicit false

namespace MadeToOrder.Value

mutual

def literal : Value → String
  | .null => "None"
  | .bool b => if b then "True" else "False"
  | .int i => toString i
  | .float d => d.text
  | .text s => Text.quoted s
  | .list items => "[" ++ ", ".intercalate (literalItems items) ++ "]"
  | .object fields => "\x7b" ++ ", ".intercalate (literalFields fields) ++ "\x7d"
termination_by structural v => v

def literalItems : List Value → List String
  | [] => []
  | v :: rest => literal v :: literalItems rest
termination_by structural vs => vs

def literalFields : List (String × Value) → List String
  | [] => []
  | (key, v) :: rest => (Text.quoted key ++ ": " ++ literal v) :: literalFields rest
termination_by structural fs => fs

end

def plain : Value → String
  | .text s => s
  | v => literal v

theorem plain_text (s : String) : plain (.text s) = s := rfl

theorem integer_text_ne_empty (i : Int) : i.repr ≠ "" := by
  cases i with
  | ofNat n =>
    intro h
    have digits := congrArg String.toList (show Nat.repr n = "" from h)
    simp [Nat.toList_repr] at digits
  | negSucc n =>
    change "-" ++ Nat.repr (n + 1) ≠ ""
    simp

/-- Only a text can be written as the empty text. -/
theorem plain_eq_empty_iff (v : Value) : plain v = "" ↔ v = .text "" := by
  cases v with
  | null => simp [plain, literal]
  | bool b => cases b <;> simp [plain, literal]
  | int i => simp [plain, literal, integer_text_ne_empty]
  | float d => simp [plain, literal, Double.text_ne_empty]
  | text s => simp [plain]
  | list items => simp [plain, literal]
  | object fields => simp [plain, literal]

end MadeToOrder.Value
