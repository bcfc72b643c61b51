import MadeToOrder.Text.Hexadecimal
import MadeToOrder.Text.Utf8

/-!
# Percent escapes

A percent sign and two hexadecimal digits stand for a byte. Escapes that follow
one another are read together as the bytes of characters; a percent sign
without two digits stands for itself.
-/

set_option autoImplicit false

namespace MadeToOrder.Text

def unescapedAfter (pending : List UInt8) : List Char → List Char
  | '%' :: a :: b :: rest =>
    match hexValue? a, hexValue? b with
    | some x, some y => unescapedAfter (UInt8.ofNat (16 * x + y) :: pending) rest
    | _, _ => ofUtf8 pending.reverse ++ '%' :: unescapedAfter [] (a :: b :: rest)
  | c :: rest => ofUtf8 pending.reverse ++ c :: unescapedAfter [] rest
  | [] => ofUtf8 pending.reverse

def percentDecoded (s : String) : String := String.ofList (unescapedAfter [] s.toList)

/-- A text without percent signs has no escapes. -/
theorem unescapedAfter_of_not_mem (cs : List Char) (h : '%' ∉ cs) : unescapedAfter [] cs = cs := by
  induction cs with
  | nil => simp [unescapedAfter, ofUtf8]
  | cons c rest ih =>
    have hc : c ≠ '%' := fun e => h (by simp [e])
    have hr : '%' ∉ rest := fun m => h (by simp [m])
    rw [unescapedAfter]
    · simp [ofUtf8, ih hr]
    · intro a b tail e
      exact absurd e hc

end MadeToOrder.Text
