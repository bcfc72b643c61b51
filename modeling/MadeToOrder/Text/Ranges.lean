/-!
# Tables of character ranges

A property of characters is a list of closed ranges of code points, and a
mapping of characters is a list of ranges with a stride and an offset. Both are
read in the order of the list.
-/

set_option autoImplicit false

namespace MadeToOrder.Text

abbrev Ranges := List (Nat × Nat)

def Ranges.has (table : Ranges) (c : Char) : Bool :=
  table.any (fun r => r.1 ≤ c.toNat && c.toNat ≤ r.2)

abbrev Offsets := List (Nat × Nat × Nat × Int)

def Offsets.image (table : Offsets) (c : Char) : Char :=
  match table.find? (fun (low, high, stride, _) =>
      low ≤ c.toNat && c.toNat ≤ high && (c.toNat - low) % stride == 0) with
  | some (_, _, _, offset) => Char.ofNat (c.toNat + offset).toNat
  | none => c

end MadeToOrder.Text
