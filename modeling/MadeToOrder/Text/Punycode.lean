/-!
# The length of labels in ASCII

A label with characters past ASCII is written in ASCII: first its own characters
of ASCII and a hyphen, then for each other character, by increasing code point,
how far it lies from the one before. The distance is a number of variable length
whose digits grow with a bias that follows the distances. Only the number of the
characters is counted here.
-/

set_option autoImplicit false

namespace MadeToOrder.Text.Punycode

structure Progress where
  distance : Nat
  bias : Nat
  placed : Nat
  length : Nat

def threshold (bias position : Nat) : Nat := min 26 (max 1 (36 * position - bias))

def digits (bias position distance : Nat) : Nat :=
  if threshold bias position ≤ distance then
    1 + digits bias (position + 1)
      ((distance - threshold bias position) / (36 - threshold bias position))
  else 1
termination_by distance
decreasing_by
  have : 1 ≤ threshold bias position := by unfold threshold; omega
  have := Nat.div_le_self (distance - threshold bias position) (36 - threshold bias position)
  omega

def slope (distance : Nat) : Nat :=
  if 455 < distance then 36 + slope (distance / 35) else 36 * distance / (distance + 38)
termination_by distance

def adapted (distance placed : Nat) (first : Bool) : Nat :=
  let scaled := if first then distance / 700 else distance / 2
  slope (scaled + scaled / placed)

def step (ascii turn : Nat) (p : Progress) (c : Char) : Progress :=
  if c.toNat < turn then { p with distance := p.distance + 1 }
  else if c.toNat = turn then
    { distance := 0
      bias := adapted p.distance (p.placed + 1) (p.placed == ascii)
      placed := p.placed + 1
      length := p.length + digits p.bias 1 p.distance }
  else p

def round (ascii : Nat) (cs : List Char) (reached : Nat × Progress) (turn : Nat) :
    Nat × Progress :=
  let p := { reached.2 with
    distance := reached.2.distance + (turn - reached.1) * (reached.2.placed + 1) }
  let p := cs.foldl (step ascii turn) p
  (turn + 1, { p with distance := p.distance + 1 })

def length (cs : List Char) : Nat :=
  let ascii := (cs.filter (fun c => c.toNat < 128)).length
  let turns := ((cs.map Char.toNat).filter (fun n => 128 ≤ n)).eraseDups.mergeSort
  (turns.foldl (round ascii cs) (128, ⟨0, 72, ascii, if ascii = 0 then 0 else ascii + 1⟩)).2.length

end MadeToOrder.Text.Punycode
