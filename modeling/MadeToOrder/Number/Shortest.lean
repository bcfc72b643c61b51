import MadeToOrder.Number.Double

/-!
# The shortest decimal of a double

A double is written with the fewest significant digits that read back as the
same double, and of those with the digits nearest to it. For each count of
digits the two decimals next to the double on that grid are tried in exact
arithmetic, so seventeen attempts decide.
-/

set_option autoImplicit false

namespace MadeToOrder.Double

/-- Digits of a decimal and the place of its point: `0.d₁d₂… * 10 ^ point`. -/
structure Decimal where
  digits : List Char
  point : Int
  deriving DecidableEq, Repr

def leadingExponent (num den : Nat) : Int :=
  if den ≤ num then ((Nat.toDigits 10 (num / den)).length : Int) - 1
  else -((Nat.toDigits 10 ((den - 1) / num)).length : Int)

/-- The reals that round to `units`, in quarter steps: both ends, and whether
they are included. -/
def roundingInterval (units : Nat) : Nat × Nat × Bool :=
  let gap := Nat.pow 2 (spacing units)
  let below := if units = Nat.pow 2 52 * gap && 1 < gap then gap / 2 else gap
  (4 * units - 2 * below, 4 * units + 2 * gap, units / gap % 2 == 0)

def readsBack (units candidate : Nat) (scale : Int) : Bool :=
  let (low, high, closed) := roundingInterval units
  let value := candidate * (4 * one) * Nat.pow 10 (-scale).toNat
  let low := low * Nat.pow 10 scale.toNat
  let high := high * Nat.pow 10 scale.toNat
  if closed then decide (low ≤ value ∧ value ≤ high)
  else decide (low < value ∧ value < high)

def nearestOn? (units : Nat) (lead : Int) (count : Nat) : Option (Nat × Int) :=
  let scale : Int := count - 1 - lead
  let num := units * Nat.pow 10 scale.toNat
  let den := one * Nat.pow 10 (-scale).toNat
  let under := num / den
  let rest := 2 * (num % den)
  let preferred := if rest < den || (rest == den && under % 2 == 0) then under else under + 1
  let other := if preferred = under then under + 1 else under
  if readsBack units preferred scale then some (preferred, scale)
  else if readsBack units other scale then some (other, scale)
  else none

def shortest (units : Nat) : Decimal :=
  let lead := leadingExponent units one
  let (candidate, scale) :=
    ((List.range 17).findSome? (fun i => nearestOn? units lead (i + 1))).getD (units, 1074)
  let digits := Nat.toDigits 10 candidate
  ⟨(digits.reverse.dropWhile (· == '0')).reverse, (digits.length : Int) - scale⟩

def positional (point : Int) : Bool := decide (-4 < point ∧ point ≤ 16)

def exponentText (exponent : Int) : String :=
  let digits := Nat.toDigits 10 exponent.natAbs
  (if exponent < 0 then "e-" else "e+") ++
    String.ofList (if digits.length < 2 then '0' :: digits else digits)

/-- A whole number keeps a point and one zero; an exponent has a sign and at
least two digits. -/
def Decimal.text (d : Decimal) : String :=
  if positional d.point then
    if d.point ≤ 0 then
      "0." ++ String.ofList (List.replicate (-d.point).toNat '0' ++ d.digits)
    else
      let whole := d.point.toNat
      let front := d.digits.take whole ++ List.replicate (whole - d.digits.length) '0'
      let back := d.digits.drop whole
      String.ofList front ++ "." ++ String.ofList (if back.isEmpty then ['0'] else back)
  else
    let front := String.ofList (d.digits.take 1)
    let back := d.digits.drop 1
    (if back.isEmpty then front else front ++ "." ++ String.ofList back) ++
      exponentText (d.point - 1)

def text : Double → String
  | .nan => "nan"
  | .infinite negative => if negative then "-inf" else "inf"
  | .finite negative units =>
    (if negative then "-" else "") ++
      (if units = 0 then "0.0" else (shortest units).text)

theorem Decimal.text_ne_empty (d : Decimal) : d.text ≠ "" := by
  unfold Decimal.text
  split
  · split <;> simp
  · unfold exponentText
    split <;> simp

theorem text_ne_empty (d : Double) : d.text ≠ "" := by
  cases d with
  | nan => simp [text]
  | infinite negative => cases negative <;> simp [text]
  | finite negative units =>
    by_cases h : units = 0
    · simp [text, h]
    · simp [text, h, Decimal.text_ne_empty]

end MadeToOrder.Double
