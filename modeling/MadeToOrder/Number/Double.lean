/-!
# Binary64 numbers

A double is kept as an exact count of its smallest positive step, so comparing
two doubles compares integers and rounding is one division. Only what a
catalog needs is here: rounding a quotient, an integer or a decimal to the
nearest double, and comparison. There is no arithmetic.
-/

set_option autoImplicit false

namespace MadeToOrder

/-- A finite double is `units` steps of size 2^-1074, with a sign. -/
inductive Double where
  | finite (negative : Bool) (units : Nat)
  | infinite (negative : Bool)
  | nan
  deriving DecidableEq, Repr, Inhabited

inductive Place where
  | lowest
  | steps (count : Int)
  | highest
  deriving DecidableEq, Repr

namespace Place

def before : Place → Place → Bool
  | .lowest, .lowest => false
  | .lowest, _ => true
  | .steps a, .steps b => decide (a < b)
  | .steps _, .highest => true
  | _, _ => false

end Place

namespace Double

def one : Nat := Nat.pow 2 1074

theorem one_pos : 0 < one := by
  unfold one
  generalize 1074 = exponent
  exact Nat.two_pow_pos exponent

def bound : Nat := Nat.pow 2 2098

def zero : Double := .finite false 0

def roundHalfEven (num den : Nat) : Nat :=
  let quotient := num / den
  let rest := 2 * (num % den)
  if rest < den then quotient
  else if den < rest then quotient + 1
  else quotient + quotient % 2

def spacing (units : Nat) : Nat := units.log2 - 52

def ofQuotient (negative : Bool) (num den : Nat) : Double :=
  let steps := num * one
  let exponent := spacing (steps / den)
  let scale := Nat.pow 2 exponent
  let units := roundHalfEven steps (den * scale) * scale
  if units < bound then .finite negative units else .infinite negative

/-- The double nearest to `digits * 10 ^ exponent`. Exponents past the range of
doubles are answered without forming the power. -/
def ofDecimal (negative : Bool) (digits : Nat) (exponent : Int) : Double :=
  let magnitude := exponent + (digits.log2 : Int) * 30103 / 100000
  if digits = 0 then .finite negative 0
  else if 400 < magnitude then .infinite negative
  else if magnitude < -400 then .finite negative 0
  else if 0 ≤ exponent then ofQuotient negative (digits * Nat.pow 10 exponent.toNat) 1
  else ofQuotient negative digits (Nat.pow 10 (-exponent).toNat)

def ofInt? (i : Int) : Option Double :=
  match ofQuotient (decide (i < 0)) i.natAbs 1 with
  | .finite negative units => some (.finite negative units)
  | _ => none

def place? : Double → Option Place
  | .finite negative units => some (.steps (if negative then -(units : Int) else units))
  | .infinite negative => some (if negative then .lowest else .highest)
  | .nan => none

def isFinite : Double → Bool
  | .finite _ _ => true
  | _ => false

def isZero : Double → Bool
  | .finite _ units => units == 0
  | _ => false

def related (relation : Place → Place → Bool) (a b : Double) : Bool :=
  match a.place?, b.place? with
  | some x, some y => relation x y
  | _, _ => false

def equal (a b : Double) : Bool := related (fun x y => decide (x = y)) a b
def less (a b : Double) : Bool := related Place.before a b
def lessEqual (a b : Double) : Bool := related (fun x y => !y.before x) a b

def truncate? : Double → Option Int
  | .finite negative units =>
    some (if negative then -((units / one : Nat) : Int) else (units / one : Nat))
  | _ => none

def isWhole : Double → Bool
  | .finite _ units => units % one == 0
  | _ => false

theorem equal_symm (a b : Double) : equal a b = equal b a := by
  unfold equal related
  cases a.place? <;> cases b.place? <;> simp [eq_comm]

end Double

end MadeToOrder
