import MadeToOrder.Value

/-!
# Agreement and order of values

Two values agree when they are equal as data: numbers and truth values by their
place on the number line, lists item by item, objects field by field in any
order. An infinite double lies past every integer, and a double that is not a
number agrees with itself only. Numbers, texts and lists are ordered among
themselves, and no other two shapes are comparable.
-/

set_option autoImplicit false

namespace MadeToOrder.Value

def isNaN : Value → Bool
  | .float .nan => true
  | _ => false

/-- Numbers at the same place agree, and so do two that are not numbers; a value
of another shape has no place. -/
def samePlace (a b : Value) : Bool :=
  match a.place?, b.place? with
  | some x, some y => decide (x = y)
  | none, none => a.isNaN && b.isNaN
  | _, _ => false

mutual

def agrees : Value → Value → Bool
  | .null, .null => true
  | .text s, .text t => s == t
  | .list xs, .list ys => agreeItems xs ys
  | .object fs, .object gs => fs.length == gs.length && agreeFields fs gs
  | a, b => samePlace a b
termination_by structural a => a

def agreeItems : List Value → List Value → Bool
  | [], [] => true
  | x :: xs, y :: ys => agrees x y && agreeItems xs ys
  | _, _ => false
termination_by structural xs => xs

def agreeFields : List (String × Value) → List (String × Value) → Bool
  | [], _ => true
  | (key, v) :: rest, gs =>
    (match Keyed.get? gs key with
      | some w => agrees v w
      | none => false) && agreeFields rest gs
termination_by structural fs => fs

end

def isNumber : Value → Bool
  | .bool _ => true
  | .int _ => true
  | .float _ => true
  | _ => false

mutual

def less? : Value → Value → Option Bool
  | .text s, .text t => some (decide (s < t))
  | .list xs, .list ys => lessItems? xs ys
  | a, b =>
    if a.isNumber && b.isNumber then
      some (match a.place?, b.place? with
        | some x, some y => x.before y
        | _, _ => false)
    else none
termination_by structural a => a

def lessItems? : List Value → List Value → Option Bool
  | [], ys => some (!ys.isEmpty)
  | _ :: _, [] => some false
  | x :: xs, y :: ys => if agrees x y then lessItems? xs ys else less? x y
termination_by structural xs => xs

end

mutual

/-- No part of the value is a double that is not a number, so that comparing it
with others of its shape is an order. -/
def isOrdered : Value → Bool
  | .list items => itemsOrdered items
  | .object fs => fieldsOrdered fs
  | v => !v.isNaN
termination_by structural v => v

def itemsOrdered : List Value → Bool
  | [] => true
  | v :: rest => isOrdered v && itemsOrdered rest
termination_by structural items => items

def fieldsOrdered : List (String × Value) → Bool
  | [] => true
  | (_, v) :: rest => isOrdered v && fieldsOrdered rest
termination_by structural fs => fs

end

theorem less?_int (i j : Int) : (Value.int i).less? (.int j) = some (decide (i < j)) := by
  have positive : 0 < (Double.one : Int) := Int.natCast_pos.mpr Double.one_pos
  have scaled : i * Double.one < j * Double.one ↔ i < j :=
    ⟨fun h => Int.lt_of_mul_lt_mul_right h (Int.le_of_lt positive),
      fun h => Int.mul_lt_mul_of_pos_right h positive⟩
  have compared : (Value.int i).less? (.int j) =
      some (decide (i * Double.one < j * Double.one)) := rfl
  simp only [compared, scaled]

theorem isNumber_of_place? {v : Value} {p : Place} (h : v.place? = some p) :
    v.isNumber = true := by
  cases v with
  | bool b => rfl
  | int i => rfl
  | float d => rfl
  | _ => cases h

theorem isNaN_of_place? {v : Value} (h : v.place? = none) : v.isNaN = v.isNumber := by
  cases v with
  | bool b => cases h
  | int i => cases h
  | float d =>
    cases d with
    | nan => rfl
    | _ => cases h
  | _ => rfl

theorem samePlace_iff (a b : Value) :
    a.samePlace b = true ↔ a.isNumber = true ∧ b.isNumber = true ∧ a.place? = b.place? := by
  unfold samePlace
  cases left : a.place? with
  | none =>
    cases right : b.place? with
    | none => simp [isNaN_of_place? left, isNaN_of_place? right]
    | some q => simp
  | some p =>
    cases right : b.place? with
    | none => simp
    | some q => simp [isNumber_of_place? left, isNumber_of_place? right]

inductive Identity where
  | nothing
  | text (s : String)
  | number (place : Option Place)
  deriving DecidableEq

def identity? (v : Value) : Option Identity :=
  match v with
  | .null => some .nothing
  | .text s => some (.text s)
  | .list _ => none
  | .object _ => none
  | number => some (.number number.place?)

theorem agrees_iff_identity? {a b : Value} (h : a.isHashable = true) :
    a.agrees b = true ↔ a.identity? = b.identity? := by
  cases a with
  | list items => simp [isHashable] at h
  | object fields => simp [isHashable] at h
  | _ => cases b <;> simp [agrees, identity?, samePlace_iff, isNumber]

/-- A key agrees with the values that an agreeing key agrees with. -/
theorem agrees_congr {a b : Value} (ha : a.isHashable = true) (hb : b.isHashable = true)
    (h : a.agrees b = true) (c : Value) : a.agrees c = b.agrees c := by
  rw [Bool.eq_iff_iff, agrees_iff_identity? ha, agrees_iff_identity? hb,
    (agrees_iff_identity? ha).mp h]

end MadeToOrder.Value
