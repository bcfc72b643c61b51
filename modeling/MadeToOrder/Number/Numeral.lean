import MadeToOrder.Number.Double
import MadeToOrder.Text.Blank
import MadeToOrder.Text.Digit

/-!
# Numerals

Reading numbers that users and remote systems write as text. Padding around a
numeral is dropped, the digits of every script count, and an underscore may
stand between two digits. A decimal may also be spelled `inf`, `infinity` or
`nan`; an integer is limited in length.
-/

set_option autoImplicit false

namespace MadeToOrder.Numeral

open MadeToOrder.Text

inductive Mark where
  | digit (value : Nat)
  | other (c : Char)
  deriving DecidableEq, Repr

def Mark.ofChar (c : Char) : Mark :=
  match digitValue? c with
  | some value => .digit value
  | none => .other c

def marks (s : String) : List Mark := (trimBy isPadding s.toList).map Mark.ofChar

def Mark.isDigit : Mark → Bool
  | .digit _ => true
  | .other _ => false

def underscoresSeparate (afterDigit : Bool) : List Mark → Bool
  | [] => true
  | .other '_' :: rest =>
    afterDigit && (rest.head?.map Mark.isDigit).getD false && underscoresSeparate false rest
  | m :: rest => underscoresSeparate m.isDigit rest

def joined? (ms : List Mark) : Option (List Mark) :=
  if underscoresSeparate false ms then some (ms.filter (· != .other '_')) else none

def splitSign : List Mark → Bool × List Mark
  | .other '-' :: rest => (true, rest)
  | .other '+' :: rest => (false, rest)
  | ms => (false, ms)

def leadingDigits : List Mark → List Nat × List Mark
  | .digit value :: rest =>
    let (values, tail) := leadingDigits rest
    (value :: values, tail)
  | ms => ([], ms)

def natural (values : List Nat) : Nat := values.foldl (fun n d => 10 * n + d) 0

def exponent? : List Mark → Option Int
  | [] => some 0
  | .other c :: rest =>
    if c = 'e' || c = 'E' then
      let (negative, rest) := splitSign rest
      let (values, tail) := leadingDigits rest
      if values.isEmpty || !tail.isEmpty then none
      else some (if negative then -(natural values : Int) else natural values)
    else none
  | .digit _ :: _ => none

def plainDecimal? (negative : Bool) (ms : List Mark) : Option Double :=
  let (whole, rest) := leadingDigits ms
  let (fraction, rest) := match rest with
    | .other '.' :: tail => leadingDigits tail
    | tail => ([], tail)
  if whole.isEmpty && fraction.isEmpty then none
  else (exponent? rest).map (fun e =>
    Double.ofDecimal negative (natural (whole ++ fraction)) (e - fraction.length))

def word (ms : List Mark) : String :=
  String.ofList (ms.map (fun m => match m with
    | .other c => c.toLower
    | .digit _ => '0'))

def decimal? (s : String) : Option Double := do
  let ms ← joined? (marks s)
  let (negative, ms) := splitSign ms
  match word ms with
  | "inf" | "infinity" => some (.infinite negative)
  | "nan" => some .nan
  | _ => plainDecimal? negative ms

inductive Refusal where
  | malformed
  | tooLong (digits : Nat)
  deriving DecidableEq, Repr

def longest : Nat := 4300

/-- The values of the digits in front, where an underscore may stand between two
of them, and what follows; `none` where an underscore is out of place. -/
def digitRun? (afterDigit : Bool) : List Mark → Option (List Nat × List Mark)
  | .digit value :: rest =>
    (digitRun? true rest).map (fun (values, tail) => (value :: values, tail))
  | .other c :: rest =>
    if c = '_' then
      if afterDigit && (rest.head?.map Mark.isDigit).getD false then digitRun? false rest
      else none
    else some ([], .other c :: rest)
  | [] => some ([], [])

/-- An integer numeral. Its length counts before what follows its digits. -/
def integer (s : String) : Except Refusal Int :=
  let (negative, ms) := splitSign (marks s)
  match digitRun? false ms with
  | none => .error .malformed
  | some (values, rest) =>
    if longest < values.length then .error (.tooLong values.length)
    else if values.isEmpty || !rest.isEmpty then .error .malformed
    else .ok (if negative then -(natural values : Int) else natural values)

end MadeToOrder.Numeral
