import MadeToOrder.Number.Double
import MadeToOrder.Text.Hexadecimal
import MadeToOrder.Value

/-!
# Reading JSON

A JSON document becomes a value. Fields keep their order, a repeated field
keeps its first place and its last value, a number with a point or an exponent
is a double and any other number an integer. Integers and nesting have a limit.
Reading is bounded by the length of the document. The limit on nesting is the reader's: that a
deep value can also exhaust what is called on it later is not modelled.
-/

set_option autoImplicit false

namespace MadeToOrder.Json

inductive Refusal where
  | malformed
  | tooDeep
  deriving DecidableEq, Repr

/-- The most lists and objects that may stand in one another. -/
def deepest : Nat := 985

def longestInteger : Nat := 4300

def isSpace (c : Char) : Bool := c = ' ' || c = '\n' || c = '\r' || c = '\t'

def skipSpace (cs : List Char) : List Char := cs.dropWhile isSpace

def hexUnit? : List Char → Option (Nat × List Char)
  | a :: b :: c :: d :: rest => do
    let a ← Text.hexValue? a
    let b ← Text.hexValue? b
    let c ← Text.hexValue? c
    let d ← Text.hexValue? d
    return (((a * 16 + b) * 16 + c) * 16 + d, rest)
  | _ => none

/-- The character of an escaped unit. A surrogate pair is one character, and a
surrogate alone is the replacement character. -/
def unitChar (unit : Nat) (rest : List Char) : Char × List Char :=
  if 0xd800 ≤ unit ∧ unit < 0xdc00 then
    match rest with
    | '\\' :: 'u' :: more =>
      match hexUnit? more with
      | some (low, after) =>
        if 0xdc00 ≤ low ∧ low < 0xe000 then
          (Char.ofNat (0x10000 + (unit - 0xd800) * 0x400 + (low - 0xdc00)), after)
        else ('\ufffd', rest)
      | none => ('\ufffd', rest)
    | _ => ('\ufffd', rest)
  else if 0xdc00 ≤ unit ∧ unit < 0xe000 then ('\ufffd', rest)
  else (Char.ofNat unit, rest)

def plainEscape? (c : Char) : Option Char :=
  if c = '"' || c = '\\' || c = '/' then some c
  else if c = 'n' then some '\n'
  else if c = 'r' then some '\r'
  else if c = 't' then some '\t'
  else if c = 'b' then some '\x08'
  else if c = 'f' then some '\x0c'
  else none

def readText : Nat → List Char → List Char → Except Refusal (String × List Char)
  | 0, _, _ => .error .malformed
  | fuel + 1, acc, cs =>
    match cs with
    | '"' :: rest => .ok (String.ofList acc.reverse, rest)
    | '\\' :: 'u' :: rest =>
      match hexUnit? rest with
      | some (unit, rest) =>
        let (c, rest) := unitChar unit rest
        readText fuel (c :: acc) rest
      | none => .error .malformed
    | '\\' :: c :: rest =>
      match plainEscape? c with
      | some c => readText fuel (c :: acc) rest
      | none => .error .malformed
    | c :: rest =>
      if c.toNat < 32 then .error .malformed else readText fuel (c :: acc) rest
    | [] => .error .malformed

def digitsValue (cs : List Char) : Nat :=
  cs.foldl (fun n c => 10 * n + (c.toNat - '0'.toNat)) 0

def isAsciiDigit (c : Char) : Bool := '0' ≤ c && c ≤ '9'

def readExponent (cs : List Char) : Option (Option Int × List Char) :=
  match cs with
  | c :: rest =>
    if c = 'e' || c = 'E' then
      let (negative, rest) := match rest with
        | '-' :: tail => (true, tail)
        | '+' :: tail => (false, tail)
        | tail => (false, tail)
      let (digits, tail) := rest.span isAsciiDigit
      if digits.isEmpty then none
      else some (some (if negative then -(digitsValue digits : Int) else digitsValue digits), tail)
    else some (none, cs)
  | [] => some (none, cs)

def readInteger (negative : Bool) (digits rest : List Char) :
    Except Refusal (Value × List Char) :=
  if longestInteger < digits.length then .error .malformed
  else
    let n : Int := digitsValue digits
    .ok (.int (if negative then -n else n), rest)

def readNumber (cs : List Char) : Except Refusal (Value × List Char) :=
  let (negative, cs) := match cs with
    | '-' :: tail => (true, tail)
    | tail => (false, tail)
  let (whole, rest) := cs.span isAsciiDigit
  if whole.isEmpty || (1 < whole.length && whole.head? = some '0') then .error .malformed
  else
    let (fraction, rest) := match rest with
      | '.' :: tail =>
        let (digits, after) := tail.span isAsciiDigit
        if digits.isEmpty then ([], rest) else (digits, after)
      | tail => ([], tail)
    match readExponent rest with
    | none => .error .malformed
    | some (none, rest) =>
      if fraction.isEmpty then readInteger negative whole rest
      else .ok (.float (Double.ofDecimal negative (digitsValue (whole ++ fraction))
        (-fraction.length)), rest)
    | some (some exponent, rest) =>
      .ok (.float (Double.ofDecimal negative (digitsValue (whole ++ fraction))
        (exponent - fraction.length)), rest)

def afterWord? (word : String) (cs : List Char) : Option (List Char) :=
  if word.toList.isPrefixOf cs then some (cs.drop word.length) else none

def words : List (String × Value) :=
  [("null", .null), ("true", .bool true), ("false", .bool false), ("NaN", .float .nan),
    ("Infinity", .float (.infinite false)), ("-Infinity", .float (.infinite true))]

def readWord (cs : List Char) : Option (Value × List Char) :=
  words.findSome? (fun (word, v) => (afterWord? word cs).map (fun rest => (v, rest)))

mutual

def readValue : Nat → Nat → List Char → Except Refusal (Value × List Char)
  | 0, _, _ => .error .malformed
  | fuel + 1, levels, cs =>
    match skipSpace cs with
    | '"' :: rest => (readText (rest.length + 1) [] rest).map (fun (s, rest) => (.text s, rest))
    | '[' :: rest =>
      if levels = 0 then .error .tooDeep
      else match skipSpace rest with
        | ']' :: rest => .ok (.list [], rest)
        | rest =>
          (readItems fuel (levels - 1) rest).map (fun (items, rest) => (.list items, rest))
    | '\x7b' :: rest =>
      if levels = 0 then .error .tooDeep
      else match skipSpace rest with
        | '\x7d' :: rest => .ok (.object [], rest)
        | rest => (readFields fuel (levels - 1) rest).map (fun (fields, rest) =>
          (.object (Keyed.ofList fields), rest))
    | cs =>
      match readWord cs with
      | some read => .ok read
      | none => readNumber cs

def readItems : Nat → Nat → List Char → Except Refusal (List Value × List Char)
  | 0, _, _ => .error .malformed
  | fuel + 1, levels, cs => do
    let (v, rest) ← readValue fuel levels cs
    match skipSpace rest with
    | ',' :: rest =>
      let (items, rest) ← readItems fuel levels rest
      return (v :: items, rest)
    | ']' :: rest => return ([v], rest)
    | _ => .error .malformed

def readFields : Nat → Nat → List Char → Except Refusal (List (String × Value) × List Char)
  | 0, _, _ => .error .malformed
  | fuel + 1, levels, cs =>
    match skipSpace cs with
    | '"' :: rest => do
      let (key, rest) ← readText (rest.length + 1) [] rest
      match skipSpace rest with
      | ':' :: rest =>
        let (v, rest) ← readValue fuel levels rest
        match skipSpace rest with
        | ',' :: rest =>
          let (fields, rest) ← readFields fuel levels rest
          return ((key, v) :: fields, rest)
        | '\x7d' :: rest => return ([(key, v)], rest)
        | _ => .error .malformed
      | _ => .error .malformed
    | _ => .error .malformed

end

def read (cs : List Char) : Except Refusal Value := do
  let (v, rest) ← readValue (2 * cs.length + 2) deepest cs
  if (skipSpace rest).isEmpty then return v else .error .malformed

end MadeToOrder.Json
