import MadeToOrder.Number.Shortest
import MadeToOrder.Text.Quoted
import MadeToOrder.Value

/-!
# Writing JSON

A value as a JSON document. A style decides the separators, whether characters
past ASCII are escaped, and how numbers without a JSON form are spelled.
-/

set_option autoImplicit false

namespace MadeToOrder.Json

structure Style where
  itemSeparator : String
  fieldSeparator : String
  escapeWide : Bool
  infinity : String
  negativeInfinity : String
  notANumber : String

def Style.compact : Style := ⟨",", ":", false, "\"inf\"", "\"-inf\"", "\"nan\""⟩

def Style.spaced : Style := ⟨", ", ": ", true, "Infinity", "-Infinity", "NaN"⟩

def unitEscape (unit : Nat) : List Char := '\\' :: 'u' :: Text.hexadecimal 4 unit

def wideEscape (c : Char) : List Char :=
  if c.toNat < 0x10000 then unitEscape c.toNat
  else
    let offset := c.toNat - 0x10000
    unitEscape (0xd800 + offset / 0x400) ++ unitEscape (0xdc00 + offset % 0x400)

def escaped (style : Style) (c : Char) : List Char :=
  if c = '"' then ['\\', '"']
  else if c = '\\' then ['\\', '\\']
  else if c = '\n' then ['\\', 'n']
  else if c = '\r' then ['\\', 'r']
  else if c = '\t' then ['\\', 't']
  else if c = '\x08' then ['\\', 'b']
  else if c = '\x0c' then ['\\', 'f']
  else if c.toNat < 32 then unitEscape c.toNat
  else if style.escapeWide && 127 ≤ c.toNat then wideEscape c
  else [c]

def writeText (style : Style) (s : String) : String :=
  "\"" ++ String.ofList (s.toList.flatMap (escaped style)) ++ "\""

def writeDouble (style : Style) : Double → String
  | .nan => style.notANumber
  | .infinite negative => if negative then style.negativeInfinity else style.infinity
  | d => d.text

mutual

def write (style : Style) : Value → String
  | .null => "null"
  | .bool b => if b then "true" else "false"
  | .int i => toString i
  | .float d => writeDouble style d
  | .text s => writeText style s
  | .list items => "[" ++ style.itemSeparator.intercalate (writeItems style items) ++ "]"
  | .object fields =>
    "\x7b" ++ style.itemSeparator.intercalate (writeFields style fields) ++ "\x7d"
termination_by structural v => v

def writeItems (style : Style) : List Value → List String
  | [] => []
  | v :: rest => write style v :: writeItems style rest
termination_by structural vs => vs

def writeFields (style : Style) : List (String × Value) → List String
  | [] => []
  | (key, v) :: rest =>
    (writeText style key ++ style.fieldSeparator ++ write style v) :: writeFields style rest
termination_by structural fs => fs

end

end MadeToOrder.Json
