import MadeToOrder.Text.Hexadecimal
import MadeToOrder.Text.Printable

/-!
# Quoted text

A text inside quotes. Single quotes are preferred, double quotes are used when
the text holds a single quote and no double quote. Backslashes, the quote,
controls and unprintable characters are escaped.
-/

set_option autoImplicit false

namespace MadeToOrder.Text

def quoteFor (cs : List Char) : Char :=
  if cs.contains '\'' && !cs.contains '"' then '"' else '\''

def escapedChar (quote c : Char) : List Char :=
  if c = quote || c = '\\' then ['\\', c]
  else if c = '\n' then ['\\', 'n']
  else if c = '\r' then ['\\', 'r']
  else if c = '\t' then ['\\', 't']
  else if isPrintable c then [c]
  else if c.toNat < 0x100 then '\\' :: 'x' :: hexadecimal 2 c.toNat
  else if c.toNat < 0x10000 then '\\' :: 'u' :: hexadecimal 4 c.toNat
  else '\\' :: 'U' :: hexadecimal 8 c.toNat

def quotedChars (cs : List Char) : List Char :=
  let quote := quoteFor cs
  quote :: cs.flatMap (escapedChar quote) ++ [quote]

def quoted (s : String) : String := String.ofList (quotedChars s.toList)

end MadeToOrder.Text
