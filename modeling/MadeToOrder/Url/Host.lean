import MadeToOrder.Text.Composition
import MadeToOrder.Text.Hexadecimal
import MadeToOrder.Text.LowerCase
import MadeToOrder.Text.Mark
import MadeToOrder.Text.Punycode
import MadeToOrder.Text.Search
import MadeToOrder.Text.Symbol

/-!
# Hosts

What may name a host: four octets, an address of eight groups in brackets, any
name in ASCII, or labels of letters and digits of other scripts. A name that
looks like octets must be octets.
-/

set_option autoImplicit false

namespace MadeToOrder.Url.Host

def isDigit (c : Char) : Bool := '0' ≤ c && c ≤ '9'

def digitRuns : Nat → List Char → List Nat
  | n, [] => [n]
  | n, c :: rest => if isDigit c then digitRuns (n + 1) rest else n :: digitRuns 0 rest

/-- Four groups of digits with any character between two of them. Each run of
digits gives room for further groups, with a digit in between. -/
def looksLikeOctets (cs : List Char) : Bool :=
  let runs := digitRuns 0 cs
  runs.all (fun n => 0 < n) && runs.length ≤ 4 &&
    4 - runs.length ≤ (runs.map (fun n => (n - 1) / 2)).foldl (· + ·) 0

def natural (cs : List Char) : Nat := cs.foldl (fun n c => 10 * n + (c.toNat - '0'.toNat)) 0

def isOctet (s : String) : Bool :=
  let cs := s.toList
  !cs.isEmpty && cs.all isDigit && cs.length ≤ 3 && (cs = ['0'] || cs.head? ≠ some '0') &&
    natural cs < 256

def isOctets (s : String) : Bool :=
  let parts := Text.split "." s
  parts.length == 4 && parts.all isOctet

def isGroup (s : String) : Bool :=
  let cs := s.toList
  !cs.isEmpty && cs.length ≤ 4 && cs.all (fun c => (Text.hexValue? c).isSome)

def groups? (s : String) : Option (List String) :=
  let parts := Text.split ":" s
  let last := parts.getLastD ""
  if parts.length < 3 then none
  else if last.toList.contains '.' then
    if isOctets last then some (parts.dropLast ++ ["0", "0"]) else none
  else some parts

/-- The groups around an omission: at most seven on both sides together. Beside
an end of the address an omission takes that end too. -/
def fitAround (before after : List String) : Bool :=
  let before := if before = [""] then [] else before
  let after := if after = [""] then [] else after
  before.all isGroup && after.all isGroup && before.length + after.length < 8

def areGroups (parts : List String) : Bool :=
  match ((parts.drop 1).dropLast).findIdx? String.isEmpty with
  | none => parts.length == 8 && parts.all isGroup
  | some i => fitAround (parts.take (i + 1)) (parts.drop (i + 2))

def isGroupAddress (s : String) : Bool :=
  match Text.split "%" s with
  | [address] => ((groups? address).map areGroups).getD false
  | [address, zone] => !zone.isEmpty && ((groups? address).map areGroups).getD false
  | _ => false

def isLabelChar (c : Char) : Bool :=
  isDigit c || ('a' ≤ c && c ≤ 'z') || c == '-' || (127 < c.toNat && !Text.isSymbol c)

def isFromRight (c : Char) : Bool :=
  ((0x590 ≤ c.toNat && c.toNat < 0x900) || (0x10800 ≤ c.toNat && c.toNat < 0x11000) ||
    (0x1e800 ≤ c.toNat && c.toNat < 0x1f000)) && !Text.isMark c

/-- A label with letters that are written from the right starts with one, and holds
no letters that are written from the left. -/
def hasOneDirection (cs : List Char) : Bool :=
  !cs.any isFromRight ||
    ((cs.head?.map isFromRight).getD true &&
      cs.all (fun c => isFromRight c || Text.isMark c || isDigit c || c == '-'))

def labelLength (cs : List Char) : Nat :=
  if cs.all (fun c => c.toNat < 128) then cs.length else 4 + Text.Punycode.length cs

def hasPlainHyphens (cs : List Char) : Bool :=
  cs.head? ≠ some '-' && cs.getLast? ≠ some '-' && (cs.drop 2).take 2 ≠ ['-', '-']

def isLabel (cs : List Char) : Bool :=
  !(cs.head?.map Text.isMark).getD true && cs.all isLabelChar && Text.isComposed cs &&
    hasOneDirection cs && hasPlainHyphens cs && labelLength cs ≤ 63

def isStop (c : Char) : Bool := c = '.' || c = '\u3002' || c = '\uff0e' || c = '\uff61'

def fitTogether (labels : List (List Char)) : Bool :=
  labels.all isLabel && (labels.map (fun l => labelLength l + 1)).foldl (· + ·) 0 ≤ 254

def areLabels (s : String) : Bool :=
  let dotted := (Text.lower s).toList.map (fun c => if isStop c then '.' else c)
  match (Text.split "." (String.ofList dotted)).reverse with
  | "" :: label :: rest => fitTogether ((label :: rest).map String.toList)
  | labels => fitTogether (labels.map String.toList)

def bracketed? (s : String) : Option String :=
  match s.toList with
  | '[' :: rest => if rest.getLast? = some ']' then some (String.ofList rest.dropLast) else none
  | _ => none

def isHost (s : String) : Bool :=
  if looksLikeOctets s.toList then isOctets s
  else match bracketed? s with
    | some address => isGroupAddress address
    | none => s.toList.all (fun c => c.toNat < 128) || areLabels s

end MadeToOrder.Url.Host
