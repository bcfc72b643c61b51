/-!
# Bytes of text

The bytes of a text, one to four for each character, and the text of any bytes.
Bytes that are not those of a text are read all the same: the longest beginning
of a character that breaks off, or a single byte that begins none, becomes one
replacement character.
-/

set_option autoImplicit false

namespace MadeToOrder.Text

def replacement : Char := '\ufffd'

def utf8 (s : String) : List UInt8 := s.toUTF8.data.toList

/-- How many bytes follow the first byte of a character, and the range of the
first of them; `none` where no character begins with the byte. -/
def following? (b : UInt8) : Option (Nat × UInt8 × UInt8) :=
  if b < 0x80 then some (0, 0x80, 0xbf)
  else if b < 0xc2 then none
  else if b < 0xe0 then some (1, 0x80, 0xbf)
  else if b < 0xf0 then
    some (2, if b = 0xe0 then 0xa0 else 0x80, if b = 0xed then 0x9f else 0xbf)
  else if b < 0xf5 then
    some (3, if b = 0xf0 then 0x90 else 0x80, if b = 0xf4 then 0x8f else 0xbf)
  else none

def continuing : Nat → UInt8 → UInt8 → List UInt8 → List UInt8 × List UInt8
  | count + 1, low, high, b :: rest =>
    if low ≤ b && b ≤ high then
      let (more, tail) := continuing count 0x80 0xbf rest
      (b :: more, tail)
    else ([], b :: rest)
  | _, _, _, bs => ([], bs)

theorem length_continuing (count : Nat) (low high : UInt8) (bs : List UInt8) :
    (continuing count low high bs).2.length ≤ bs.length := by
  induction count generalizing low high bs with
  | zero => cases bs <;> simp [continuing]
  | succ count ih =>
    cases bs with
    | nil => simp [continuing]
    | cons b rest =>
      by_cases h : (low ≤ b && b ≤ high) = true
      · simp only [continuing, h, if_true, List.length_cons]
        exact Nat.le_succ_of_le (ih _ _ _)
      · simp [continuing, h]

def assembled (first : UInt8) (more : List UInt8) : Char :=
  let front := match more.length with
    | 0 => first.toNat
    | 1 => first.toNat % 0x20
    | 2 => first.toNat % 0x10
    | _ => first.toNat % 0x08
  Char.ofNat (more.foldl (fun n b => n * 0x40 + b.toNat % 0x40) front)

def ofUtf8 : List UInt8 → List Char
  | [] => []
  | b :: rest =>
    match following? b with
    | none => replacement :: ofUtf8 rest
    | some (count, low, high) =>
      let taken := continuing count low high rest
      (if taken.1.length = count then assembled b taken.1 else replacement) :: ofUtf8 taken.2
termination_by bs => bs.length
decreasing_by
  · simp
  · have := length_continuing count low high rest
    simp only [List.length_cons]
    omega

end MadeToOrder.Text
