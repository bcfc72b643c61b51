/-!
# Base 64

Bytes written with sixty-four letters, four letters for three bytes. The last
group is filled up with equals signs.
-/

set_option autoImplicit false

namespace MadeToOrder.Text

def base64Alphabet : List Char :=
  "ABCDEFGHIJKLMNOPQRSTUVWXYZabcdefghijklmnopqrstuvwxyz0123456789+/".toList

def base64Letter (n : Nat) : Char := base64Alphabet.getD (n % 64) '='

def base64 : List UInt8 → List Char
  | a :: b :: c :: rest =>
    let n := a.toNat * 0x10000 + b.toNat * 0x100 + c.toNat
    [base64Letter (n / 0x40000), base64Letter (n / 0x1000), base64Letter (n / 0x40),
      base64Letter n] ++ base64 rest
  | [a, b] =>
    let n := a.toNat * 0x10000 + b.toNat * 0x100
    [base64Letter (n / 0x40000), base64Letter (n / 0x1000), base64Letter (n / 0x40), '=']
  | [a] =>
    let n := a.toNat * 0x10000
    [base64Letter (n / 0x40000), base64Letter (n / 0x1000), '=', '=']
  | [] => []

end MadeToOrder.Text
