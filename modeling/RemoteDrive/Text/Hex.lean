/-!
# Hexadecimal

Digests and bytes are shown as pairs of lower-case hexadecimal digits, and a code point inside
quotation marks as its digits without leading zeros. Reading takes either case. `decode?` is the
inverse of `encode` and refuses everything that does not come in pairs.
-/

set_option autoImplicit false

namespace RemoteDrive.Hex

/-- The lower-case digit of `n`, for `n` below sixteen. -/
def digit (n : Nat) : Char := Nat.digitChar (n % 16)

/-- The value of a hexadecimal digit in either case. -/
def value? (c : Char) : Option Nat :=
  if '0' ≤ c ∧ c ≤ '9' then some (c.toNat - '0'.toNat)
  else if 'a' ≤ c ∧ c ≤ 'f' then some (c.toNat - 'a'.toNat + 10)
  else if 'A' ≤ c ∧ c ≤ 'F' then some (c.toNat - 'A'.toNat + 10)
  else none

/-- The two digits of one byte, the high half first. -/
def byte (b : UInt8) : List Char := [digit (b.toNat / 16), digit (b.toNat % 16)]

/-- The bytes as pairs of digits. -/
def encode (bytes : List UInt8) : String := String.ofList (bytes.flatMap byte)

/-- The bytes that pairs of digits write. -/
def decode? : List Char → Option (List UInt8)
  | [] => some []
  | [_] => none
  | a :: b :: rest => do
    let high ← value? a
    let low ← value? b
    let bytes ← decode? rest
    return UInt8.ofNat (16 * high + low) :: bytes

/-- A number in lower-case hexadecimal, without leading zeros. -/
def nat (n : Nat) : List Char := Nat.toDigits 16 n

end RemoteDrive.Hex
