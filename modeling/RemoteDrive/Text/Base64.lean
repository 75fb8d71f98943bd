/-!
# Base 64

Bytes are written in letters, digits and two marks: three bytes are four digits of six bits each,
and what is missing from the last three bytes is filled up with equals signs.
-/

set_option autoImplicit false

namespace RemoteDrive.Base64

/-- The digit of `n`, for `n` below 64. -/
def digit (n : Nat) : Char :=
  if n < 26 then Char.ofNat (65 + n)
  else if n < 52 then Char.ofNat (71 + n)
  else if n < 62 then Char.ofNat (n - 4)
  else if n = 62 then '+' else '/'

/-- The first `count` digits of a number of 24 bits. -/
def digits (count n : Nat) : List Char :=
  ([n / 0x40000, n / 0x1000 % 64, n / 64 % 64, n % 64].take count).map digit

/-- The bytes in base 64. -/
def encode : List UInt8 → List Char
  | [] => []
  | [a] => digits 2 (a.toNat * 0x10000) ++ ['=', '=']
  | [a, b] => digits 3 (a.toNat * 0x10000 + b.toNat * 0x100) ++ ['=']
  | a :: b :: c :: rest =>
    digits 4 (a.toNat * 0x10000 + b.toNat * 0x100 + c.toNat) ++ encode rest

end RemoteDrive.Base64
