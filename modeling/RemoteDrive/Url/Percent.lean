import RemoteDrive.Text.Hex

/-!
# Percent signs

In a URL a character that would be misread is written byte by byte, a percent sign before the two
digits of each byte. Which characters those are depends on where they stand, so `encode` takes the
set of characters that stay. Decoding does not depend on the set, and a percent sign without two
digits behind it is itself.
-/

set_option autoImplicit false

namespace RemoteDrive.Percent

/-- One byte with its percent sign; the digits are upper case. -/
def byte (b : UInt8) : List Char :=
  ['%', (Hex.digit (b.toNat / 16)).toUpper, (Hex.digit (b.toNat % 16)).toUpper]

/-- All bytes of a character. -/
def char (c : Char) : List Char := (String.utf8EncodeChar c).flatMap byte

/-- The text with every character written byte by byte that `keep` does not hold of. -/
def encode (keep : Char → Bool) (s : List Char) : List Char :=
  s.flatMap fun c => if keep c then [c] else char c

/-- The bytes that a text stands for. -/
def decode : List Char → List UInt8
  | [] => []
  | '%' :: a :: b :: rest =>
    match Hex.value? a, Hex.value? b with
    | some high, some low => UInt8.ofNat (16 * high + low) :: decode rest
    | _, _ => 0x25 :: decode (a :: b :: rest)
  | c :: rest => String.utf8EncodeChar c ++ decode rest

/-! ## What stays where -/

/-- A visible ASCII character or the space. -/
def isPrintable (c : Char) : Bool := 0x20 ≤ c.toNat && c.toNat ≤ 0x7E

/-- A printable character that is none of `marks`. -/
def isPrintableBut (marks : String) (c : Char) : Bool :=
  isPrintable c && !marks.toList.contains c

/-- Stays in a fragment. -/
def inFragment : Char → Bool := isPrintableBut " \"<>`"

/-- Stays in a path. -/
def inPath : Char → Bool := isPrintableBut " \"<>`#?\x7b\x7d"

/-- Stays in a user's name or password. -/
def inUser : Char → Bool := isPrintableBut " \"<>`#?\x7b\x7d/:;=@[\\]^|"

/-- Stays in a query; an apostrophe does so outside the well-known schemes only. -/
def inQuery (known : Bool) : Char → Bool :=
  isPrintableBut (if known then " \"#<>'" else " \"#<>")

end RemoteDrive.Percent
