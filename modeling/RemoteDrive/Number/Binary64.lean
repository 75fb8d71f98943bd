import RemoteDrive.Text.Decimal

/-!
# Finite binary64 numbers, exactly

Numbers in replies that are not plain integers are read as IEEE 754 binary64, and three rules of
this library then depend on the exact value: an identifier shows it rounded to an integer, a file
size and a status code show it cut to one. A hardware float answers those questions without
saying why, so the numbers are kept here as what they are: a finite binary64 number is a signed
multiple of 2⁻¹⁰⁷⁴, `significand · 2^scale` of them, with a significand of at most 53 bits.

All arithmetic is then arithmetic of naturals. `nearest` rounds a quotient of naturals to the
closest representable value, the even one of two equally close, and multiplication and division
are the exact result put through it. Infinities and NaN do not occur: a result too large for the
format is `none`.

The integer questions are `whole` (cut toward zero) and `rounded` (to the nearest integer, ties to
even), both on the magnitude; the sign is kept apart because negative zero keeps it.
-/

set_option autoImplicit false

namespace RemoteDrive

/-- 2⁵³, since a significand has 53 bits. -/
def significandLimit : Nat := 0x20000000000000

/-- A finite binary64 number: `significand · 2^scale / 2^1074`, negative or not. -/
structure Binary64 where
  negative : Bool
  significand : Nat
  scale : Nat
  significand_lt : significand < significandLimit
  scale_le : scale ≤ 2045
deriving DecidableEq

namespace Binary64

/-- The magnitude as a count of the smallest positive unit, 2⁻¹⁰⁷⁴. -/
def units (x : Binary64) : Nat := x.significand * Nat.pow 2 x.scale

/-- How many units make one. -/
def one : Nat := Nat.pow 2 1074

/-- Whether the fraction `rem / den` (less than one) is rounded up: more than a half is, and a
half exactly when the digit before it, `q`, is odd. -/
def roundsUp (q rem den : Nat) : Bool := 2 * rem > den || (2 * rem == den && q % 2 == 1)

/-- The scale at which `q` units have at most 53 significant bits. -/
def scaleOf (q : Nat) : Nat := Nat.log2 q - 52

/-- The significand and scale closest to `num / den`, before the upper limit of the format is
looked at. A carry out of the 53 bits moves to the next scale. -/
def nearest (num den : Nat) : Nat × Nat :=
  let exact := num * one
  let scale := scaleOf (exact / den)
  let unit := den * Nat.pow 2 scale
  let low := exact / unit
  let m := if roundsUp low (exact % unit) unit then low + 1 else low
  if m < significandLimit then (m, scale) else (significandLimit / 2, scale + 1)

/-- The number with this sign, significand and scale, if the format has it. -/
def make? (negative : Bool) (significand scale : Nat) : Option Binary64 :=
  if h : significand < significandLimit ∧ scale ≤ 2045 then
    some ⟨negative, significand, scale, h.1, h.2⟩
  else none

/-- Zero with a sign. -/
def zero (negative : Bool) : Binary64 := ⟨negative, 0, 0, by decide, by decide⟩

/-- `± num / den` rounded to the format; none when it is too large. -/
def ofQuotient? (negative : Bool) (num den : Nat) : Option Binary64 :=
  let r := nearest num den
  make? negative r.1 r.2

/-- An integer rounded to the format. Integers of one machine word never exceed it. -/
def ofInt? (n : Int) : Option Binary64 := ofQuotient? (n < 0) n.natAbs 1

/-- The product, rounded. -/
def mul? (x y : Binary64) : Option Binary64 :=
  ofQuotient? (x.negative != y.negative) (x.units * y.units) (one * one)

/-- The quotient, rounded; none for a zero divisor. -/
def div? (x y : Binary64) : Option Binary64 :=
  if y.units = 0 then none else ofQuotient? (x.negative != y.negative) x.units y.units

/-- The magnitude cut to an integer, toward zero. -/
def whole (x : Binary64) : Nat := x.units / one

/-- The magnitude rounded to the nearest integer, ties to even. -/
def rounded (x : Binary64) : Nat :=
  let q := x.whole
  if roundsUp q (x.units % one) one then q + 1 else q

/-- Above zero. -/
def isPositive (x : Binary64) : Bool := !x.negative && x.units != 0

/-- The number cut to an integer, toward zero. -/
def toInt (x : Binary64) : Int := if x.negative then -(x.whole : Int) else x.whole

/-! ## Decimal notation -/

/-- The representable number closest to a power of ten. -/
def tenTo? (k : Nat) : Option Binary64 := ofQuotient? false (Nat.pow 10 k) 1

/-- The greatest power of ten that one step of `scaled?` uses. -/
def tenLimit : Nat := 308

/-- `x · 10^e` in steps that each round: one multiplication or division by a representable power
of ten, and before it as many divisions by the greatest of them as the exponent needs. A number
that has reached zero stays there. None when the result is too large. -/
def scaled? (x : Binary64) (e : Int) : Option Binary64 :=
  if e.natAbs ≤ tenLimit then do
    let ten ← tenTo? e.natAbs
    if 0 ≤ e then x.mul? ten else x.div? ten
  else if x.units = 0 then some x
  else if _ : 0 ≤ e then none
  else do
    let ten ← tenTo? tenLimit
    let y ← x.div? ten
    y.scaled? (e + tenLimit)
termination_by e.natAbs
decreasing_by simp only [tenLimit] at *; omega

/-- The digits after the point that write `units` of the remainder exactly; every fraction of
2¹⁰⁷⁴ has at most 1074 of them. -/
def fractionDigits (units : Nat) : List Char :=
  let ds := (Decimal.padded 1074 (units * Nat.pow 5 1074)).toList
  (ds.reverse.dropWhile (· == '0')).reverse

/-- The exact value in decimal, with at least one digit after the point. -/
def text (x : Binary64) : String :=
  let fraction := fractionDigits (x.units % one)
  (if x.negative then "-" else "") ++ Decimal.nat x.whole ++ "." ++
    (if fraction.isEmpty then "0" else String.ofList fraction)

/-- The number rounded to an integer, in decimal; the sign of a negative number is kept even where
the digits are zero. -/
def roundedText (x : Binary64) : String :=
  (if x.negative then "-" else "") ++ Decimal.nat x.rounded

end Binary64

end RemoteDrive
