/-!
# Decimal digits

Every number this library shows or reads is decimal, so the notation is written down once:
`Decimal.nat` and `Decimal.int` show, `Decimal.padded` shows to a fixed width, and
`Decimal.value` reads a run of digits. A digit is one of the ten ASCII characters; the other
decimal digits of Unicode are ordinary text.

Reading is a left fold, so the value of a run that continues is the value so far times ten plus
the next digit. `digits` splits a text into its leading run of digits and what is left, with an
upper limit on the run because several notations fix its width.
-/

set_option autoImplicit false

namespace RemoteDrive.Decimal

/-- The natural number `n` in decimal, without leading zeros. -/
def nat (n : Nat) : String := String.ofList (Nat.toDigits 10 n)

/-- The integer `n` in decimal, a minus sign before a negative one. -/
def int : Int → String
  | .ofNat n => nat n
  | .negSucc n => "-" ++ nat (n + 1)

/-- `n` in at least `width` digits, filled up with zeros on the left. -/
def padded (width n : Nat) : String :=
  let ds := Nat.toDigits 10 n
  String.ofList (List.replicate (width - ds.length) '0' ++ ds)

/-- One of the ten ASCII digits. -/
def isDigit (c : Char) : Bool := '0' ≤ c && c ≤ '9'

/-- The value of an ASCII digit. -/
def digitValue (c : Char) : Nat := c.toNat - '0'.toNat

/-- The value of a run of digits; the empty run is zero. -/
def value (ds : List Char) : Nat := ds.foldl (fun v c => v * 10 + digitValue c) 0

/-- The leading digits of `s`, at most `limit` of them, and what follows. -/
def digits : Nat → List Char → List Char × List Char
  | 0, s => ([], s)
  | _ + 1, [] => ([], [])
  | limit + 1, c :: s =>
    if isDigit c then
      let (ds, rest) := digits limit s
      (c :: ds, rest)
    else ([], c :: s)

end RemoteDrive.Decimal
