import RemoteDrive.Time.Instant
import RemoteDrive.Text.Decimal

/-!
# Writing timestamps

The counterparts of the readers in `RemoteDrive.Time.Reader`. A stored document gets `document`:
RFC 3339 in universal time with the shortest of no, three, six or nine digits that write the
nanoseconds exactly. `plain` and `zoned` write the two layouts in which the service itself writes;
nothing in this library sends a timestamp, but they are what the readers are measured against.

A year outside 0 to 9999 has a sign and at least four digits.
-/

set_option autoImplicit false

namespace RemoteDrive.Timestamp

/-- A year. -/
def yearText (year : Int) : String :=
  if 0 ≤ year ∧ year ≤ 9999 then Decimal.padded 4 year.toNat
  else (if year < 0 then "-" else "+") ++ Decimal.padded 4 year.natAbs

/-- A date. -/
def dateText (d : Date) : String :=
  yearText d.year ++ "-" ++ Decimal.padded 2 d.month ++ "-" ++ Decimal.padded 2 d.day

/-- A time of day to the second. -/
def timeText (w : WallClock) : String :=
  Decimal.padded 2 w.hour ++ ":" ++ Decimal.padded 2 w.minute ++ ":" ++ Decimal.padded 2 w.second

/-- A fraction of `digits` digits, with its point. -/
def fractionText (digits nanos : Nat) : String :=
  if digits = 0 then "" else "." ++ Decimal.padded digits (nanos / Nat.pow 10 (9 - digits))

/-- The fewest digits, in groups of three, that write `nanos` exactly. -/
def fractionWidth (nanos : Nat) : Nat :=
  if nanos = 0 then 0
  else if nanos % 1000000 = 0 then 3
  else if nanos % 1000 = 0 then 6
  else 9

/-- The form of a stored document. -/
def document (t : Instant) : String :=
  let w := WallClock.ofInstant t 0
  dateText w.date ++ "T" ++ timeText w ++ fractionText (fractionWidth w.nanos) w.nanos ++ "Z"

/-- The plain layout, to the second. -/
def plain (t : Instant) : String :=
  let w := WallClock.ofInstant t 0
  dateText w.date ++ " " ++ timeText w

/-- An offset of a whole number of minutes. -/
def offsetText (minutes : Int) : String :=
  (if minutes < 0 then "-" else "+") ++ Decimal.padded 2 (minutes.natAbs / 60) ++ ":" ++
    Decimal.padded 2 (minutes.natAbs % 60)

/-- RFC 3339 as a clock `minutes` ahead of universal time shows it, with `digits` digits after the
point. -/
def zoned (minutes : Int) (digits : Nat) (t : Instant) : String :=
  let w := WallClock.ofInstant t (minutes * 60)
  dateText w.date ++ "T" ++ timeText w ++ fractionText digits w.nanos ++ offsetText minutes

end RemoteDrive.Timestamp
