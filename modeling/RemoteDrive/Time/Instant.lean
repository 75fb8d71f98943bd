import RemoteDrive.Time.Calendar

/-!
# Instants

An instant is a count of seconds since the start of 1970 in universal time and the nanoseconds
within that second. A leap second has no number of its own: it is the second before it, the last of
a minute, with a thousand million nanoseconds or more. Instants are those that the calendar covers,
the years -262143 to 262142, and the bounds are part of the type; moving an instant may therefore
fail (`addSeconds?`).
-/

set_option autoImplicit false

namespace RemoteDrive

/-- The nanoseconds of one second. -/
def nanosPerSecond : Nat := 1000000000

/-- The seconds of one day. -/
def secondsPerDay : Int := 86400

/-- A moment in universal time. -/
structure Instant where
  seconds : Int
  nanos : Nat
  seconds_ge : -8334601228800 ≤ seconds
  seconds_le : seconds ≤ 8210266876799
  nanos_lt : nanos < 2 * nanosPerSecond
  leap_at_end : nanosPerSecond ≤ nanos → seconds % 60 = 59
deriving DecidableEq

namespace Instant

/-- The instant with these seconds and nanoseconds, if there is one. -/
def make? (seconds : Int) (nanos : Nat) : Option Instant :=
  if h : (-8334601228800 ≤ seconds ∧ seconds ≤ 8210266876799) ∧
      nanos < 2 * nanosPerSecond ∧ (nanosPerSecond ≤ nanos → seconds % 60 = 59) then
    some ⟨seconds, nanos, h.1.1, h.1.2, h.2.1, h.2.2⟩
  else none

/-- The start of 1970. -/
def epoch : Instant := ⟨0, 0, by decide, by decide, by decide, by decide⟩

/-- Inside a leap second. -/
def isLeap (t : Instant) : Bool := nanosPerSecond ≤ t.nanos

/-- `t` is not later than `u`. -/
def le (t u : Instant) : Bool :=
  t.seconds < u.seconds || (t.seconds == u.seconds && t.nanos ≤ u.nanos)

/-- The instant `n` seconds after `t` (before it, for a negative `n`); none outside the calendar.
A step out of a leap second counts it as a second of its own. -/
def addSeconds? (t : Instant) (n : Int) : Option Instant :=
  if t.isLeap then
    if 0 < n then make? (t.seconds + n) (t.nanos - nanosPerSecond)
    else if n < 0 then make? (t.seconds + 1 + n) (t.nanos - nanosPerSecond)
    else some t
  else make? (t.seconds + n) t.nanos

theorem make?_self (t : Instant) : make? t.seconds t.nanos = some t := by
  unfold make?
  rw [dif_pos ⟨⟨t.seconds_ge, t.seconds_le⟩, t.nanos_lt, t.leap_at_end⟩]

end Instant

/-- A date and a time of day, as a clock on the wall shows them. Second 60 is a leap second. -/
structure WallClock where
  date : Date
  hour : Nat
  minute : Nat
  second : Nat
  nanos : Nat
deriving DecidableEq

namespace WallClock

/-- The years that the calendar covers. -/
def inCalendar (year : Int) : Bool := -262143 ≤ year ∧ year ≤ 262142

/-- A reading that a clock can show. -/
def isValid (w : WallClock) : Bool :=
  w.date.isValid ∧ inCalendar w.date.year ∧ w.hour ≤ 23 ∧ w.minute ≤ 59 ∧ w.second ≤ 60 ∧
    w.nanos < nanosPerSecond

/-- The moment at which a clock that is `offset` seconds ahead of universal time shows `w`. -/
def toInstant? (w : WallClock) (offset : Int) : Option Instant :=
  if w.isValid then
    let day := w.date.dayNumber * secondsPerDay + w.hour * 3600 + w.minute * 60 - offset
    if w.second = 60 then Instant.make? (day + 59) (w.nanos + nanosPerSecond)
    else Instant.make? (day + w.second) w.nanos
  else none

/-- What a clock that is `offset` seconds ahead of universal time shows at `t`. -/
def ofInstant (t : Instant) (offset : Int) : WallClock :=
  let s := t.seconds + offset
  let inDay := (s % secondsPerDay).toNat
  let second := inDay % 60
  { date := Date.ofDayNumber (s / secondsPerDay)
    hour := inDay / 3600
    minute := inDay / 60 % 60
    second := if t.isLeap then second + 1 else second
    nanos := if t.isLeap then t.nanos - nanosPerSecond else t.nanos }

end WallClock

end RemoteDrive
