import RemoteDrive.Time.Instant
import RemoteDrive.Text.Blank
import RemoteDrive.Text.Decimal

/-!
# Reading timestamps

The service writes its timestamps in one of two layouts, and a reader cannot know in which:
RFC 3339 (`2025-06-29T15:37:01.5+08:00`) or a plain date and time in universal time
(`2025-06-29 15:37:01`). `Timestamp.read?` trims the text and tries them in this order.

The RFC 3339 layout is fixed: four, two and two digits, a `T` in either case or one space, the time,
an optional fraction of any length of which nine digits count, and an offset of at most 23:59 either
way, whose minus may also be U+2212. The plain layout is lenient about widths: a number may have
white space before it and fewer digits than its width, and a year with an explicit sign may have
any number of them; the gap between date and time is any white space, or none.

A third reader, `readDocument?`, takes what stands in a stored document. It is RFC 3339 with the
leniency of the plain layout, white space wherever two parts meet, and `UTC` for the offset.

All three agree on what a second 60 is (a leap second, in any minute) and on the calendar, because
they only gather a `WallClock` and leave its meaning to it.
-/

set_option autoImplicit false

namespace RemoteDrive.Timestamp

open Text

/-- A reader of the start of a text: what it read, and the rest. -/
abbrev Reader (α : Type) := List Char → Option (α × List Char)

/-- Reads one given character. -/
def literal (c : Char) : List Char → Option (List Char)
  | [] => none
  | d :: s => if d = c then some s else none

/-- Reads between `least` and `most` digits as a number. -/
def number (least most : Nat) : Reader Nat := fun s =>
  let (ds, rest) := Decimal.digits most s
  if least ≤ ds.length then some (Decimal.value ds, rest) else none

/-- The nanoseconds that the digits of a fraction write; those beyond the ninth do not count. -/
def fractionNanos (ds : List Char) : Nat :=
  Decimal.value (ds.take 9) * Nat.pow 10 (9 - (ds.take 9).length)

/-- Reads an optional point with digits behind it. -/
def fraction : Reader Nat
  | '.' :: s =>
    match s.takeWhile Decimal.isDigit with
    | [] => none
    | ds => some (fractionNanos ds, s.dropWhile Decimal.isDigit)
  | s => some (0, s)

/-- The sign of an offset: whether it is negative. -/
def offsetSign : Reader Bool
  | '+' :: s => some (false, s)
  | '-' :: s => some (true, s)
  | '\u2212' :: s => some (true, s)
  | _ => none

/-- Reads an offset as seconds ahead of universal time, `separator` standing between hours and
minutes. -/
def offset (separator : List Char → Option (List Char)) : Reader Int
  | 'Z' :: s => some (0, s)
  | 'z' :: s => some (0, s)
  | s => do
    let (negative, s) ← offsetSign s
    let (hours, s) ← number 2 2 s
    let s ← separator s
    let (minutes, s) ← number 2 2 s
    if hours ≤ 23 ∧ minutes ≤ 59 then
      let seconds : Int := hours * 3600 + minutes * 60
      return (if negative then -seconds else seconds, s)
    else none

/-- Reads the character between date and time. -/
def dateEnd : List Char → Option (List Char)
  | 'T' :: s => some s
  | 't' :: s => some s
  | ' ' :: s => some s
  | _ => none

/-! ## RFC 3339 -/

/-- A text that is an RFC 3339 timestamp from end to end. -/
def readStrict? (s : List Char) : Option Instant := do
  let (year, s) ← number 4 4 s
  let s ← literal '-' s
  let (month, s) ← number 2 2 s
  let s ← literal '-' s
  let (day, s) ← number 2 2 s
  let s ← dateEnd s
  let (hour, s) ← number 2 2 s
  let s ← literal ':' s
  let (minute, s) ← number 2 2 s
  let s ← literal ':' s
  let (second, s) ← number 2 2 s
  let (nanos, s) ← fraction s
  let (ahead, s) ← offset (literal ':') s
  if s.isEmpty then
    WallClock.toInstant? ⟨⟨year, month, day⟩, hour, minute, second, nanos⟩ ahead
  else none

/-! ## The plain layout -/

/-- Reads a number of at most `width` digits, white space before it. -/
def lenient (width : Nat) : Reader Nat := fun s => number 1 width (dropBlanks s)

/-- Reads a year: at most four digits, or any number of them behind a sign. -/
def lenientYear : Reader Int := fun s =>
  match dropBlanks s with
  | '-' :: s => (number 1 s.length s).map fun (y, s) => (-(y : Int), s)
  | '+' :: s => (number 1 s.length s).map fun (y, s) => ((y : Int), s)
  | s => (number 1 4 s).map fun (y, s) => ((y : Int), s)

/-- A text that is a plain date and time in universal time. -/
def readPlain? (s : List Char) : Option Instant := do
  let (year, s) ← lenientYear s
  let s ← literal '-' s
  let (month, s) ← lenient 2 s
  let s ← literal '-' s
  let (day, s) ← lenient 2 s
  let (hour, s) ← lenient 2 (dropBlanks s)
  let s ← literal ':' s
  let (minute, s) ← lenient 2 s
  let s ← literal ':' s
  let (second, s) ← lenient 2 s
  if s.isEmpty then WallClock.toInstant? ⟨⟨year, month, day⟩, hour, minute, second, 0⟩ 0
  else none

/-- A timestamp of the service, in either layout. -/
def read? (raw : String) : Option Instant :=
  let s := trimChars raw.toList
  if s.isEmpty then none else readStrict? s <|> readPlain? s

/-! ## Stored documents -/

/-- Drops colons and white space. -/
def dropColons (s : List Char) : List Char := s.dropWhile fun c => c = ':' ∨ isBlank c

/-- Reads `UTC` in any case, or an offset with anything blank between hours and minutes. -/
def documentOffset : Reader Int
  | u :: t :: c :: s =>
    if u.toLower = 'u' ∧ t.toLower = 't' ∧ c.toLower = 'c' then some (0, s)
    else offset (some ∘ dropColons) (u :: t :: c :: s)
  | s => offset (some ∘ dropColons) s

/-- A timestamp of a stored document. -/
def readDocument? (raw : String) : Option Instant := do
  let (year, s) ← lenientYear raw.toList
  let s ← literal '-' (dropBlanks s)
  let (month, s) ← lenient 2 s
  let s ← literal '-' (dropBlanks s)
  let (day, s) ← lenient 2 s
  let s ← dateEnd s
  let (hour, s) ← lenient 2 s
  let s ← literal ':' (dropBlanks s)
  let (minute, s) ← lenient 2 s
  let s ← literal ':' (dropBlanks s)
  let (second, s) ← lenient 2 s
  let (nanos, s) ← fraction s
  let (ahead, s) ← documentOffset (dropBlanks s)
  if (dropBlanks s).isEmpty then
    WallClock.toInstant? ⟨⟨year, month, day⟩, hour, minute, second, nanos⟩ ahead
  else none

end RemoteDrive.Timestamp
