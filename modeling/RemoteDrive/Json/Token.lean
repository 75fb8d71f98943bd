import RemoteDrive.Text.Decimal
import RemoteDrive.Text.Hex

/-!
# The words of a JSON text

A JSON text is cut into tokens before its structure is looked at. A token keeps what was written
and not yet what it means: a number is its digits, and a text is a list of characters and
sixteen-bit escapes that need not form characters. The meaning is asked for later and only of the
parts that are used (`RemoteDrive.Json.Tree`), because a part that nobody reads may hold a number
out of range or half a surrogate pair without making the document unreadable.

What is refused here is refused wherever it stands: a control character inside a text, an escape
that is none, a number with a bare point or a bare exponent. A leading zero needs no rule: `01` is
two tokens, and no structure has two values side by side.

Each reader returns a strictly shorter rest (`readText_length`, `readNumber_length`), which is what
makes `tokens` total.
-/

set_option autoImplicit false

namespace RemoteDrive.Json

/-- A piece of a text: a character as it stands, or the number of a `\u` escape. -/
inductive TextUnit where
  | char (c : Char)
  | code (n : Nat)
deriving DecidableEq

/-- A number as written: the digits before the point, those after it, and the exponent. -/
structure NumberLiteral where
  negative : Bool
  whole : List Char
  fraction : Option (List Char)
  exponent : Option Int
deriving DecidableEq

inductive Token where
  | openArray
  | closeArray
  | openObject
  | closeObject
  | colon
  | comma
  | null
  | bool (b : Bool)
  | number (n : NumberLiteral)
  | text (units : List TextUnit)
deriving DecidableEq

/-- The white space of JSON: space, tab, line feed, carriage return. -/
def isSpace (c : Char) : Bool := c = ' ' || c = '\t' || c = '\n' || c = '\r'

/-- The character that a letter means after a backslash. -/
def escape? : Char → Option Char
  | '"' => some '"'
  | '\\' => some '\\'
  | '/' => some '/'
  | 'b' => some '\x08'
  | 'f' => some '\x0c'
  | 'n' => some '\n'
  | 'r' => some '\r'
  | 't' => some '\t'
  | _ => none

/-- The number of four hexadecimal digits. -/
def code? (a b c d : Char) : Option Nat := do
  return (((← Hex.value? a) * 16 + (← Hex.value? b)) * 16 + (← Hex.value? c)) * 16 +
    (← Hex.value? d)

/-- Reads a text up to its closing quote; the opening one is behind us. -/
def readText : List Char → Option (List TextUnit × List Char)
  | [] => none
  | '"' :: rest => some ([], rest)
  | '\\' :: 'u' :: a :: b :: c :: d :: rest => do
    let n ← code? a b c d
    let (units, rest) ← readText rest
    return (.code n :: units, rest)
  | '\\' :: e :: rest => do
    let c ← escape? e
    let (units, rest) ← readText rest
    return (.char c :: units, rest)
  | c :: rest =>
    if c = '\\' ∨ c.toNat < 0x20 then none
    else do
      let (units, rest) ← readText rest
      return (.char c :: units, rest)

/-- One digit or more, and what follows. -/
def readDigits (s : List Char) : Option (List Char × List Char) :=
  match s.takeWhile Decimal.isDigit with
  | [] => none
  | d :: ds => some (d :: ds, s.dropWhile Decimal.isDigit)

/-- The digits after a point, if there is one. -/
def readFraction : List Char → Option (Option (List Char) × List Char)
  | '.' :: s => (readDigits s).map fun (ds, rest) => (some ds, rest)
  | s => some (none, s)

/-- An exponent's digits after its sign. -/
def readExponentDigits (negative : Bool) (s : List Char) : Option (Option Int × List Char) :=
  (readDigits s).map fun (ds, rest) =>
    (some (if negative then -(Decimal.value ds : Int) else Decimal.value ds), rest)

/-- The exponent after its letter, if there is one. -/
def readExponent : List Char → Option (Option Int × List Char)
  | [] => some (none, [])
  | c :: s =>
    if c = 'e' ∨ c = 'E' then
      match s with
      | '+' :: s => readExponentDigits false s
      | '-' :: s => readExponentDigits true s
      | s => readExponentDigits false s
    else some (none, c :: s)

/-- The digits before the point: a lone zero, or a run that starts with another digit. -/
def readWhole : List Char → Option (List Char × List Char)
  | '0' :: s => some (['0'], s)
  | s => readDigits s

/-- A number whose sign has been read. -/
def readUnsigned (negative : Bool) (s : List Char) : Option (NumberLiteral × List Char) := do
  let (whole, s) ← readWhole s
  let (fraction, s) ← readFraction s
  let (exponent, s) ← readExponent s
  return (⟨negative, whole, fraction, exponent⟩, s)

/-- A number. -/
def readNumber : List Char → Option (NumberLiteral × List Char)
  | '-' :: s => readUnsigned true s
  | s => readUnsigned false s

/-- The next token, if a text that starts with no white space starts with one. -/
def readToken : List Char → Option (Token × List Char)
  | '[' :: s => some (.openArray, s)
  | ']' :: s => some (.closeArray, s)
  | '\x7b' :: s => some (.openObject, s)
  | '\x7d' :: s => some (.closeObject, s)
  | ':' :: s => some (.colon, s)
  | ',' :: s => some (.comma, s)
  | 'n' :: 'u' :: 'l' :: 'l' :: s => some (.null, s)
  | 't' :: 'r' :: 'u' :: 'e' :: s => some (.bool true, s)
  | 'f' :: 'a' :: 'l' :: 's' :: 'e' :: s => some (.bool false, s)
  | '"' :: s => (readText s).map fun (units, rest) => (.text units, rest)
  | s => (readNumber s).map fun (n, rest) => (.number n, rest)

/-! ## Every reader consumes something -/

theorem readText_length {s : List Char} {u : List TextUnit} {r : List Char}
    (h : readText s = some (u, r)) : r.length < s.length := by
  fun_induction readText s generalizing u r with
  | case1 => simp at h
  | case2 => simp_all
  | case3 a b c d rest ih =>
    simp only [bind, Option.bind_eq_some_iff, Option.some.injEq, Prod.mk.injEq, pure] at h
    obtain ⟨_, _, ⟨_, _⟩, hr, _, rfl⟩ := h
    have := ih hr
    simp only [List.length_cons]
    omega
  | case4 e rest _ ih =>
    simp only [bind, Option.bind_eq_some_iff, Option.some.injEq, Prod.mk.injEq, pure] at h
    obtain ⟨_, _, ⟨_, _⟩, hr, _, rfl⟩ := h
    have := ih hr
    simp only [List.length_cons]
    omega
  | case5 => simp at h
  | case6 c rest _ _ _ _ ih =>
    simp only [bind, Option.bind_eq_some_iff, Option.some.injEq, Prod.mk.injEq, pure] at h
    obtain ⟨⟨_, _⟩, hr, _, rfl⟩ := h
    have := ih hr
    simp only [List.length_cons]
    omega

theorem readDigits_length {s ds r : List Char} (h : readDigits s = some (ds, r)) :
    r.length < s.length := by
  unfold readDigits at h
  split at h
  · simp at h
  · next d ds' hd =>
    simp only [Option.some.injEq, Prod.mk.injEq] at h
    obtain ⟨_, rfl⟩ := h
    have := congrArg List.length (List.takeWhile_append_dropWhile (p := Decimal.isDigit) (l := s))
    rw [hd] at this
    simp only [List.length_append, List.length_cons] at this
    omega

theorem readFraction_length {s r : List Char} {f : Option (List Char)}
    (h : readFraction s = some (f, r)) : r.length ≤ s.length := by
  unfold readFraction at h
  split at h
  · simp only [Option.map_eq_some_iff, Prod.mk.injEq] at h
    obtain ⟨⟨_, _⟩, hr, _, rfl⟩ := h
    have := readDigits_length hr
    simp only [List.length_cons]
    omega
  · simp_all

theorem readExponentDigits_length {n : Bool} {s r : List Char} {e : Option Int}
    (h : readExponentDigits n s = some (e, r)) : r.length < s.length := by
  simp only [readExponentDigits, Option.map_eq_some_iff, Prod.mk.injEq] at h
  obtain ⟨⟨_, _⟩, hr, _, rfl⟩ := h
  exact readDigits_length hr

theorem readExponent_length {s r : List Char} {e : Option Int}
    (h : readExponent s = some (e, r)) : r.length ≤ s.length := by
  unfold readExponent at h
  split at h
  · simp_all
  · split at h
    · split at h <;> have := readExponentDigits_length h <;> simp only [List.length_cons] at * <;>
        omega
    · simp_all

theorem readWhole_length {s ds r : List Char} (h : readWhole s = some (ds, r)) :
    r.length < s.length := by
  unfold readWhole at h
  split at h
  · simp only [Option.some.injEq, Prod.mk.injEq] at h
    obtain ⟨_, rfl⟩ := h
    simp
  · exact readDigits_length h

theorem readUnsigned_length {neg : Bool} {s r : List Char} {n : NumberLiteral}
    (h : readUnsigned neg s = some (n, r)) : r.length < s.length := by
  simp only [readUnsigned, bind, Option.bind_eq_some_iff, pure, Option.some.injEq,
    Prod.mk.injEq] at h
  obtain ⟨⟨_, _⟩, hw, ⟨_, _⟩, hf, ⟨_, _⟩, he, _, rfl⟩ := h
  have := readWhole_length hw
  have := readFraction_length hf
  have := readExponent_length he
  simp only at *
  omega

theorem readNumber_length {s r : List Char} {n : NumberLiteral}
    (h : readNumber s = some (n, r)) : r.length < s.length := by
  unfold readNumber at h
  split at h
  · have := readUnsigned_length h
    simp only [List.length_cons]
    omega
  · exact readUnsigned_length h

theorem readToken_length {s r : List Char} {t : Token} (h : readToken s = some (t, r)) :
    r.length < s.length := by
  unfold readToken at h
  split at h
  case h_10 =>
    simp only [Option.map_eq_some_iff, Prod.mk.injEq] at h
    obtain ⟨⟨_, _⟩, hr, _, rfl⟩ := h
    have := readText_length hr
    simp only [List.length_cons]
    omega
  case h_11 =>
    simp only [Option.map_eq_some_iff, Prod.mk.injEq] at h
    obtain ⟨⟨_, _⟩, hr, _, rfl⟩ := h
    exact readNumber_length hr
  all_goals
    simp only [Option.some.injEq, Prod.mk.injEq] at h
    obtain ⟨_, rfl⟩ := h
    simp only [List.length_cons]
    omega

/-! ## The whole text -/

/-- The tokens of a text, white space between them dropped; none where no token can be read. -/
def tokens (s : List Char) : Option (List Token) :=
  match s with
  | [] => some []
  | c :: s =>
    if isSpace c then tokens s
    else
      match _h : readToken (c :: s) with
      | none => none
      | some (t, rest) => (tokens rest).map (t :: ·)
termination_by s.length
decreasing_by
  · simp
  · exact readToken_length ‹_›

end RemoteDrive.Json
