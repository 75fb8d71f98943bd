/-!
# UTF-8, strict and forgiving

Two readers of bytes are needed. A document must be valid from end to end or it is not read at
all; the body of an error reply is shown to a person and must be shown whatever it holds. Both cut
the bytes in the same places: into characters and into *maximal ill-formed runs*, a run being the
longest start of a character that the next byte spoils. `pieces` makes that cut, with `none` for a
run; `decode?` then refuses any run and `decodeLossy` puts U+FFFD in its place.

The cut is decided by the first byte alone (`Lead`): it says how many bytes follow and in which
range the second one lies, and that range is what excludes overlong forms, surrogates and numbers
above U+10FFFF.
-/

set_option autoImplicit false

namespace RemoteDrive.Utf8

/-- What the first byte of a character announces. -/
structure Lead where
  /-- How many bytes follow. -/
  more : Nat
  /-- The bits of the code point that the first byte itself carries. -/
  bits : Nat
  /-- The least second byte allowed. -/
  low : UInt8 := 0x80
  /-- The greatest second byte allowed. -/
  high : UInt8 := 0xBF

/-- The announcement of `b`; none where no character starts with `b`. -/
def Lead.of? (b : UInt8) : Option Lead :=
  if b < 0x80 then some { more := 0, bits := b.toNat }
  else if b < 0xC2 then none
  else if b < 0xE0 then some { more := 1, bits := b.toNat - 0xC0 }
  else if b = 0xE0 then some { more := 2, bits := 0, low := 0xA0 }
  else if b = 0xED then some { more := 2, bits := 0xD, high := 0x9F }
  else if b < 0xF0 then some { more := 2, bits := b.toNat - 0xE0 }
  else if b = 0xF0 then some { more := 3, bits := 0, low := 0x90 }
  else if b < 0xF4 then some { more := 3, bits := b.toNat - 0xF0 }
  else if b = 0xF4 then some { more := 3, bits := 4, high := 0x8F }
  else none

/-- Reads `n` further bytes onto `acc`, the first of them between `low` and `high`. Without a code
point the bytes that were fine so far are gone and the offending one is still there. -/
def follow : Nat → UInt8 → UInt8 → Nat → List UInt8 → Option Nat × List UInt8
  | 0, _, _, acc, rest => (some acc, rest)
  | _ + 1, _, _, _, [] => (none, [])
  | n + 1, low, high, acc, b :: rest =>
    if low ≤ b ∧ b ≤ high then follow n 0x80 0xBF (acc * 64 + b.toNat % 64) rest
    else (none, b :: rest)

theorem follow_length_le (n : Nat) (low high : UInt8) (acc : Nat) (bytes : List UInt8) :
    (follow n low high acc bytes).2.length ≤ bytes.length := by
  induction n generalizing low high acc bytes with
  | zero => simp [follow]
  | succ n ih =>
    cases bytes with
    | nil => simp [follow]
    | cons b rest =>
      simp only [follow]
      split
      · exact Nat.le_succ_of_le (ih _ _ _ _)
      · exact Nat.le_refl _

/-- The characters of `bytes` in order, `none` standing for a maximal ill-formed run. -/
def pieces : List UInt8 → List (Option Char)
  | [] => []
  | b :: rest =>
    match Lead.of? b with
    | none => none :: pieces rest
    | some lead =>
      (follow lead.more lead.low lead.high lead.bits rest).1.map Char.ofNat ::
        pieces (follow lead.more lead.low lead.high lead.bits rest).2
termination_by bytes => bytes.length
decreasing_by
  · simp
  · exact Nat.lt_succ_of_le (follow_length_le _ _ _ _ _)

/-- The text that `bytes` encode, if they are UTF-8 throughout. -/
def decode? (bytes : List UInt8) : Option (List Char) := (pieces bytes).mapM id

/-- The text that `bytes` encode, U+FFFD standing for each maximal ill-formed run. -/
def decodeLossy (bytes : List UInt8) : List Char := (pieces bytes).map (·.getD '\uFFFD')

/-- The bytes of a text. -/
def encode (s : List Char) : List UInt8 := s.flatMap String.utf8EncodeChar

end RemoteDrive.Utf8
