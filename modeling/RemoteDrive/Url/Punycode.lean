/-!
# Punycode

A name in other than ASCII letters is written for the network in ASCII: the letters that are ASCII
come first, and behind a hyphen follows where the others belong and which they are. The others are
taken in the order of their code points, each as the distance from the last one in a numbering of
all (code point, position) pairs. A distance is a number in base 36 whose digits know where it ends
(`distance`), and the thresholds for that follow the distances seen so far (`adapt`).

`decode?` is the way back. It refuses what is no code point, and numbers that do not fit into 32
bits.
-/

set_option autoImplicit false

namespace RemoteDrive.Punycode

/-- The digit of `d`, for `d` below 36. -/
def digit (d : Nat) : Char := if d < 26 then Char.ofNat (97 + d) else Char.ofNat (22 + d)

/-- The least digit that is not the last one, at the position `k`. -/
def threshold (k bias : Nat) : Nat := max 1 (min 26 (k - bias))

/-- A distance as digits, from the position `k` on. -/
def distance (bias k q : Nat) : List Char :=
  let t := threshold k bias
  if q < t then [digit q]
  else digit (t + (q - t) % (36 - t)) :: distance bias (k + 36) ((q - t) / (36 - t))
termination_by q
decreasing_by
  have h1 : 1 ≤ threshold k bias := Nat.le_max_left _ _
  have h2 := Nat.div_le_self (q - threshold k bias) (36 - threshold k bias)
  omega

/-- The bias for a distance that was made small enough, `k` having been counted up for it. -/
def settle (k delta : Nat) : Nat :=
  if 455 < delta then settle (k + 36) (delta / 35) else k + 36 * delta / (delta + 38)
termination_by delta
decreasing_by omega

/-- The bias after the distance `delta`, `count` letters having been written. -/
def adapt (delta count : Nat) (first : Bool) : Nat :=
  let delta := if first then delta / 700 else delta / 2
  settle 0 (delta + delta / count)

/-! ## Writing -/

/-- What the encoder knows: what it has written, in reverse, and where it stands. -/
structure State where
  output : List Char
  /-- The next code point. -/
  point : Nat
  /-- The distance so far. -/
  delta : Nat
  bias : Nat
  /-- How many letters have been written. -/
  count : Nat
  first : Bool

/-- Past one letter of the name, for the code point `s.point`. -/
def visit (s : State) (c : Char) : State :=
  if c.toNat < s.point then { s with delta := s.delta + 1 }
  else if c.toNat = s.point then
    { s with
      output := (distance s.bias 36 s.delta).reverse ++ s.output
      delta := 0
      bias := adapt s.delta (s.count + 1) s.first
      count := s.count + 1
      first := false }
  else s

/-- Past the whole name, for the code point `m`. -/
def round (name : List Char) (s : State) (m : Nat) : State :=
  let start := { s with delta := s.delta + (m - s.point) * (s.count + 1), point := m }
  let s := name.foldl visit start
  { s with delta := s.delta + 1, point := m + 1 }

/-- The name in ASCII. -/
def encode (name : List Char) : List Char :=
  let plain := name.filter (·.toNat < 0x80)
  let points := ((name.map Char.toNat).filter (0x80 ≤ ·)).mergeSort.eraseDups
  let output := if plain.isEmpty then [] else '-' :: plain.reverse
  (points.foldl (round name) ⟨output, 0x80, 0, 72, plain.length, true⟩).output.reverse

/-! ## Reading -/

/-- The value of a lower-case digit. -/
def digitValue? (c : Char) : Option Nat :=
  if 'a' ≤ c && c ≤ 'z' then some (c.toNat - 97)
  else if '0' ≤ c && c ≤ '9' then some (c.toNat - 22)
  else none

/-- One more than the largest number. -/
def numberBound : Nat := 0x100000000

/-- Reads a distance from the position `k` on, where a digit counts `weight` times. Answers the
place it leads to from `place`, and what follows. -/
def readDistance? (bias : Nat) : Nat → Nat → Nat → List Char → Option (Nat × List Char)
  | _, _, _, [] => none
  | k, weight, place, c :: rest => do
    let d ← digitValue? c
    let place := place + d * weight
    let t := threshold k bias
    let next := weight * (36 - t)
    if numberBound ≤ place then none
    else if d < t then some (place, rest)
    else if numberBound ≤ next then none
    else readDistance? bias (k + 36) next place rest

theorem length_lt_of_readDistance? {bias k weight place n : Nat} {s rest : List Char}
    (h : readDistance? bias k weight place s = some (n, rest)) : rest.length < s.length := by
  induction s generalizing k weight place with
  | nil => simp [readDistance?] at h
  | cons c s ih =>
    simp only [readDistance?, Option.bind_eq_bind, Option.bind_eq_some_iff] at h
    obtain ⟨d, -, h⟩ := h
    split at h
    · cases h
    · split at h
      · simp only [Option.some.injEq, Prod.mk.injEq] at h
        simp [h.2]
      · split at h
        · cases h
        · exact Nat.lt_succ_of_lt (ih h)

/-- Reads the letters that are not ASCII into `name`, in which and at which code point the last one
has been put being given by `point` and `place`. -/
def insertFrom (bias point place : Nat) (name s : List Char) : Option (List Char) :=
  if s.isEmpty then some name
  else
    match _h : readDistance? bias 36 1 place s with
    | none => none
    | some (n, rest) =>
      let count := name.length + 1
      let point := point + n / count
      let c := Char.ofNat point
      if c.toNat = point then
        insertFrom (adapt (n - place) count (place = 0)) point (n % count + 1)
          (name.insertIdx (n % count) c) rest
      else none
termination_by s.length
decreasing_by exact length_lt_of_readDistance? _h

/-- The name that ASCII letters write. -/
def decode? (s : List Char) : Option (List Char) :=
  let plain := (((s.reverse.dropWhile (· != '-')).drop 1).reverse)
  if plain.isEmpty then insertFrom 72 0x80 0 [] s
  else insertFrom 72 0x80 0 plain (s.drop (plain.length + 1))

end RemoteDrive.Punycode
