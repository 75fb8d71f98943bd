import RemoteDrive.Text.Hex

/-!
# MD5

The digest by which the service knows a file's content. A message is read in blocks of 64 bytes,
and each block is stirred into four words (`Chain.mix`) in 64 steps; behind the message come one
bit, zeros, and the message's length in bits, which fill up the last block.

The digest is written down twice. `digest` says what it is of a whole message: the blocks of the
message with its padding, one after the other. `Hasher` takes the message byte by byte and keeps no
more than an unfinished block, which is how a file is read.
-/

set_option autoImplicit false

namespace RemoteDrive.Md5

/-- The four words that a block changes. -/
structure Chain where
  a : UInt32
  b : UInt32
  c : UInt32
  d : UInt32
deriving DecidableEq

/-- The words before the first block. -/
def Chain.start : Chain := ⟨0x67452301, 0xEFCDAB89, 0x98BADCFE, 0x10325476⟩

/-- The bytes of one block. -/
def blockSize : Nat := 64

/-! ## One block -/

/-- What is added in each step: the integer parts of 2³² · |sin n|, n from 1 on. -/
def constants : List UInt32 := [
  0xD76AA478, 0xE8C7B756, 0x242070DB, 0xC1BDCEEE, 0xF57C0FAF, 0x4787C62A,
  0xA8304613, 0xFD469501, 0x698098D8, 0x8B44F7AF, 0xFFFF5BB1, 0x895CD7BE,
  0x6B901122, 0xFD987193, 0xA679438E, 0x49B40821, 0xF61E2562, 0xC040B340,
  0x265E5A51, 0xE9B6C7AA, 0xD62F105D, 0x02441453, 0xD8A1E681, 0xE7D3FBC8,
  0x21E1CDE6, 0xC33707D6, 0xF4D50D87, 0x455A14ED, 0xA9E3E905, 0xFCEFA3F8,
  0x676F02D9, 0x8D2A4C8A, 0xFFFA3942, 0x8771F681, 0x6D9D6122, 0xFDE5380C,
  0xA4BEEA44, 0x4BDECFA9, 0xF6BB4B60, 0xBEBFBC70, 0x289B7EC6, 0xEAA127FA,
  0xD4EF3085, 0x04881D05, 0xD9D4D039, 0xE6DB99E5, 0x1FA27CF8, 0xC4AC5665,
  0xF4292244, 0x432AFF97, 0xAB9423A7, 0xFC93A039, 0x655B59C3, 0x8F0CCC92,
  0xFFEFF47D, 0x85845DD1, 0x6FA87E4F, 0xFE2CE6E0, 0xA3014314, 0x4E0811A1,
  0xF7537E82, 0xBD3AF235, 0x2AD7D2BB, 0xEB86D391]

/-- How far a word is turned in each step, four numbers for each round of sixteen steps. -/
def turns (step : Nat) : UInt32 :=
  let row : List UInt32 := match step / 16 with
    | 0 => [7, 12, 17, 22]
    | 1 => [5, 9, 14, 20]
    | 2 => [4, 11, 16, 23]
    | _ => [6, 10, 15, 21]
  row.getD (step % 4) 0

/-- Which word of the block a step takes. -/
def wordIndex (step : Nat) : Nat :=
  match step / 16 with
  | 0 => step % 16
  | 1 => (5 * step + 1) % 16
  | 2 => (3 * step + 5) % 16
  | _ => 7 * step % 16

/-- How three of the words are joined in each round. -/
def join (step : Nat) (b c d : UInt32) : UInt32 :=
  match step / 16 with
  | 0 => (b &&& c) ||| (~~~b &&& d)
  | 1 => (d &&& b) ||| (~~~d &&& c)
  | 2 => b ^^^ c ^^^ d
  | _ => c ^^^ (b ||| ~~~d)

/-- A word turned by `n` bits, for `n` from 1 to 31. -/
def rotate (x n : UInt32) : UInt32 := (x <<< n) ||| (x >>> (32 - n))

/-- The word of four bytes, the lowest first. -/
def word (bytes : List UInt8) : UInt32 :=
  bytes.foldr (fun b w => w * 256 + b.toUInt32) 0

/-- The words of a block. -/
def words : List UInt8 → List UInt32
  | a :: b :: c :: d :: rest => word [a, b, c, d] :: words rest
  | _ => []

/-- One step. -/
def Chain.step (block : Array UInt32) (s : Chain) (n : Nat) (constant : UInt32) : Chain :=
  let sum := s.a + join n s.b s.c s.d + constant + block.getD (wordIndex n) 0
  ⟨s.d, s.b + rotate sum (turns n), s.b, s.c⟩

/-- The words after a block. -/
def Chain.mix (s : Chain) (block : List UInt8) : Chain :=
  let ws := (words block).toArray
  let t := (constants.zipIdx).foldl (fun t (k, n) => t.step ws n k) s
  ⟨s.a + t.a, s.b + t.b, s.c + t.c, s.d + t.d⟩

/-! ## Padding -/

/-- A number in `count` bytes, the lowest first. -/
def lowBytes (count n : Nat) : List UInt8 :=
  (List.range count).map fun i => UInt8.ofNat (n / Nat.pow 256 i)

/-- What comes behind a message of `length` bytes. -/
def padding (length : Nat) : List UInt8 :=
  0x80 :: List.replicate ((119 - length % blockSize) % blockSize) 0 ++
    lowBytes 8 (8 * length)

/-- The sixteen bytes of the four words. -/
def Chain.bytes (s : Chain) : List UInt8 := [s.a, s.b, s.c, s.d].flatMap fun w => lowBytes 4 w.toNat

/-! ## Whole messages -/

/-- The words after all whole blocks of a message. -/
def mixAll (s : Chain) (message : List UInt8) : Chain :=
  if message.length < blockSize then s
  else mixAll (s.mix (message.take blockSize)) (message.drop blockSize)
termination_by message.length
decreasing_by simp only [blockSize, List.length_drop] at *; omega

/-- The digest of a message. -/
def digest (message : List UInt8) : List UInt8 :=
  (mixAll .start (message ++ padding message.length)).bytes

/-! ## Byte by byte -/

/-- A message read in part. -/
structure Hasher where
  chain : Chain
  /-- The bytes of the unfinished block, the latest first. -/
  pending : List UInt8
  /-- How many bytes `pending` has. -/
  count : Nat
  /-- How many bytes have been read. -/
  length : Nat

namespace Hasher

def start : Hasher := ⟨.start, [], 0, 0⟩

/-- One byte further. -/
def push (h : Hasher) (b : UInt8) : Hasher :=
  if h.count + 1 = blockSize then
    ⟨h.chain.mix (b :: h.pending).reverse, [], 0, h.length + 1⟩
  else ⟨h.chain, b :: h.pending, h.count + 1, h.length + 1⟩

/-- Several bytes further. -/
def update (h : Hasher) (bytes : List UInt8) : Hasher := bytes.foldl push h

/-- The digest of what has been read. -/
def finish (h : Hasher) : List UInt8 := (h.update (padding h.length)).chain.bytes

theorem update_append (h : Hasher) (a b : List UInt8) :
    h.update (a ++ b) = (h.update a).update b := List.foldl_append

theorem length_push (h : Hasher) (b : UInt8) : (h.push b).length = h.length + 1 := by
  unfold push
  split <;> rfl

theorem length_update (h : Hasher) (bytes : List UInt8) :
    (h.update bytes).length = h.length + bytes.length := by
  induction bytes generalizing h with
  | nil => rfl
  | cons b bytes ih =>
    rw [update, List.foldl_cons, ← update, ih, length_push, List.length_cons]
    omega

end Hasher

/-! ## The two agree -/

theorem mixAll_of_lt {s : Chain} {rest : List UInt8} (h : rest.length < blockSize) :
    mixAll s rest = s := by
  rw [mixAll, if_pos h]

theorem mixAll_append {s : Chain} {block : List UInt8} (h : block.length = blockSize)
    (rest : List UInt8) : mixAll s (block ++ rest) = mixAll (s.mix block) rest := by
  have hle : ¬ (block ++ rest).length < blockSize := by
    rw [List.length_append, h]
    omega
  rw [mixAll, if_neg hle, ← h, List.take_left, List.drop_left]

namespace Hasher

/-- What is kept back is counted, and it is less than a block. -/
structure Sound (h : Hasher) : Prop where
  count : h.count = h.pending.length
  lt : h.count < blockSize

theorem Sound.start : start.Sound := ⟨rfl, by decide⟩

/-- Bytes that are read are mixed in behind those that were kept back. -/
theorem chain_update {h : Hasher} (hh : h.Sound) (bytes : List UInt8) :
    (h.update bytes).chain = mixAll h.chain (h.pending.reverse ++ bytes) := by
  -- on the bytes, as they are read: the unfinished block changes with each of them
  induction bytes generalizing h with
  | nil =>
    have hlt : (h.pending.reverse ++ []).length < blockSize := by
      rw [List.append_nil, List.length_reverse, ← hh.count]
      exact hh.lt
    rw [mixAll_of_lt hlt]
    rfl
  | cons b bytes ih =>
    rw [update, List.foldl_cons, ← update]
    by_cases hfull : h.count + 1 = blockSize
    · have hlength : (b :: h.pending).reverse.length = blockSize := by
        rw [List.length_reverse, List.length_cons, ← hh.count, hfull]
      have hpush : h.push b = ⟨h.chain.mix (b :: h.pending).reverse, [], 0, h.length + 1⟩ :=
        if_pos hfull
      have hsound : (h.push b).Sound := by
        rw [hpush]
        exact ⟨rfl, Nat.zero_lt_succ 63⟩
      rw [ih hsound, hpush, List.append_cons, ← List.reverse_cons, mixAll_append hlength]
      rfl
    · have hpush : h.push b = ⟨h.chain, b :: h.pending, h.count + 1, h.length + 1⟩ :=
        if_neg hfull
      have hsound : (h.push b).Sound := by
        have hlt := hh.lt
        rw [hpush]
        exact ⟨congrArg (· + 1) hh.count, by show h.count + 1 < blockSize; omega⟩
      rw [ih hsound, hpush, List.append_cons, ← List.reverse_cons]

/-- **Read byte by byte, a message has the same digest.** -/
theorem finish_update (message : List UInt8) : (start.update message).finish = digest message := by
  have hlength : (start.update message).length = message.length :=
    (length_update start message).trans (Nat.zero_add _)
  rw [finish, hlength, ← update_append, chain_update .start]
  rfl

end Hasher

end RemoteDrive.Md5
