import RemoteDrive.Text.Utf8

/-!
# Reading UTF-8 back

The bytes of a text are cut where its characters end, so the forgiving reader gives the text back
(`decodeLossy_encode`). What has to be seen is that the first byte of a character announces the
bytes behind it as they are: how many there are, and a range in which the second one lies. That
range is narrower than for the others behind four first bytes only, and what it leaves out there is
no character or has a shorter spelling.
-/

set_option autoImplicit false

namespace RemoteDrive.Utf8

/-! ## Bytes behind the first -/

/-- The byte behind the first that carries the last six bits of `n`. -/
def tail (n : Nat) : UInt8 := UInt8.ofNat (n % 64 + 128)

theorem toNat_tail (n : Nat) : (tail n).toNat = n % 64 + 128 := by
  rw [tail, UInt8.toNat_ofNat']
  omega

theorem follow_tail {low high : UInt8} {n : Nat} (hlow : low.toNat ≤ n % 64 + 128)
    (hhigh : n % 64 + 128 ≤ high.toNat) (more acc : Nat) (rest : List UInt8) :
    follow (more + 1) low high acc (tail n :: rest) =
      follow more 0x80 0xBF (acc * 64 + n % 64) rest := by
  have hbits : (tail n).toNat % 64 = n % 64 := by
    rw [toNat_tail]
    omega
  rw [follow, if_pos, hbits]
  rw [UInt8.le_iff_toNat_le, UInt8.le_iff_toNat_le, toNat_tail]
  exact ⟨hlow, hhigh⟩

theorem follow_tail_plain (n more acc : Nat) (rest : List UInt8) :
    follow (more + 1) 0x80 0xBF acc (tail n :: rest) =
      follow more 0x80 0xBF (acc * 64 + n % 64) rest :=
  follow_tail (show 128 ≤ n % 64 + 128 by omega) (show n % 64 + 128 ≤ 191 by omega) more acc rest

/-! ## First bytes -/

/-- The announcement of a byte by its number. -/
theorem of?_ofNat {n : Nat} (h : n < 256) :
    Lead.of? (UInt8.ofNat n) =
      if n < 0x80 then some { more := 0, bits := n }
      else if n < 0xC2 then none
      else if n < 0xE0 then some { more := 1, bits := n - 0xC0 }
      else if n = 0xE0 then some { more := 2, bits := 0, low := 0xA0 }
      else if n = 0xED then some { more := 2, bits := 0xD, high := 0x9F }
      else if n < 0xF0 then some { more := 2, bits := n - 0xE0 }
      else if n = 0xF0 then some { more := 3, bits := 0, low := 0x90 }
      else if n < 0xF4 then some { more := 3, bits := n - 0xF0 }
      else if n = 0xF4 then some { more := 3, bits := 4, high := 0x8F }
      else none := by
  have hn : (UInt8.ofNat n).toNat = n := UInt8.toNat_ofNat_of_lt' h
  simp only [Lead.of?, UInt8.lt_iff_toNat_lt, ← UInt8.toNat_inj, hn]
  rfl

/-- A character of two bytes. -/
theorem of?_two {m : Nat} (hlow : 2 ≤ m) (hhigh : m < 32) :
    Lead.of? (UInt8.ofNat (m + 0xC0)) = some { more := 1, bits := m } := by
  rw [of?_ofNat (by omega), if_neg (by omega), if_neg (by omega), if_pos (by omega),
    Nat.add_sub_cancel]

/-- A character of three bytes, the second of which carries `x`. -/
theorem of?_three {m x : Nat} (hm : m < 16) (hx : x < 64) (hlong : m = 0 → 32 ≤ x)
    (hvalid : m = 13 → x < 32) :
    ∃ low high, Lead.of? (UInt8.ofNat (m + 0xE0)) = some ⟨2, m, low, high⟩ ∧
      low.toNat ≤ x + 128 ∧ x + 128 ≤ high.toNat := by
  rw [of?_ofNat (by omega), if_neg (by omega), if_neg (by omega), if_neg (by omega)]
  by_cases hzero : m = 0
  · subst hzero
    exact ⟨0xA0, 0xBF, rfl, show 160 ≤ x + 128 by omega, show x + 128 ≤ 191 by omega⟩
  by_cases hthirteen : m = 13
  · subst hthirteen
    exact ⟨0x80, 0x9F, rfl, show 128 ≤ x + 128 by omega, show x + 128 ≤ 159 by omega⟩
  · rw [if_neg (by omega), if_neg (by omega), if_pos (by omega), Nat.add_sub_cancel]
    exact ⟨0x80, 0xBF, rfl, show 128 ≤ x + 128 by omega, show x + 128 ≤ 191 by omega⟩

/-- A character of four bytes, the second of which carries `x`. -/
theorem of?_four {m x : Nat} (hm : m ≤ 4) (hx : x < 64) (hlong : m = 0 → 16 ≤ x)
    (hvalid : m = 4 → x < 16) :
    ∃ low high, Lead.of? (UInt8.ofNat (m + 0xF0)) = some ⟨3, m, low, high⟩ ∧
      low.toNat ≤ x + 128 ∧ x + 128 ≤ high.toNat := by
  rw [of?_ofNat (by omega), if_neg (by omega), if_neg (by omega), if_neg (by omega),
    if_neg (by omega), if_neg (by omega), if_neg (by omega)]
  by_cases hzero : m = 0
  · subst hzero
    exact ⟨0x90, 0xBF, rfl, show 144 ≤ x + 128 by omega, show x + 128 ≤ 191 by omega⟩
  by_cases hfour : m = 4
  · subst hfour
    exact ⟨0x80, 0x8F, rfl, show 128 ≤ x + 128 by omega, show x + 128 ≤ 143 by omega⟩
  · rw [if_neg (by omega), if_pos (by omega), Nat.add_sub_cancel]
    exact ⟨0x80, 0xBF, rfl, show 128 ≤ x + 128 by omega, show x + 128 ≤ 191 by omega⟩

/-! ## Characters and texts -/

theorem pieces_cons {b : UInt8} {lead : Lead} {rest rest' : List UInt8} {n : Nat}
    (hlead : Lead.of? b = some lead)
    (hfollow : follow lead.more lead.low lead.high lead.bits rest = (some n, rest')) :
    pieces (b :: rest) = some (Char.ofNat n) :: pieces rest' := by
  rw [pieces, hlead]
  simp only [hfollow, Option.map_some]

/-- **The bytes of a character are cut off as that character.** -/
theorem pieces_utf8EncodeChar (c : Char) (rest : List UInt8) :
    pieces (String.utf8EncodeChar c ++ rest) = some c :: pieces rest := by
  have hvalid : c.toNat < 0xD800 ∨ 0xDFFF < c.toNat ∧ c.toNat < 0x110000 := c.valid
  have hc : Char.ofNat c.toNat = c := Char.ofNat_toNat c
  unfold String.utf8EncodeChar
  rw [show c.val.toNat = c.toNat from rfl]
  generalize c.toNat = v at hvalid hc
  dsimp only
  split
  · -- one byte, which is the number itself
    have hlead : Lead.of? (UInt8.ofNat v) = some ⟨0, v, 0x80, 0xBF⟩ := by
      rw [of?_ofNat (by omega), if_pos (by omega)]
    rw [List.cons_append, List.nil_append, ← hc]
    exact pieces_cons hlead rfl
  split
  · have hlead : v / 64 % 32 = v / 64 := Nat.mod_eq_of_lt (by omega)
    have hsum : v / 64 * 64 + v % 64 = v := Nat.div_add_mod' v 64
    rw [hlead, show UInt8.ofNat (v % 64 + 128) = tail v from rfl, ← hc]
    refine pieces_cons (of?_two (by omega) (by omega)) ?_
    show follow 1 0x80 0xBF (v / 64) (tail v :: rest) = (some v, rest)
    rw [follow_tail_plain, hsum, follow]
  split
  · have hlead : v / 4096 % 16 = v / 4096 := Nat.mod_eq_of_lt (by omega)
    have hsum : (v / 4096 * 64 + v / 64 % 64) * 64 + v % 64 = v := by omega
    obtain ⟨low, high, hof, hlow, hhigh⟩ :=
      of?_three (m := v / 4096) (x := v / 64 % 64) (by omega) (by omega) (by omega) (by omega)
    rw [hlead, show UInt8.ofNat (v / 64 % 64 + 128) = tail (v / 64) from rfl,
      show UInt8.ofNat (v % 64 + 128) = tail v from rfl, ← hc]
    refine pieces_cons hof ?_
    show follow 2 low high (v / 4096) (tail (v / 64) :: tail v :: rest) = (some v, rest)
    rw [follow_tail hlow hhigh, follow_tail_plain, hsum, follow]
  · have hlead : v / 262144 % 8 = v / 262144 := Nat.mod_eq_of_lt (by omega)
    have hsum : ((v / 262144 * 64 + v / 4096 % 64) * 64 + v / 64 % 64) * 64 + v % 64 = v := by
      omega
    obtain ⟨low, high, hof, hlow, hhigh⟩ :=
      of?_four (m := v / 262144) (x := v / 4096 % 64) (by omega) (by omega) (by omega) (by omega)
    rw [hlead, show UInt8.ofNat (v / 4096 % 64 + 128) = tail (v / 4096) from rfl,
      show UInt8.ofNat (v / 64 % 64 + 128) = tail (v / 64) from rfl,
      show UInt8.ofNat (v % 64 + 128) = tail v from rfl, ← hc]
    refine pieces_cons hof ?_
    show follow 3 low high (v / 262144) (tail (v / 4096) :: tail (v / 64) :: tail v :: rest) =
      (some v, rest)
    rw [follow_tail hlow hhigh, follow_tail_plain, follow_tail_plain, hsum, follow]

theorem pieces_encode (s : List Char) : pieces (encode s) = s.map some := by
  induction s with
  | nil => simp [encode, pieces]
  | cons c s ih =>
    rw [encode, List.flatMap_cons, pieces_utf8EncodeChar, ← encode, ih, List.map_cons]

theorem decodeLossy_encode (s : List Char) : decodeLossy (encode s) = s := by
  rw [decodeLossy, pieces_encode, List.map_map]
  exact List.map_id s

end RemoteDrive.Utf8
