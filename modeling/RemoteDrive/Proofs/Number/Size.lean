import RemoteDrive.Proofs.Drive.Listing
import RemoteDrive.Proofs.Number.Value

/-!
# Sizes

An entry reports the size of a file as a number, and a number of a reply may be negative, broken or
as large as the format goes. A size is one word. What there is between the two is one clamp: the
number is cut toward zero and what is left is kept within the word (`toNat_byteCount`), so nothing
wraps, and a greater number never gives a smaller size (`byteCount_mono`).

The three ranges of numbers come to that in different ways. A word is taken as it is, a negative
integer is nothing, and of a number of the format the sign is looked at first, because the clamp
below comes before the cut.
-/

set_option autoImplicit false

namespace RemoteDrive

/-! ## One clamp -/

theorem cutOff_mono {v w : ℚ} (h : v ≤ w) : cutOff v ≤ cutOff w := by
  unfold cutOff
  split <;> split
  · exact Int.floor_le_floor h
  · rename_i hv hw
    exact absurd (hv.trans h) hw
  · -- the smaller one is below zero and the greater one is not
    rename_i hv hw
    have hceil : ⌈v⌉ ≤ 0 := Int.ceil_le.mpr (by push_cast; linarith)
    exact hceil.trans (Int.floor_nonneg.mpr hw)
  · exact Int.ceil_le_ceil h

/-- What one word has of an integer: itself, or the end of the word beyond which it lies. -/
def clampWord (k : ℤ) : ℤ := max 0 (min (2 ^ 64 - 1) k)

theorem clampWord_mono {j k : ℤ} (h : j ≤ k) : clampWord j ≤ clampWord k :=
  max_le_max_left 0 (min_le_min_left (2 ^ 64 - 1) h)

theorem clampWord_of_lt {n : ℕ} (h : n < 2 ^ 64) : clampWord n = n := by
  unfold clampWord
  omega

namespace Binary64

theorem isPositive_iff {x : Binary64} :
    x.isPositive = true ↔ x.negative = false ∧ x.units ≠ 0 := by
  simp [isPositive]

/-- A number that is not above zero leaves nothing above zero. -/
theorem toInt_nonpos {x : Binary64} (h : ¬ x.isPositive = true) : x.toInt ≤ 0 := by
  rw [isPositive_iff, not_and, not_not] at h
  unfold toInt
  split
  · omega
  · rename_i hsign
    have hwhole : x.whole = 0 := by
      rw [whole, h (Bool.eq_false_iff.mpr hsign), Nat.zero_div]
    omega

end Binary64

namespace Listing

theorem toNat_byteCount (n : JsonNumber) :
    ((byteCount n).toNat : ℤ) = clampWord (cutOff n.value) := by
  rw [← n.cut_eq, clampWord]
  cases n with
  | natural n =>
    have hlt := n.toNat_lt
    simp only [byteCount, JsonNumber.cut]
    omega
  | integer n =>
    have hlt := n.toInt_lt
    simp only [byteCount, JsonNumber.cut, UInt64.toNat_ofNat']
    omega
  | real x =>
    rw [byteCount, JsonNumber.cut]
    split
    · rename_i hpositive
      obtain ⟨hsign, -⟩ := Binary64.isPositive_iff.mp hpositive
      rw [Binary64.toInt, if_neg (Bool.eq_false_iff.mp hsign), UInt64.toNat_ofNat', UInt64.size]
      omega
    · rename_i hpositive
      have hcut := Binary64.toInt_nonpos hpositive
      rw [UInt64.toNat_zero]
      omega

theorem byteCount_mono {n m : JsonNumber} (h : n.value ≤ m.value) : byteCount n ≤ byteCount m := by
  have hclamp := clampWord_mono (cutOff_mono h)
  rw [← toNat_byteCount, ← toNat_byteCount] at hclamp
  exact UInt64.le_iff_toNat_le.mpr (by exact_mod_cast hclamp)

theorem toNat_byteCount_of_nat {n : JsonNumber} {k : ℕ} (hk : k < 2 ^ 64) (h : n.value = k) :
    (byteCount n).toNat = k := by
  have hcut : cutOff n.value = k := by
    rw [h, ← Int.cast_natCast, cutOff_intCast]
  have hcount := toNat_byteCount n
  rw [hcut, clampWord_of_lt hk] at hcount
  exact_mod_cast hcount

/-! ## Sizes of entries -/

/-- The entry is that of a file and reports its size by this number. -/
def Measures (entry : Json) (n : JsonNumber) : Prop :=
  ¬ SaysFolder entry ∧ entry.field? "size" = some (.number n)

variable {now : Instant} {entry : Json}

theorem exists_object? (now : Instant) (h : entry.isObject = true) :
    ∃ o, object? now entry = some o ∧ Describes now entry o := by
  obtain ⟨o, ho⟩ : ∃ o, object? now entry = some o := by
    rw [object?, if_pos h]
    exact ⟨_, rfl⟩
  exact ⟨o, ho, describes_of_object? ho⟩

/-- **A size is the number that is reported, cut and kept within one word.** -/
theorem size_of_entry (now : Instant) (hentry : entry.isObject = true) :
    ∃ o, object? now entry = some o ∧ (o.isFolder = true ↔ SaysFolder entry) ∧
      (SaysFolder entry → o.size = 0) ∧
      ((∀ n, entry.field? "size" ≠ some (.number n)) → o.size = 0) ∧
      ∀ n, Measures entry n →
        (o.size.toNat : ℤ) = clampWord (cutOff n.value) ∧
        (∀ k : ℕ, k < 2 ^ 64 → n.value = k → o.size.toNat = k) ∧
        ∀ other later o' m, object? later other = some o' → Measures other m →
          n.value ≤ m.value → o.size ≤ o'.size := by
  obtain ⟨o, ho, hdescribes⟩ := exists_object? now hentry
  refine ⟨o, ho, hdescribes.kind, hdescribes.folderSize, hdescribes.noSize, ?_⟩
  rintro n ⟨hfile, hn⟩
  have hsize : o.size = byteCount n := hdescribes.fileSize hfile n hn
  refine ⟨hsize ▸ toNat_byteCount n, fun k hk h => hsize ▸ toNat_byteCount_of_nat hk h, ?_⟩
  rintro other later o' m ho' ⟨hfile', hm⟩ hle
  rw [hsize, (describes_of_object? ho').fileSize hfile' m hm]
  exact byteCount_mono hle

/-- A file whose size is reported as 2⁶⁴, which is more than a word has. -/
def sampleHuge : Json := .object [("name", .text "a"),
  ("size", .number (.real ⟨false, 4503599627370496, 1086, by decide, by decide⟩))]

/-- A file whose size is reported as 2⁶⁴ - 1. -/
def sampleFull : Json := .object [("size", .number (.natural 18446744073709551615))]

/-- Both get the greatest size that there is. -/
theorem size_of_entry_huge : ∃ o o', object? .epoch sampleHuge = some o ∧
    object? .epoch sampleFull = some o' ∧ o'.size.toNat = 2 ^ 64 - 1 ∧ o.size = o'.size := by
  obtain ⟨o, ho, -, -, -, hsize⟩ := size_of_entry .epoch (show sampleHuge.isObject = true from rfl)
  obtain ⟨o', ho', -, -, -, hsize'⟩ :=
    size_of_entry .epoch (show sampleFull.isObject = true from rfl)
  have hmeasures : Measures sampleHuge
      (.real ⟨false, 4503599627370496, 1086, by decide, by decide⟩) :=
    ⟨mt isFolder_iff.mpr (by decide), rfl⟩
  have hmeasures' : Measures sampleFull (.natural 18446744073709551615) :=
    ⟨mt isFolder_iff.mpr (by decide), rfl⟩
  obtain ⟨hclamp, -, -⟩ := hsize _ hmeasures
  obtain ⟨-, hexact, -⟩ := hsize' _ hmeasures'
  have hhuge : o.size.toNat = 2 ^ 64 - 1 := by
    have hvalue : clampWord (cutOff (JsonNumber.real
        ⟨false, 4503599627370496, 1086, by decide, by decide⟩).value) = 2 ^ 64 - 1 := by
      decide +kernel
    omega
  have hfull := hexact (2 ^ 64 - 1) (by decide) (by decide +kernel)
  exact ⟨o, o', ho, ho', hfull, UInt64.toNat_inj.mp (hhuge.trans hfull.symm)⟩

end Listing

end RemoteDrive
