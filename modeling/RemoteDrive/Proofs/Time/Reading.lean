import RemoteDrive.Proofs.Number.Numeral
import RemoteDrive.Proofs.Time.Clock

/-!
# Parts of a timestamp

The readers of timestamps go over a text from left to right, one part after the other. Every part
that is written here is followed by something that does not begin with a digit (`EndsRun`), or fills
its width; so a reader that takes it stops behind it and gives back what was written.

The parts are a run of digits (`number_of_run`), a year with or without a sign, a fraction and an
offset. For each there is one law, for every text behind it.
-/

set_option autoImplicit false

namespace RemoteDrive

/-! ## Runs of digits -/

namespace Decimal

variable {width n limit : ℕ} {ds rest : List Char}

/-- The digits write `n`. -/
structure Run (ds : List Char) (n : ℕ) : Prop where
  digits : ∀ c ∈ ds, isDigit c = true
  value_eq : value ds = n

/-- What follows a run of digits does not go on with it. -/
def EndsRun (rest : List Char) : Prop := ∀ c ∈ rest.head?, isDigit c = false

theorem endsRun_cons {c : Char} (h : isDigit c = false) : EndsRun (c :: rest) := by
  rintro d ⟨⟩
  exact h

theorem takeWhile_of_endsRun (h : EndsRun rest) : rest.takeWhile isDigit = [] := by
  cases rest with
  | nil => rfl
  | cons c rest => exact List.takeWhile_cons_of_neg (Bool.eq_false_iff.mp (h c rfl))

theorem dropWhile_of_endsRun (h : EndsRun rest) : rest.dropWhile isDigit = rest := by
  cases rest with
  | nil => rfl
  | cons c rest => exact List.dropWhile_cons_of_neg (Bool.eq_false_iff.mp (h c rfl))

theorem digits_append_of_run (h : ∀ c ∈ ds, isDigit c = true) (hlimit : ds.length ≤ limit)
    (hend : ds.length = limit ∨ EndsRun rest) : digits limit (ds ++ rest) = (ds, rest) := by
  induction limit generalizing ds with
  | zero =>
    obtain rfl := List.eq_nil_of_length_eq_zero (Nat.le_zero.mp hlimit)
    rfl
  | succ limit ih =>
    cases ds with
    | nil =>
      have hrest : EndsRun rest := hend.resolve_left (Nat.zero_ne_add_one limit)
      cases rest with
      | nil => rfl
      | cons c rest => rw [List.nil_append, digits, if_neg (Bool.eq_false_iff.mp (hrest c rfl))]
    | cons c ds =>
      have hrun : digits limit (ds ++ rest) = (ds, rest) :=
        ih (fun d hd => h d (List.mem_cons_of_mem c hd)) (Nat.le_of_succ_le_succ hlimit)
          (hend.imp_left Nat.succ.inj)
      rw [List.cons_append, digits, if_pos (h c List.mem_cons_self), hrun]

theorem value_zeros (k : ℕ) (ds : List Char) : value (List.replicate k '0' ++ ds) = value ds := by
  induction k with
  | zero => rfl
  | succ k ih => exact ih

theorem run_padded (width n : ℕ) : Run (padded width n).toList n where
  digits c hc := by
    rw [padded, String.toList_ofList, List.mem_append] at hc
    rcases hc with hc | hc
    · rw [List.eq_of_mem_replicate hc]
      decide
    · exact (canonical_toDigits n).digits c hc
  value_eq := by
    rw [padded, String.toList_ofList, value_zeros, value_toDigits]

theorem length_padded (hwidth : 0 < width) (h : n < 10 ^ width) :
    (padded width n).toList.length = width := by
  have hlength := (Nat.length_toDigits_le_iff (by decide) hwidth).mpr h
  rw [padded, String.toList_ofList, List.length_append, List.length_replicate]
  omega

theorem length_padded_pos (width n : ℕ) : 0 < (padded width n).toList.length := by
  have hlength := List.length_pos_of_ne_nil (canonical_toDigits n).ne_nil
  rw [padded, String.toList_ofList, List.length_append]
  omega

end Decimal

open Decimal (Run EndsRun)
open Text (dropBlanks isBlank)

namespace Timestamp

variable {least most width n : ℕ} {ds rest : List Char}

/-- A part that is read leaves the rest to the parts behind it. -/
theorem bind_of_some {α β : Type} {x : Option α} {a : α} {f : α → Option β} (h : x = some a) :
    (x >>= f) = f a := by
  rw [h]
  rfl

theorem dropBlanks_cons {c : Char} (h : isBlank c = false) : dropBlanks (c :: rest) = c :: rest :=
  List.dropWhile_cons_of_neg (Bool.eq_false_iff.mp h)

theorem dropBlanks_of_run (h : Run ds n) (hpos : 0 < ds.length) :
    dropBlanks (ds ++ rest) = ds ++ rest := by
  cases ds with
  | nil => exact absurd hpos (Nat.lt_irrefl 0)
  | cons c ds => exact dropBlanks_cons (Decimal.isBlank_of_isDigit (h.digits c List.mem_cons_self))

/-! ## Numbers -/

theorem literal_self (c : Char) (s : List Char) : literal c (c :: s) = some s := if_pos rfl

theorem number_of_run (h : Run ds n) (hleast : least ≤ ds.length) (hmost : ds.length ≤ most)
    (hend : ds.length = most ∨ EndsRun rest) : number least most (ds ++ rest) = some (n, rest) := by
  simp only [number, Decimal.digits_append_of_run h.digits hmost hend, h.value_eq, if_pos hleast]

theorem number_padded (hwidth : 0 < width) (h : n < 10 ^ width) :
    number width width ((Decimal.padded width n).toList ++ rest) = some (n, rest) := by
  have hlength := Decimal.length_padded hwidth h
  exact number_of_run (Decimal.run_padded width n) hlength.ge hlength.le (.inl hlength)

theorem lenient_padded (hwidth : 0 < width) (h : n < 10 ^ width) :
    lenient width ((Decimal.padded width n).toList ++ rest) = some (n, rest) := by
  have hrun := Decimal.run_padded width n
  have hlength := Decimal.length_padded hwidth h
  have hpos := Decimal.length_padded_pos width n
  rw [lenient, dropBlanks_of_run hrun hpos]
  exact number_of_run hrun hpos hlength.le (.inl hlength)

theorem number_two (h : n < 10 ^ 2) :
    number 2 2 ((Decimal.padded 2 n).toList ++ rest) = some (n, rest) :=
  number_padded (by decide) h

theorem lenient_two (h : n < 10 ^ 2) :
    lenient 2 ((Decimal.padded 2 n).toList ++ rest) = some (n, rest) :=
  lenient_padded (by decide) h

/-! ## Years -/

theorem lenientYear_of_run (h : Run ds n) (hlength : ds.length = 4) :
    lenientYear (ds ++ rest) = some ((n : ℤ), rest) := by
  have hnumber : number 1 4 (ds ++ rest) = some (n, rest) :=
    number_of_run h (by omega) hlength.le (.inl hlength)
  rw [lenientYear, dropBlanks_of_run h (by omega)]
  cases ds with
  | nil => cases hlength
  | cons c ds =>
    have hc := h.digits c List.mem_cons_self
    -- a digit is neither of the signs
    split
    · rename_i heq
      obtain rfl := (List.cons.inj heq).1
      cases hc
    · rename_i heq
      obtain rfl := (List.cons.inj heq).1
      cases hc
    · rw [hnumber, Option.map_some]

theorem lenientYear_minus (h : Run ds n) (hpos : 0 < ds.length) (hend : EndsRun rest) :
    lenientYear ('-' :: (ds ++ rest)) = some (-(n : ℤ), rest) := by
  have hnumber : number 1 (ds ++ rest).length (ds ++ rest) = some (n, rest) :=
    number_of_run h hpos (by rw [List.length_append]; omega) (.inr hend)
  rw [lenientYear, dropBlanks_cons (by decide)]
  simp only [hnumber, Option.map_some]

theorem lenientYear_plus (h : Run ds n) (hpos : 0 < ds.length) (hend : EndsRun rest) :
    lenientYear ('+' :: (ds ++ rest)) = some ((n : ℤ), rest) := by
  have hnumber : number 1 (ds ++ rest).length (ds ++ rest) = some (n, rest) :=
    number_of_run h hpos (by rw [List.length_append]; omega) (.inr hend)
  rw [lenientYear, dropBlanks_cons (by decide)]
  simp only [hnumber, Option.map_some]

/-- A year that needs no sign. -/
def FourDigits (year : ℤ) : Prop := 0 ≤ year ∧ year ≤ 9999

instance (year : ℤ) : Decidable (FourDigits year) :=
  inferInstanceAs (Decidable (0 ≤ year ∧ year ≤ 9999))

theorem lenientYear_yearText (year : ℤ) (hend : EndsRun rest) :
    lenientYear ((yearText year).toList ++ rest) = some (year, rest) := by
  unfold yearText
  split
  · have hlength : (Decimal.padded 4 year.toNat).toList.length = 4 :=
      Decimal.length_padded (by decide) (by omega)
    rw [lenientYear_of_run (Decimal.run_padded 4 year.toNat) hlength]
    simp only [Option.some.injEq, Prod.mk.injEq, and_true]
    omega
  · have hrun := Decimal.run_padded 4 year.natAbs
    have hpos := Decimal.length_padded_pos 4 year.natAbs
    have hminus : "-".toList = ['-'] := rfl
    have hplus : "+".toList = ['+'] := rfl
    rw [String.toList_append, List.append_assoc]
    split
    · rw [hminus, List.singleton_append, lenientYear_minus hrun hpos hend,
        show -(year.natAbs : ℤ) = year by omega]
    · rw [hplus, List.singleton_append, lenientYear_plus hrun hpos hend,
        show (year.natAbs : ℤ) = year by omega]

theorem number_yearText {year : ℤ} (h : FourDigits year) :
    number 4 4 ((yearText year).toList ++ rest) = some (year.toNat, rest) := by
  have hlt : year.toNat < 10 ^ 4 := by
    have hle := h.2
    omega
  rw [yearText, if_pos (And.intro h.1 h.2), number_padded (by decide) hlt]

/-! ## Fractions -/

/-- `digits` digits behind the point write `nanos` exactly. -/
def Suffices (digits nanos : ℕ) : Prop := digits ≤ 9 ∧ 10 ^ (9 - digits) ∣ nanos

instance (digits nanos : ℕ) : Decidable (Suffices digits nanos) :=
  inferInstanceAs (Decidable (digits ≤ 9 ∧ 10 ^ (9 - digits) ∣ nanos))

theorem fraction_of_run (h : Run ds n) (hpos : 0 < ds.length) (hlength : ds.length ≤ 9)
    (hend : EndsRun rest) :
    fraction ('.' :: (ds ++ rest)) = some (n * 10 ^ (9 - ds.length), rest) := by
  have htake : (ds ++ rest).takeWhile Decimal.isDigit = ds := by
    rw [List.takeWhile_append_of_pos h.digits, Decimal.takeWhile_of_endsRun hend, List.append_nil]
  have hdrop : (ds ++ rest).dropWhile Decimal.isDigit = rest := by
    rw [List.dropWhile_append_of_pos h.digits, Decimal.dropWhile_of_endsRun hend]
  have hnanos : fractionNanos ds = n * 10 ^ (9 - ds.length) := by
    rw [fractionNanos, List.take_of_length_le hlength, h.value_eq, Nat.pow_eq]
  simp only [fraction, htake, hdrop]
  split
  · exact absurd hpos (Nat.lt_irrefl 0)
  · rw [hnanos]

theorem fraction_of_no_point (h : '.' ∉ rest.head?) : fraction rest = some (0, rest) := by
  unfold fraction
  split
  · exact absurd rfl h
  · rfl

theorem fraction_fractionText {digits nanos : ℕ} (h : Suffices digits nanos)
    (hnanos : nanos < nanosPerSecond) (hend : EndsRun rest) (hpoint : '.' ∉ rest.head?) :
    fraction ((fractionText digits nanos).toList ++ rest) = some (nanos, rest) := by
  obtain ⟨hdigits, hdvd⟩ := h
  unfold fractionText
  split
  · rename_i hzero
    rw [hzero] at hdvd
    rw [Nat.eq_zero_of_dvd_of_lt hdvd hnanos]
    exact fraction_of_no_point hpoint
  · have hwidth : 0 < digits := by omega
    have hlt : nanos / 10 ^ (9 - digits) < 10 ^ digits := by
      rw [Nat.div_lt_iff_lt_mul (by positivity), ← Nat.pow_add, Nat.add_sub_cancel' hdigits]
      exact hnanos
    have hlength := Decimal.length_padded hwidth hlt
    have hread := fraction_of_run (Decimal.run_padded digits (nanos / 10 ^ (9 - digits)))
      (Decimal.length_padded_pos _ _) (hlength.le.trans hdigits) hend
    rw [hlength, Nat.div_mul_cancel hdvd] at hread
    have hdot : ".".toList = ['.'] := rfl
    rw [Nat.pow_eq, String.toList_append, List.append_assoc, hdot, List.singleton_append, hread]

/-! ## Offsets -/

/-- The offsets that can be written: less than a day to either side. -/
def IsOffset (minutes : ℤ) : Prop := minutes.natAbs < 24 * 60

instance (minutes : ℤ) : Decidable (IsOffset minutes) :=
  inferInstanceAs (Decidable (minutes.natAbs < 24 * 60))

theorem offset_of_sign {c : Char} {negative : Bool} {minutes : ℕ}
    (hsign : ∀ s, offsetSign (c :: s) = some (negative, s)) (h : minutes < 24 * 60) :
    offset (literal ':') (c :: ((Decimal.padded 2 (minutes / 60)).toList ++
      ':' :: ((Decimal.padded 2 (minutes % 60)).toList ++ rest))) =
        some (if negative then -(minutes * 60 : ℤ) else minutes * 60, rest) := by
  have hhours : minutes / 60 ≤ 23 := by omega
  have hminutes : minutes % 60 ≤ 59 := by omega
  have hseconds : ((minutes / 60 : ℕ) * 3600 + (minutes % 60 : ℕ) * 60 : ℤ) = minutes * 60 := by
    omega
  unfold offset
  split
  · rename_i heq
    obtain rfl := (List.cons.inj heq).1
    cases hsign []
  · rename_i heq
    obtain rfl := (List.cons.inj heq).1
    cases hsign []
  · simp only [hsign, number_two (show minutes / 60 < 10 ^ 2 by omega), literal_self,
      number_two (show minutes % 60 < 10 ^ 2 by omega), Option.bind_eq_bind, Option.bind_some,
      if_pos (And.intro hhours hminutes), hseconds, Option.pure_def]

/-- **An offset is read as it was written.** -/
theorem offset_offsetText {minutes : ℤ} (h : IsOffset minutes) :
    offset (literal ':') ((offsetText minutes).toList ++ rest) = some (minutes * 60, rest) := by
  have hminus : "-".toList = ['-'] := rfl
  have hplus : "+".toList = ['+'] := rfl
  have hcolon : ":".toList = [':'] := rfl
  simp only [offsetText, String.toList_append, List.append_assoc, hcolon, List.cons_append,
    List.nil_append]
  split
  · rename_i hnegative
    rw [hminus, List.singleton_append, offset_of_sign (fun _ => rfl) h, if_pos rfl,
      Int.ofNat_natAbs_of_nonpos hnegative.le, Int.neg_mul, Int.neg_neg]
  · rename_i hnegative
    rw [hplus, List.singleton_append, offset_of_sign (fun _ => rfl) h,
      if_neg Bool.false_ne_true, Int.natAbs_of_nonneg (Int.not_lt.mp hnegative)]

end Timestamp
end RemoteDrive
