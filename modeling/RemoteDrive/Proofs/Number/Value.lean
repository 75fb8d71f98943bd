import Mathlib.Algebra.Order.Floor.Ring
import Mathlib.Data.Rat.Floor
import Mathlib.Tactic.Linarith
import Mathlib.Tactic.Positivity
import Mathlib.Tactic.FieldSimp
import RemoteDrive.Proofs.Number.Integer

/-!
# What numbers are worth

A number of a reply is a rational number, whichever of the three ranges it was read into. This file
says which (`JsonNumber.value`), and what becomes of it where a rule asks for an integer: cut toward
zero it is `cutOff` of its value, and rounded it is `NearestInt` to its value, which is the integer
less than a half away, or the even one of two that are a half away.
-/

set_option autoImplicit false

namespace RemoteDrive

/-! ## Integers beside a rational number -/

/-- The number without what stands behind its point. -/
def cutOff (v : ℚ) : ℤ := if 0 ≤ v then ⌊v⌋ else ⌈v⌉

/-- The integer nearest to a number, and the even one of two that are equally near. -/
structure NearestInt (v : ℚ) (k : ℤ) : Prop where
  near : |v - k| ≤ 1 / 2
  even : |v - k| = 1 / 2 → Even k

theorem cutOff_intCast (k : ℤ) : cutOff k = k := by
  simp [cutOff]

theorem cutOff_neg (v : ℚ) : cutOff (-v) = -cutOff v := by
  unfold cutOff
  rcases lt_trichotomy v 0 with h | rfl | h
  · rw [if_pos (by linarith), if_neg (by linarith), Int.floor_neg]
  · simp
  · rw [if_neg (by linarith), if_pos h.le, Int.ceil_neg]

/-- An integer above zero is what is left of the numbers up to the next one. -/
theorem cutOff_eq_iff {v : ℚ} {k : ℤ} (hk : 0 < k) : cutOff v = k ↔ (k : ℚ) ≤ v ∧ v < k + 1 := by
  have hk' : (0 : ℚ) < k := by exact_mod_cast hk
  unfold cutOff
  split
  · exact Int.floor_eq_iff
  · rename_i h
    have hceil : ⌈v⌉ ≤ 0 := Int.ceil_le.mpr (by push_cast; linarith)
    constructor
    · intro heq
      omega
    · rintro ⟨hle, -⟩
      linarith

namespace NearestInt

variable {v : ℚ} {j k : ℤ}

theorem intCast (k : ℤ) : NearestInt k k := by
  constructor
  · simp
  · intro h
    simp at h

theorem neg (h : NearestInt v k) : NearestInt (-v) (-k) := by
  have habs : |(-v) - ((-k : ℤ) : ℚ)| = |v - k| := by
    rw [← abs_neg]
    congr 1
    push_cast
    ring
  exact ⟨habs ▸ h.near, fun hhalf => (h.even (habs ▸ hhalf)).neg⟩

/-- Up to a half behind an integer the integer is the nearest, -/
theorem add_of_le {f : ℚ} (hf : 0 ≤ f) (hhalf : f ≤ 1 / 2) (heven : f = 1 / 2 → Even k) :
    NearestInt (k + f) k := by
  have hgap : |(k : ℚ) + f - k| = f := by rw [add_sub_cancel_left, abs_of_nonneg hf]
  exact ⟨hgap.trans_le hhalf, fun h => heven (hgap.symm.trans h)⟩

/-- and from there the next one. -/
theorem add_of_ge {f : ℚ} (hhalf : 1 / 2 ≤ f) (hf : f ≤ 1) (heven : f = 1 / 2 → Even (k + 1)) :
    NearestInt (k + f) (k + 1) := by
  have hgap : |(k : ℚ) + f - ((k + 1 : ℤ) : ℚ)| = 1 - f := by
    rw [abs_sub_comm, abs_of_nonneg] <;> push_cast <;> linarith
  exact ⟨by linarith, fun h => heven (by linarith)⟩

/-- Two different integers are together as far away as one, or farther. -/
theorem one_le_add (hne : j ≠ k) : 1 ≤ |v - k| + |v - j| := by
  have hone : (1 : ℚ) ≤ |((j - k : ℤ) : ℚ)| := by
    rw [← Int.cast_abs]
    exact_mod_cast Int.one_le_abs (sub_ne_zero.mpr hne)
  have htriangle := abs_sub (v - k) (v - j)
  rw [show v - k - (v - j) = ((j - k : ℤ) : ℚ) by push_cast; ring] at htriangle
  linarith

theorem le (h : NearestInt v k) (j : ℤ) : |v - k| ≤ |v - j| := by
  by_cases hne : j = k
  · rw [hne]
  · have hone := one_le_add (v := v) hne
    have hnear := h.near
    linarith

theorem even_of_tie (h : NearestInt v k) (hne : j ≠ k) (htie : |v - j| = |v - k|) : Even k := by
  have hone := one_le_add (v := v) hne
  have hnear := h.near
  exact h.even (by linarith)

/-- There is no other one. -/
theorem unique (h : NearestInt v j) (h' : NearestInt v k) : j = k := by
  by_contra hne
  have hone := one_le_add (v := v) hne
  have hj := h.near
  have hk := h'.near
  obtain ⟨a, rfl⟩ := h.even (by linarith)
  obtain ⟨b, rfl⟩ := h'.even (by linarith)
  -- both are even and no more than one apart
  have hapart : |((a + a - (b + b) : ℤ) : ℚ)| ≤ 1 := by
    have htriangle := abs_sub (v - ((b + b : ℤ) : ℚ)) (v - ((a + a : ℤ) : ℚ))
    rw [show v - ((b + b : ℤ) : ℚ) - (v - ((a + a : ℤ) : ℚ)) = ((a + a - (b + b) : ℤ) : ℚ) by
      push_cast; ring] at htriangle
    linarith
  have hbounds := abs_le.mp (show |a + a - (b + b)| ≤ 1 by exact_mod_cast hapart)
  omega

end NearestInt

/-! ## Quotients of naturals -/

namespace Binary64

/-- `a / u` rounded to the nearest integer, ties to even. -/
def toNearest (a u : ℕ) : ℕ := if roundsUp (a / u) (a % u) u then a / u + 1 else a / u

section ToNearest

variable {q rem u : ℕ}

theorem half_le_of_roundsUp (h : roundsUp q rem u = true) :
    u ≤ 2 * rem ∧ (2 * rem = u → q % 2 = 1) := by
  simp only [roundsUp, gt_iff_lt, Bool.or_eq_true, decide_eq_true_eq, Bool.and_eq_true,
    beq_iff_eq] at h
  omega

theorem le_half_of_not_roundsUp (h : roundsUp q rem u = false) :
    2 * rem ≤ u ∧ (2 * rem = u → q % 2 = 0) := by
  simp only [roundsUp, gt_iff_lt, Bool.or_eq_false_iff, decide_eq_false_iff_not,
    Bool.and_eq_false_iff, beq_eq_false_iff_ne] at h
  omega

theorem nearestInt_toNearest (a : ℕ) (hu : 0 < u) :
    NearestInt ((a : ℚ) / u) (toNearest a u : ℕ) := by
  have hu' : (0 : ℚ) < u := by exact_mod_cast hu
  have hmod : ((a % u : ℕ) : ℚ) ≤ u := by exact_mod_cast (Nat.mod_lt a hu).le
  have hsplit : (a : ℚ) / u = ((a / u : ℕ) : ℤ) + (a % u : ℕ) / u := by
    have hdivision : (a : ℚ) = (a / u : ℕ) * u + (a % u : ℕ) := by
      exact_mod_cast (Nat.div_add_mod' a u).symm
    rw [div_eq_iff hu'.ne', add_mul, div_mul_cancel₀ _ hu'.ne', Int.cast_natCast]
    exact hdivision
  have htwice : ((a % u : ℕ) : ℚ) / u = 1 / 2 → 2 * (a % u) = u := by
    rw [div_eq_div_iff hu'.ne' two_ne_zero, one_mul, mul_comm]
    exact fun h => by exact_mod_cast h
  rw [hsplit, toNearest]
  cases hup : roundsUp (a / u) (a % u) u with
  | true =>
    obtain ⟨hhalf, hodd⟩ := half_le_of_roundsUp hup
    refine .add_of_ge ?_ ((div_le_one hu').mpr hmod) fun h => ?_
    · rw [div_le_div_iff₀ two_pos hu', one_mul, mul_comm]
      exact_mod_cast hhalf
    · have hq := hodd (htwice h)
      exact ⟨(a / u : ℕ) / 2 + 1, by omega⟩
  | false =>
    obtain ⟨hhalf, heven⟩ := le_half_of_not_roundsUp hup
    refine .add_of_le (by positivity) ?_ fun h => ?_
    · rw [div_le_div_iff₀ hu' two_pos, one_mul, mul_comm]
      exact_mod_cast hhalf
    · have hq := heven (htwice h)
      exact ⟨(a / u : ℕ) / 2, by omega⟩

end ToNearest

/-! ## Numbers of the format -/

/-- What a number is worth. -/
def value (x : Binary64) : ℚ := if x.negative then -(x.units / one) else x.units / one

theorem one_pos' : (0 : ℚ) < one := by exact_mod_cast one_pos

/-- The integer that a number means is its value without what stands behind the point. -/
theorem toInt_eq (x : Binary64) : x.toInt = cutOff x.value := by
  have hwhole : cutOff ((x.units : ℚ) / one) = x.whole := by
    rw [cutOff, if_pos (by positivity), Rat.floor_natCast_div_natCast]
    rfl
  unfold toInt value
  cases x.negative with
  | false => exact hwhole.symm
  | true =>
    simp only [if_true]
    rw [cutOff_neg, hwhole]

/-- The integer that a number is rounded to. -/
def roundedInt (x : Binary64) : ℤ := if x.negative then -(x.rounded : ℤ) else x.rounded

theorem nearestInt_roundedInt (x : Binary64) : NearestInt x.value x.roundedInt := by
  have hrounded : NearestInt ((x.units : ℚ) / one) (x.rounded : ℕ) :=
    nearestInt_toNearest x.units one_pos
  unfold roundedInt value
  cases x.negative with
  | false => exact hrounded
  | true => exact hrounded.neg

end Binary64

/-! ## Numbers of a reply -/

namespace JsonNumber

/-- What a number is worth, whichever range it was read into. -/
def value : JsonNumber → ℚ
  | .natural n => n.toNat
  | .integer n => n.toInt
  | .real x => x.value

theorem cut_eq (n : JsonNumber) : n.cut = cutOff n.value := by
  cases n with
  | natural n =>
    have h := cutOff_intCast (n.toNat : ℤ)
    rw [Int.cast_natCast] at h
    exact h.symm
  | integer n => exact (cutOff_intCast _).symm
  | real x => exact x.toInt_eq

theorem value_of_writes {n : JsonNumber} {v : ℤ} (h : n.Writes v) : n.value = v := by
  cases n with
  | natural n =>
    have hcast := congrArg (Int.cast (R := ℚ)) h
    rwa [Int.cast_natCast] at hcast
  | integer n => exact congrArg (Int.cast (R := ℚ)) h
  | real x => exact h.elim

end JsonNumber

end RemoteDrive
