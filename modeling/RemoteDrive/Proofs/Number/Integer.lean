import Mathlib.Algebra.Group.Nat.Defs
import RemoteDrive.Json.Value

/-!
# Integers as binary64

A number of a reply that is written as an integer stays one, and most rules look at it as that. A
code goes through binary64 on its way, and an integer of one word has up to 64 bits where the format
keeps 53. This file says what that does to a comparison with a small integer, such as the code of
success: nothing (`JsonNumber.toInt_toBinary64`). Rounding leaves an integer of up to 53 bits as it
is, and it takes no greater one below 2⁵³.

The format counts in units of 2⁻¹⁰⁷⁴, so one is 2¹⁰⁷⁴ of them. That power must not be evaluated, so
its exponent is a variable wherever arithmetic is done with it (`one_eq`).
-/

set_option autoImplicit false

namespace RemoteDrive
namespace Binary64

variable {n : Nat}

theorem one_eq {k : Nat} (hk : k = 1074) : one = 2 ^ k := by
  unfold one
  rw [← hk]
  exact Nat.pow_eq

theorem one_pos : 0 < one := by
  obtain ⟨k, hk⟩ : ∃ k, k = 1074 := ⟨_, rfl⟩
  rw [one_eq hk]
  exact Nat.two_pow_pos k

theorem scaleOf_integer {k : Nat} (hk : k = 1074) (hn : n ≠ 0) :
    scaleOf (n * one) = n.log2 + k - 52 := by
  have hpos : 0 < 2 ^ k := Nat.two_pow_pos k
  have hlog : (n * 2 ^ k).log2 = n.log2 + k := by
    rw [Nat.log2_eq_iff (Nat.mul_ne_zero hn (Nat.pos_iff_ne_zero.mp hpos)), Nat.add_right_comm,
      Nat.pow_add, Nat.pow_add]
    exact ⟨Nat.mul_le_mul_right _ (Nat.log2_self_le hn),
      Nat.mul_lt_mul_of_pos_right Nat.lt_log2_self hpos⟩
  rw [scaleOf, one_eq hk, hlog]

theorem log2_le_iff (hn : n ≠ 0) : n.log2 ≤ 52 ↔ n < significandLimit := by
  rw [← Nat.lt_succ_iff, Nat.log2_lt hn]
  rfl

/-! ## Steps

The numbers with the scale of `n` lie one step apart, and `n` is rounded to one of them.
-/

/-- How many units there are to a step. -/
def step (n : Nat) : Nat := 2 ^ scaleOf (n * one)

theorem step_pos (n : Nat) : 0 < step n := Nat.two_pow_pos _

/-- Up to 53 bits a step is a part of one, -/
theorem one_eq_step (hn : n ≠ 0) (hlog : n.log2 ≤ 52) : one = 2 ^ (52 - n.log2) * step n := by
  obtain ⟨k, hk⟩ : ∃ k, k = 1074 := ⟨_, rfl⟩
  rw [step, scaleOf_integer hk hn, one_eq hk, ← Nat.pow_add,
    show 52 - n.log2 + (n.log2 + k - 52) = k by omega]

/-- and beyond them it is a multiple. -/
theorem step_eq_one (hn : n ≠ 0) (hlog : 53 ≤ n.log2) : step n = 2 ^ (n.log2 - 52) * one := by
  obtain ⟨k, hk⟩ : ∃ k, k = 1074 := ⟨_, rfl⟩
  rw [step, scaleOf_integer hk hn, one_eq hk, ← Nat.pow_add,
    show n.log2 - 52 + k = n.log2 + k - 52 by omega]

/-- How many steps `n` is, to the nearest. -/
def steps (n : Nat) : Nat :=
  let low := n * one / step n
  if roundsUp low (n * one % step n) (step n) then low + 1 else low

theorem steps_of_lt (hn : n ≠ 0) (hlog : n.log2 ≤ 52) : steps n = n * 2 ^ (52 - n.log2) := by
  have hexact : n * one = n * 2 ^ (52 - n.log2) * step n := by
    rw [Nat.mul_assoc, ← one_eq_step hn hlog]
  have hdown : roundsUp (n * 2 ^ (52 - n.log2)) 0 (step n) = false := by
    have hpos := step_pos n
    simp only [roundsUp, Bool.or_eq_false_iff, Bool.and_eq_false_iff, decide_eq_false_iff_not,
      beq_eq_false_iff_ne]
    omega
  simp only [steps, hexact, Nat.mul_div_cancel _ (step_pos n), Nat.mul_mod_left, hdown,
    Bool.false_eq_true, if_false]

theorem le_steps (hn : n ≠ 0) (hlog : 53 ≤ n.log2) : 2 ^ 52 ≤ steps n := by
  have hquotient : 2 ^ 52 ≤ n * one / step n := by
    rw [step_eq_one hn hlog, Nat.mul_div_mul_right _ _ one_pos,
      Nat.le_div_iff_mul_le (Nat.two_pow_pos _), ← Nat.pow_add,
      show 52 + (n.log2 - 52) = n.log2 by omega]
    exact Nat.log2_self_le hn
  simp only [steps]
  split
  · exact Nat.le_trans hquotient (Nat.le_add_right _ 1)
  · exact hquotient

/-- A significand and its scale, where a carry may have gone beyond 53 bits. -/
def carried (m scale : Nat) : Nat × Nat :=
  if m < significandLimit then (m, scale) else (significandLimit / 2, scale + 1)

section Carried

variable (m scale : Nat)

theorem carried_lt : (carried m scale).1 < significandLimit := by
  unfold carried
  split
  · assumption
  · show significandLimit / 2 < significandLimit
    decide

theorem carried_scale_le : (carried m scale).2 ≤ scale + 1 := by
  unfold carried
  split
  · exact Nat.le_add_right scale 1
  · exact Nat.le_refl (scale + 1)

variable {m} in
theorem le_carried (h : 2 ^ 52 ≤ m) :
    2 ^ 52 * 2 ^ scale ≤ (carried m scale).1 * 2 ^ (carried m scale).2 := by
  unfold carried
  split
  · exact Nat.mul_le_mul_right (2 ^ scale) h
  · refine Nat.mul_le_mul (Nat.le_refl (2 ^ 52)) ?_
    exact Nat.pow_le_pow_right Nat.two_pos (Nat.le_add_right scale 1)

end Carried

/-! ## Rounding -/

theorem nearest_one (n : Nat) : nearest n 1 = carried (steps n) (scaleOf (n * one)) := by
  simp only [nearest, Nat.div_one, Nat.one_mul, steps, step, Nat.pow_eq, carried]
  rfl

theorem nearest_one_lt (n : Nat) : (nearest n 1).1 < significandLimit := by
  rw [nearest_one]
  exact carried_lt _ _

theorem nearest_one_scale_le (hn : n ≠ 0) (hword : n < 2 ^ 64) : (nearest n 1).2 ≤ 2045 := by
  have hlog : n.log2 < 64 := (Nat.log2_lt hn).mpr hword
  have hscale := carried_scale_le (steps n) (scaleOf (n * one))
  rw [← nearest_one, scaleOf_integer rfl hn] at hscale
  omega

theorem nearest_one_of_lt (hn : n ≠ 0) (hlog : n.log2 ≤ 52) :
    (nearest n 1).1 * 2 ^ (nearest n 1).2 = n * one := by
  have hbits : n * 2 ^ (52 - n.log2) < significandLimit := by
    have hlt := Nat.mul_lt_mul_of_pos_right (Nat.lt_log2_self (n := n))
      (Nat.two_pow_pos (52 - n.log2))
    rwa [← Nat.pow_add, show n.log2 + 1 + (52 - n.log2) = 53 by omega] at hlt
  rw [nearest_one, steps_of_lt hn hlog, carried, if_pos hbits]
  change n * 2 ^ (52 - n.log2) * step n = n * one
  rw [Nat.mul_assoc, ← one_eq_step hn hlog]

theorem le_nearest_one (hn : n ≠ 0) (hlog : 53 ≤ n.log2) :
    2 ^ 53 * one ≤ (nearest n 1).1 * 2 ^ (nearest n 1).2 := by
  have hcarried := le_carried (scaleOf (n * one)) (le_steps hn hlog)
  rw [← nearest_one] at hcarried
  refine Nat.le_trans ?_ hcarried
  change 2 ^ 53 * one ≤ 2 ^ 52 * step n
  rw [step_eq_one hn hlog, ← Nat.mul_assoc, ← Nat.pow_add]
  exact Nat.mul_le_mul_right one (Nat.pow_le_pow_right Nat.two_pos (by omega))

theorem ofInt?_of_nearest {n : Int} {m scale : Nat} (h : nearest n.natAbs 1 = (m, scale))
    (hm : m < significandLimit) (hscale : scale ≤ 2045) :
    ofInt? n = some ⟨decide (n < 0), m, scale, hm, hscale⟩ := by
  simp only [ofInt?, ofQuotient?, h, make?, dif_pos (And.intro hm hscale)]

theorem units_mk (negative : Bool) {m scale : Nat} (hm : m < significandLimit)
    (hscale : scale ≤ 2045) : units ⟨negative, m, scale, hm, hscale⟩ = m * 2 ^ scale := by
  rw [units, Nat.pow_eq]

theorem whole_of_units {x : Binary64} (h : x.units = n * one) : x.whole = n := by
  rw [whole, h, Nat.mul_div_cancel _ one_pos]

theorem le_whole_of_units {x : Binary64} (h : n * one ≤ x.units) : n ≤ x.whole := by
  rw [whole, Nat.le_div_iff_mul_le one_pos]
  exact h

/-- **An integer of one word is a number of the format**, with the integer's sign. Up to 53 bits its
whole part is the integer's own, and beyond that it stays beyond. -/
theorem exists_ofInt? {n : Int} (h : n.natAbs < 2 ^ 64) :
    ∃ x, ofInt? n = some x ∧ x.negative = decide (n < 0) ∧
      (n.natAbs < significandLimit → x.whole = n.natAbs) ∧
      (significandLimit ≤ n.natAbs → significandLimit ≤ x.whole) := by
  by_cases hn : n = 0
  · subst hn
    exact ⟨zero false, by decide +kernel, rfl, fun _ => by decide +kernel,
      fun hle => absurd hle (by decide)⟩
  · have hn' : n.natAbs ≠ 0 := Int.natAbs_ne_zero.mpr hn
    have hm := nearest_one_lt n.natAbs
    have hscale := nearest_one_scale_le hn' h
    have hexact := nearest_one_of_lt hn'
    have hbeyond := le_nearest_one hn'
    -- from here on the significand and the scale are two numbers, not something to compute
    obtain ⟨⟨m, scale⟩, hr⟩ : ∃ r, nearest n.natAbs 1 = r := ⟨_, rfl⟩
    rw [hr] at hm hscale hexact hbeyond
    refine ⟨_, ofInt?_of_nearest hr hm hscale, rfl, fun hlt => ?_, fun hle => ?_⟩
    · refine whole_of_units ?_
      rw [units_mk]
      exact hexact ((log2_le_iff hn').mpr hlt)
    · have hlog : 53 ≤ n.natAbs.log2 :=
        Nat.lt_of_not_le (mt (log2_le_iff hn').mp (Nat.not_lt.mpr hle))
      refine le_whole_of_units ?_
      rw [units_mk, show significandLimit = 2 ^ 53 from rfl]
      exact hbeyond hlog

end Binary64

/-! ## Numbers of a reply -/

namespace JsonNumber

/-- The number cut to an integer, toward zero. -/
def cut : JsonNumber → Int
  | .natural n => n.toNat
  | .integer n => n.toInt
  | .real x => x.toInt

theorem toInt_ofInt? {n k : Int} (h : n.natAbs < 2 ^ 64) (hk : k.natAbs < significandLimit) :
    ((Binary64.ofInt? n).getD (.zero false)).toInt = k ↔ n = k := by
  obtain ⟨x, hx, hsign, hkept, hbeyond⟩ := Binary64.exists_ofInt? h
  rw [hx, Option.getD_some, Binary64.toInt, hsign]
  by_cases hlt : n.natAbs < significandLimit
  · have hwhole := hkept hlt
    split <;> rename_i hneg <;> rw [decide_eq_true_iff] at hneg <;> omega
  · have hle := hbeyond (Nat.le_of_not_lt hlt)
    split <;> rename_i hneg <;> rw [decide_eq_true_iff] at hneg <;> omega

/-- **Rounding brings no number to an integer of at most 53 bits, and takes none away from it.** -/
theorem toInt_toBinary64 {n : JsonNumber} {k : Int} (hk : k.natAbs < significandLimit) :
    n.toBinary64.toInt = k ↔ n.cut = k := by
  cases n with
  | natural n =>
    have hn := n.toNat_lt
    have hword : (n.toNat : Int).natAbs < 2 ^ 64 := by omega
    rw [toBinary64, toInt_ofInt? hword hk, cut]
  | integer n =>
    have hge := n.le_toInt
    have hlt := n.toInt_lt
    have hword : n.toInt.natAbs < 2 ^ 64 := by omega
    rw [toBinary64, toInt_ofInt? hword hk, cut]
  | real x => rfl

/-- The number is written as the integer `v`: without a fraction, and within one word. -/
def Writes (v : Int) : JsonNumber → Prop
  | .natural n => n.toNat = v
  | .integer n => n.toInt = v
  | .real _ => False

theorem toInteger?_eq_some_iff {n : JsonNumber} {v : Int64} :
    n.toInteger? = some v ↔ n.Writes v.toInt := by
  cases n with
  | natural n =>
    have hlt := v.toInt_lt
    have hof : ∀ h : n.toNat < signedLimit, (Int64.ofInt n.toNat).toInt = n.toNat := by
      intro h
      have hlimit : signedLimit = 9223372036854775808 := rfl
      exact Int64.toInt_ofInt_of_le (by omega) (by omega)
    simp only [toInteger?, Writes, Option.ite_none_right_eq_some, Option.some.injEq]
    constructor
    · rintro ⟨h, rfl⟩
      exact (hof h).symm
    · intro h
      have hword : n.toNat < signedLimit := by
        have hlimit : signedLimit = 9223372036854775808 := rfl
        omega
      exact ⟨hword, by rw [h, Int64.ofInt_toInt]⟩
  | integer n => simp only [toInteger?, Writes, Option.some.injEq, Int64.toInt_inj]
  | real x => simp [toInteger?, Writes]

end JsonNumber

end RemoteDrive
