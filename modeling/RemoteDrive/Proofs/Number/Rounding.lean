import RemoteDrive.Proofs.Number.Value

/-!
# Rounding to the format

A quotient is rounded to the number of the format that is nearest to it, and of two that are equally
near to the one with the even significand (`Rounds`). This is the meaning of `ofQuotient?`, and so
of every integer of a reply that goes through the format (`rounds_toBinary64`).

At the scale that is chosen for a quotient the format is a grid, and the quotient goes to the
nearest point of it. All other numbers of the format lie below the first of these points that has 53
bits, and the quotient does not (`on_grid_or_below`), so none of them is nearer.

The rule leaves no choice (`Rounds.value_unique`): two numbers that are both as near as any other
are neighbours, and of two neighbours only one has an even significand.
-/

set_option autoImplicit false

namespace RemoteDrive
namespace Binary64

/-- `x` is the number of the format that is nearest to `v`, and has an even significand if another
one is as near. -/
structure Rounds (v : ℚ) (x : Binary64) : Prop where
  nearest : ∀ y : Binary64, |v - x.value| ≤ |v - y.value|
  even : ∀ y : Binary64, y.value ≠ x.value → |v - y.value| = |v - x.value| → Even x.significand

theorem units_eq (x : Binary64) : x.units = x.significand * 2 ^ x.scale := by
  rw [units, Nat.pow_eq]

section Steps

variable {x : Binary64} {s : ℕ}

/-- A number in the steps of a finer scale, -/
theorem units_of_le (h : s ≤ x.scale) :
    x.units = x.significand * 2 ^ (x.scale - s) * 2 ^ s := by
  rw [Nat.mul_assoc, ← Nat.pow_add, Nat.sub_add_cancel h]
  exact x.units_eq

/-- and beside those of a coarser one. -/
theorem units_lt (h : x.scale < s) : x.units < 2 ^ 52 * 2 ^ s :=
  calc x.units = x.significand * 2 ^ x.scale := x.units_eq
    _ < significandLimit * 2 ^ x.scale :=
      Nat.mul_lt_mul_of_pos_right x.significand_lt (Nat.two_pow_pos x.scale)
    _ = 2 ^ 52 * 2 ^ (x.scale + 1) := by
      rw [show significandLimit = 2 ^ 52 * 2 from rfl, Nat.mul_assoc, ← Nat.pow_succ']
    _ ≤ 2 ^ 52 * 2 ^ s := Nat.mul_le_mul_left _ (Nat.pow_le_pow_right two_pos h)

end Steps

/-! ## Signs -/

/-- The number with the other sign. -/
def opposite (x : Binary64) : Binary64 := { x with negative := !x.negative }

theorem value_opposite (x : Binary64) : x.opposite.value = -x.value := by
  unfold value opposite
  cases x.negative with
  | false => rfl
  | true => exact (neg_neg _).symm

theorem Rounds.opposite {v : ℚ} {x : Binary64} (h : Rounds v x) : Rounds (-v) x.opposite := by
  have hmirror : ∀ y : Binary64, |(-v) - y.value| = |v - y.opposite.value| := by
    intro y
    rw [value_opposite, ← abs_neg]
    congr 1
    ring
  have hself : |(-v) - x.opposite.value| = |v - x.value| := by
    rw [hmirror, value_opposite, value_opposite, neg_neg]
  constructor
  · intro y
    rw [hself, hmirror]
    exact h.nearest y.opposite
  · intro y hne htie
    rw [hself, hmirror] at htie
    refine h.even y.opposite (fun heq => hne ?_) htie
    rw [value_opposite, ← heq, value_opposite, neg_neg]

/-! ## Neighbours -/

theorem value_of_not_negative {x : Binary64} (h : x.negative = false) :
    x.value = x.units / one := by
  rw [value, h, if_neg Bool.false_ne_true]

theorem value_of_nonneg {x : Binary64} (h : 0 ≤ x.value) : x.value = x.units / one := by
  have hmagnitude : (0 : ℚ) ≤ x.units / one := by positivity
  unfold value at h ⊢
  split at h <;> rename_i hsign
  · rw [if_pos hsign]
    linarith
  · rw [if_neg hsign]

/-- Between two magnitudes with even significands there is another one: the next one above the
finer of the two, or below it. -/
theorem exists_units_between {x y : Binary64} (hlt : x.units < y.units) (hx : Even x.significand)
    (hy : Even y.significand) :
    ∃ z : Binary64, z.negative = false ∧ x.units < z.units ∧ z.units < y.units := by
  have hlimit : significandLimit = 9007199254740992 := rfl
  have hxm := x.significand_lt
  have hym := y.significand_lt
  rcases Nat.le_total x.scale y.scale with hscale | hscale
  · -- in the steps of `x`, `y` is an even number as well
    rw [units_of_le hscale, x.units_eq] at hlt ⊢
    have hbelow := Nat.lt_of_mul_lt_mul_right hlt
    obtain ⟨a, ha⟩ := hx
    obtain ⟨b, hb⟩ := hy.mul_right (2 ^ (y.scale - x.scale))
    refine ⟨⟨false, x.significand + 1, x.scale, by omega, x.scale_le⟩, rfl, ?_, ?_⟩ <;>
      rw [units_mk] <;>
      exact Nat.mul_lt_mul_of_pos_right (by omega) (Nat.two_pow_pos x.scale)
  · rw [units_of_le hscale, y.units_eq] at hlt ⊢
    have hbelow := Nat.lt_of_mul_lt_mul_right hlt
    obtain ⟨a, ha⟩ := hx.mul_right (2 ^ (x.scale - y.scale))
    obtain ⟨b, hb⟩ := hy
    refine ⟨⟨false, y.significand - 1, y.scale, by omega, y.scale_le⟩, rfl, ?_, ?_⟩ <;>
      rw [units_mk] <;>
      exact Nat.mul_lt_mul_of_pos_right (by omega) (Nat.two_pow_pos y.scale)

theorem exists_between_of_nonneg {x y : Binary64} (hnonneg : 0 ≤ x.value)
    (hlt : x.value < y.value) (hx : Even x.significand) (hy : Even y.significand) :
    ∃ z : Binary64, x.value < z.value ∧ z.value < y.value := by
  have hxu := value_of_nonneg hnonneg
  have hyu := value_of_nonneg (hnonneg.trans hlt.le)
  rw [hxu, hyu, div_lt_div_iff_of_pos_right one_pos'] at hlt
  obtain ⟨z, hsign, hxz, hzy⟩ := exists_units_between (by exact_mod_cast hlt) hx hy
  rw [hxu, hyu]
  refine ⟨z, ?_, ?_⟩ <;>
    rw [value_of_not_negative hsign, div_lt_div_iff_of_pos_right one_pos']
  · exact_mod_cast hxz
  · exact_mod_cast hzy

theorem exists_between {x y : Binary64} (hlt : x.value < y.value) (hx : Even x.significand)
    (hy : Even y.significand) : ∃ z : Binary64, x.value < z.value ∧ z.value < y.value := by
  rcases le_or_gt 0 x.value with hnonneg | hneg
  · exact exists_between_of_nonneg hnonneg hlt hx hy
  rcases le_or_gt y.value 0 with hnonpos | hpos
  · obtain ⟨z, hyz, hzx⟩ := exists_between_of_nonneg (x := y.opposite) (y := x.opposite)
      (by rw [value_opposite]; linarith) (by rw [value_opposite, value_opposite]; linarith) hy hx
    rw [value_opposite] at hyz hzx
    exact ⟨z.opposite, by rw [value_opposite]; linarith, by rw [value_opposite]; linarith⟩
  · have hzero : (zero false).value = 0 := by
      rw [value_of_not_negative rfl, zero, units_mk, Nat.zero_mul, Nat.cast_zero, zero_div]
    exact ⟨zero false, hzero ▸ hneg, hzero ▸ hpos⟩

/-- **No number is rounded to two values.** -/
theorem Rounds.value_unique {v : ℚ} {x y : Binary64} (hx : Rounds v x) (hy : Rounds v y) :
    x.value = y.value := by
  have hnot_lt : ∀ {x y : Binary64}, Rounds v x → Rounds v y → ¬ x.value < y.value := by
    intro x y hx hy hlt
    have htie := le_antisymm (hy.nearest x) (hx.nearest y)
    obtain ⟨z, hxz, hzy⟩ := exists_between hlt (hx.even y hlt.ne' htie) (hy.even x hlt.ne htie.symm)
    -- `v` is the middle of the two, so `z` is nearer
    have hmiddle : v - y.value = -(v - x.value) := by
      rcases abs_eq_abs.mp htie with h | h
      · exact absurd (by linarith) hlt.ne
      · exact h
    have hnearest := hx.nearest z
    rw [abs_of_pos (by linarith : 0 < v - x.value)] at hnearest
    rcases le_abs.mp hnearest with h | h <;> linarith
  exact le_antisymm (not_lt.mp (hnot_lt hy hx)) (not_lt.mp (hnot_lt hx hy))

/-! ## The grid of a scale -/

section Scale

variable {q s m : ℕ}

/-- The distance between the points of the grid at a scale. -/
def spacing (s : ℕ) : ℚ := 2 ^ s / one

theorem spacing_pos (s : ℕ) : 0 < spacing s := div_pos (by positivity) one_pos'

theorem le_of_scaleOf_pos (h : 0 < scaleOf q) : 2 ^ 52 * 2 ^ scaleOf q ≤ q := by
  unfold scaleOf at h ⊢
  have hq : q ≠ 0 := by
    rintro rfl
    simp at h
  rw [← Nat.pow_add, show 52 + (q.log2 - 52) = q.log2 by omega]
  exact Nat.log2_self_le hq

theorem lt_of_scaleOf (q : ℕ) : q < significandLimit * 2 ^ scaleOf q := by
  refine Nat.lt_of_lt_of_le (Nat.lt_log2_self (n := q)) ?_
  rw [show significandLimit = 2 ^ 53 from rfl, ← Nat.pow_add]
  exact Nat.pow_le_pow_right two_pos (by unfold scaleOf; omega)

/-- A number of the format is a point of the grid, or it lies below the points with 53 bits. -/
theorem on_grid_or_below (y : Binary64) (s : ℕ) :
    (∃ k : ℤ, y.value = k * spacing s) ∨ 0 < s ∧ y.value < 2 ^ 52 * spacing s := by
  by_cases hs : s ≤ y.scale
  · -- its own steps are multiples of those at `s`
    left
    have hvalue : (y.units : ℚ) / one =
        ((y.significand * 2 ^ (y.scale - s) : ℕ) : ℤ) * spacing s := by
      rw [units_of_le hs, spacing, mul_div_assoc']
      push_cast
      rfl
    unfold value
    split
    · exact ⟨-(y.significand * 2 ^ (y.scale - s) : ℕ), by rw [hvalue]; push_cast; ring⟩
    · exact ⟨_, hvalue⟩
  · right
    refine ⟨by omega, lt_of_le_of_lt ?_ (?_ : (y.units : ℚ) / one < _)⟩
    · unfold value
      have hnonneg : (0 : ℚ) ≤ y.units / one := by positivity
      split <;> linarith
    · rw [spacing, mul_div_assoc', div_lt_div_iff_of_pos_right one_pos']
      exact_mod_cast units_lt (Nat.lt_of_not_le hs)

/-- A carry moves to the next scale and keeps the number. -/
theorem carried_eq (h : m ≤ significandLimit) :
    (carried m s).1 * 2 ^ (carried m s).2 = m * 2 ^ s ∧ (Even m → Even (carried m s).1) := by
  unfold carried
  split
  · exact ⟨rfl, id⟩
  · obtain rfl : m = significandLimit := by omega
    have heven : Even (significandLimit / 2) := by decide
    have hdouble : significandLimit / 2 * 2 = significandLimit := by decide
    refine ⟨?_, fun _ => heven⟩
    rw [pow_succ', ← Nat.mul_assoc, hdouble]

end Scale

/-! ## Rounding -/

section Nearest

variable {num den : ℕ}

/-- The scale that is chosen for a quotient. -/
def scaleAt (num den : ℕ) : ℕ := scaleOf (num * one / den)

/-- The point of the grid that a quotient goes to. -/
def pointAt (num den : ℕ) : ℕ := toNearest (num * one) (den * 2 ^ scaleAt num den)

theorem nearest_eq (num den : ℕ) :
    nearest num den = carried (pointAt num den) (scaleAt num den) := by
  simp only [nearest, Nat.pow_eq, carried, pointAt, scaleAt, toNearest]
  rfl

theorem pointAt_le (num den : ℕ) : pointAt num den ≤ significandLimit := by
  have hlow : num * one / (den * 2 ^ scaleAt num den) < significandLimit := by
    rw [← Nat.div_div_eq_div_mul, Nat.div_lt_iff_lt_mul (Nat.two_pow_pos _)]
    exact lt_of_scaleOf (num * one / den)
  unfold pointAt toNearest
  split
  · exact hlow
  · exact hlow.le

theorem nearestInt_pointAt (num : ℕ) (hden : 0 < den) :
    NearestInt (num / den / spacing (scaleAt num den)) (pointAt num den : ℕ) := by
  have h := nearestInt_toNearest (num * one) (Nat.mul_pos hden (Nat.two_pow_pos (scaleAt num den)))
  have hone := one_pos'.ne'
  have hden' : (den : ℚ) ≠ 0 := by exact_mod_cast hden.ne'
  have hv : (num : ℚ) / den / spacing (scaleAt num den) =
      (num * one : ℕ) / (den * 2 ^ scaleAt num den : ℕ) := by
    rw [spacing]
    push_cast
    field_simp
  rw [hv]
  exact h

/-- Where the grid is not the finest one, the quotient is not below the points with 53 bits. -/
theorem le_of_scaleAt_pos (num : ℕ) (hden : 0 < den) (h : 0 < scaleAt num den) :
    2 ^ 52 * spacing (scaleAt num den) ≤ num / den := by
  have hle := Nat.mul_le_of_le_div _ _ _ (le_of_scaleOf_pos h)
  have hden' : (0 : ℚ) < den := by exact_mod_cast hden
  rw [spacing, mul_div_assoc', div_le_div_iff₀ one_pos' hden']
  exact_mod_cast hle

/-- A number with the significand and the scale that are chosen is a point of the grid. -/
theorem value_of_nearest {x : Binary64} (hx : x.negative = false)
    (hr : nearest num den = (x.significand, x.scale)) :
    x.value = (pointAt num den : ℤ) * spacing (scaleAt num den) ∧
      (Even (pointAt num den : ℤ) → Even x.significand) := by
  obtain ⟨hunits, heven⟩ := carried_eq (s := scaleAt num den) (pointAt_le num den)
  rw [← nearest_eq, hr] at hunits heven
  refine ⟨?_, fun h => heven ((Int.even_coe_nat _).mp h)⟩
  rw [value_of_not_negative hx, units_eq, hunits, spacing, mul_div_assoc']
  push_cast
  rfl

theorem rounds_of_nearest {x : Binary64} (hden : 0 < den) (hx : x.negative = false)
    (hr : nearest num den = (x.significand, x.scale)) : Rounds (num / den) x := by
  obtain ⟨hvalue, heven⟩ := value_of_nearest hx hr
  have hpoint := nearestInt_pointAt num hden
  have hbelow := le_of_scaleAt_pos num hden
  have hspacing := spacing_pos (scaleAt num den)
  -- how the scale and the point were chosen does not matter from here on
  generalize scaleAt num den = s at *
  generalize (pointAt num den : ℤ) = k at *
  generalize (num : ℚ) / den = v at *
  have hscaled : ∀ j : ℤ, |v - j * spacing s| = |v / spacing s - j| * spacing s := by
    intro j
    rw [← abs_of_pos hspacing, ← abs_mul, abs_of_pos hspacing, sub_mul,
      div_mul_cancel₀ _ hspacing.ne']
  have hle : ∀ j : ℤ, |v - x.value| ≤ |v - j * spacing s| := by
    intro j
    rw [hvalue, hscaled, hscaled]
    exact mul_le_mul_of_nonneg_right (hpoint.le j) hspacing.le
  -- a number below the points with 53 bits is farther away than the first of them
  have hlt : ∀ y : Binary64, 0 < s → y.value < 2 ^ 52 * spacing s →
      |v - x.value| < |v - y.value| := by
    intro y hs hy
    have hv := hbelow hs
    have hfirst := hle (2 ^ 52)
    rw [Int.cast_pow, Int.cast_ofNat, abs_of_nonneg (sub_nonneg.mpr hv)] at hfirst
    rw [abs_of_pos (sub_pos.mpr (hy.trans_le hv))]
    linarith
  constructor
  · intro y
    rcases on_grid_or_below y s with ⟨j, hj⟩ | ⟨hs, hy⟩
    · exact hj ▸ hle j
    · exact (hlt y hs hy).le
  · intro y hne htie
    rcases on_grid_or_below y s with ⟨j, hj⟩ | ⟨hs, hy⟩
    · refine heven (hpoint.even_of_tie (j := j) ?_ ?_)
      · rintro rfl
        exact hne (hj.trans hvalue.symm)
      · rw [hj, hvalue, hscaled, hscaled] at htie
        exact mul_right_cancel₀ hspacing.ne' htie
    · exact absurd htie (hlt y hs hy).ne'

end Nearest

/-- **A quotient goes to the nearest number of the format.** -/
theorem rounds_ofQuotient? {negative : Bool} {num den : ℕ} {x : Binary64} (hden : 0 < den)
    (h : ofQuotient? negative num den = some x) :
    Rounds (if negative then -(num / den) else num / den) x := by
  have hpositive : ∀ x : Binary64, x.negative = false →
      nearest num den = (x.significand, x.scale) → Rounds (num / den) x :=
    fun _ => rounds_of_nearest hden
  unfold ofQuotient? at h
  obtain ⟨⟨m, scale⟩, hr⟩ : ∃ r, nearest num den = r := ⟨_, rfl⟩
  rw [hr] at h hpositive
  obtain ⟨⟨hm, hscale⟩, hx⟩ := Option.dite_none_right_eq_some.mp h
  obtain rfl := Option.some.inj hx
  have hrounds := hpositive ⟨false, m, scale, hm, hscale⟩ rfl rfl
  cases negative with
  | false => exact hrounds
  | true => exact hrounds.opposite

theorem rounds_ofInt? {n : ℤ} {x : Binary64} (h : ofInt? n = some x) : Rounds n x := by
  have hrounds := rounds_ofQuotient? Nat.one_pos h
  rw [Nat.cast_one, div_one] at hrounds
  by_cases hn : n < 0
  · rw [decide_eq_true hn, if_pos rfl] at hrounds
    rwa [show (n : ℚ) = -(n.natAbs : ℚ) by
      rw [Nat.cast_natAbs, abs_of_neg hn, Int.cast_neg, neg_neg]]
  · rw [decide_eq_false hn, if_neg Bool.false_ne_true] at hrounds
    rwa [show (n : ℚ) = n.natAbs by
      rw [Nat.cast_natAbs, abs_of_nonneg (Int.not_lt.mp hn)]]

theorem rounds_value (x : Binary64) : Rounds x.value x := by
  constructor
  · intro y
    rw [sub_self, abs_zero]
    exact abs_nonneg _
  · intro y hne htie
    rw [sub_self, abs_zero, abs_eq_zero, sub_eq_zero] at htie
    exact absurd htie.symm hne

/-! ## Integers of the format -/

section Integers

variable {v : ℤ}

theorem units_of_scale {x : Binary64} {k : ℕ} (h : x.scale = 1074 + k) :
    x.units = x.significand * 2 ^ k * one := by
  obtain ⟨j, hj⟩ : ∃ j, j = 1074 := ⟨_, rfl⟩
  rw [← hj] at h
  rw [units_eq, h, one_eq hj, Nat.pow_add, Nat.mul_comm (2 ^ j), Nat.mul_assoc]

/-- The integers that the format has: those with 53 bits and zeros behind them. -/
theorem exists_value {m k : ℕ} (hm : m < significandLimit) (hk : k ≤ 971)
    (hv : v.natAbs = m * 2 ^ k) : ∃ x : Binary64, x.value = v := by
  let x : Binary64 := ⟨decide (v < 0), m, 1074 + k, hm, by omega⟩
  have hmagnitude : (x.units : ℚ) / one = v.natAbs := by
    rw [units_of_scale (rfl : x.scale = 1074 + k), hv, Nat.cast_mul _ one,
      mul_div_cancel_right₀ _ one_pos'.ne']
  refine ⟨x, ?_⟩
  rw [value, hmagnitude]
  split <;> rename_i hneg
  · rw [Nat.cast_natAbs, abs_of_neg (of_decide_eq_true hneg), Int.cast_neg, neg_neg]
  · rw [Nat.cast_natAbs, abs_of_nonneg (by simpa [x] using hneg)]

theorem exists_value_of_natAbs_le (h : v.natAbs ≤ 2 ^ 53) :
    ∃ x : Binary64, x.value = v := by
  rcases Nat.lt_or_eq_of_le h with hlt | heq
  · exact exists_value (k := 0) hlt (by decide) (Nat.mul_one _).symm
  · exact exists_value (m := 1) (k := 53) (by decide) (by decide) (by rw [heq, Nat.one_mul])

/-- What is left of a number of the format is one again. -/
theorem exists_value_toInt (x : Binary64) : ∃ y : Binary64, y.value = x.toInt := by
  have hwhole : x.toInt.natAbs = x.whole := by
    unfold toInt
    split
    · rw [Int.natAbs_neg, Int.natAbs_natCast]
    · rw [Int.natAbs_natCast]
  have hscale := x.scale_le
  rcases Nat.le_total 1074 x.scale with hle | hle
  · refine exists_value (k := x.scale - 1074) x.significand_lt (by omega) ?_
    rw [hwhole, whole_of_units (units_of_scale (Nat.add_sub_of_le hle).symm)]
  · have hsmall : x.whole ≤ x.significand := by
      obtain ⟨j, hj⟩ : ∃ j, j = 1074 := ⟨_, rfl⟩
      refine Nat.div_le_of_le_mul ?_
      rw [units_eq, Nat.mul_comm, one_eq hj]
      exact Nat.mul_le_mul_right _ (Nat.pow_le_pow_right two_pos (hj ▸ hle))
    exact exists_value (k := 0) (hsmall.trans_lt x.significand_lt) (by decide)
      (hwhole.trans (Nat.mul_one _).symm)

theorem Rounds.value_eq {x y : Binary64} (h : Rounds v x) (hy : y.value = v) :
    x.value = v := by
  have hnearest := h.nearest y
  rw [hy, sub_self, abs_zero] at hnearest
  exact (sub_eq_zero.mp (abs_nonpos_iff.mp hnearest)).symm

end Integers

end Binary64

/-! ## Numbers of a reply -/

namespace JsonNumber

open Binary64 (Rounds)

theorem rounds_toBinary64 (n : JsonNumber) : Rounds n.value n.toBinary64 := by
  have hword : ∀ k : ℤ, k.natAbs < 2 ^ 64 → Rounds k ((Binary64.ofInt? k).getD (.zero false)) := by
    intro k hk
    obtain ⟨x, hx, -⟩ := Binary64.exists_ofInt? hk
    rw [hx]
    exact Binary64.rounds_ofInt? hx
  cases n with
  | natural n =>
    have hlt := n.toNat_lt
    have h := hword n.toNat (by omega)
    exact_mod_cast h
  | integer n =>
    have hge := n.le_toInt
    have hlt := n.toInt_lt
    exact hword n.toInt (by omega)
  | real x => exact Binary64.rounds_value x

end JsonNumber

end RemoteDrive
