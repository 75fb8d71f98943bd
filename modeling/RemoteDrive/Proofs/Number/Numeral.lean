import RemoteDrive.Listing
import RemoteDrive.Proofs.Number.Value

/-!
# Identifiers that are numbers

The service may tell an identifier as a number, and the host gets a text. Two such texts are
compared as texts, so a number needs one notation. It is that of an integer (`Decimal.Numeral`):
digits that do not begin with a zero unless they are nothing else, and at most a minus sign before
them. The integer is the number itself or the nearest to it (`Listing.idText?_numeral`).

In one place two texts write the same integer. A negative number that is rounded to zero keeps its
sign, and so does the negative zero.
-/

set_option autoImplicit false

namespace RemoteDrive

/-! ## Notation -/

namespace Decimal

/-- Digits that begin with a zero only if there are no others. -/
structure Canonical (ds : List Char) : Prop where
  ne_nil : ds ≠ []
  digits : ∀ c ∈ ds, isDigit c = true
  leading : ∀ rest, ds = '0' :: rest → rest = []

/-- The notation of an integer. -/
inductive Numeral : List Char → ℤ → Prop
  | plain {ds : List Char} (h : Canonical ds) : Numeral ds (value ds)
  | minus {ds : List Char} (h : Canonical ds) : Numeral ('-' :: ds) (-value ds)

theorem value_eq_ofDigitChars (ds : List Char) : value ds = Nat.ofDigitChars 10 ds 0 := by
  simp only [value, Nat.ofDigitChars, digitValue, Nat.mul_comm]

theorem value_toDigits (n : ℕ) : value (Nat.toDigits 10 n) = n := by
  rw [value_eq_ofDigitChars, Nat.ofDigitChars_toDigits (by decide) (by decide)]

theorem leading_toDigits {n : ℕ} {rest : List Char} (h : Nat.toDigits 10 n = '0' :: rest) :
    rest = [] := by
  induction n using Nat.strongRecOn generalizing rest with
  | ind n ih =>
    rcases Nat.lt_or_ge n 10 with hlt | hge
    · rw [Nat.toDigits_of_lt_base hlt] at h
      exact (List.cons.inj h).2.symm
    · rw [Nat.toDigits_of_base_le (by decide) hge] at h
      obtain ⟨init, hinit, -⟩ := (List.append_eq_cons_iff.mp h).resolve_left
        fun hnil => Nat.toDigits_ne_nil hnil.1
      -- what comes before the last digit would be a zero alone
      have hzero := value_toDigits (n / 10)
      rw [hinit, ih (n / 10) (by omega) hinit] at hzero
      have hvalue : value ['0'] = 0 := rfl
      omega

theorem isDigit_of_isDigit {c : Char} (h : c.isDigit = true) : isDigit c = true := by
  simpa [Char.isDigit, isDigit, Char.le_def] using h

theorem toNat_of_isDigit {c : Char} (h : isDigit c = true) : 48 ≤ c.toNat ∧ c.toNat ≤ 57 := by
  simpa [isDigit, Char.le_def, UInt32.le_iff_toNat_le] using h

theorem isBlank_of_isDigit {c : Char} (h : isDigit c = true) : Text.isBlank c = false := by
  have hbounds := toNat_of_isDigit h
  simp only [Text.isBlank, Bool.or_eq_false_iff, Bool.and_eq_false_iff, decide_eq_false_iff_not,
    beq_eq_false_iff_ne]
  omega

theorem canonical_toDigits (n : ℕ) : Canonical (Nat.toDigits 10 n) where
  ne_nil := Nat.toDigits_ne_nil
  digits c hc := isDigit_of_isDigit (Nat.isDigit_of_mem_toDigits (by decide) (by decide) hc)
  leading _ := leading_toDigits

theorem numeral_nat (n : ℕ) : Numeral (nat n).toList n := by
  have h := Numeral.plain (canonical_toDigits n)
  rwa [value_toDigits, ← String.toList_ofList (l := Nat.toDigits 10 n)] at h

theorem numeral_minus (n : ℕ) : Numeral ("-" ++ nat n).toList (-n) := by
  have h := Numeral.minus (canonical_toDigits n)
  rw [value_toDigits] at h
  rw [nat, String.toList_append, String.toList_ofList (l := Nat.toDigits 10 n)]
  exact h

theorem numeral_int (k : ℤ) : Numeral (int k).toList k := by
  cases k with
  | ofNat n => exact numeral_nat n
  | negSucc n => exact numeral_minus (n + 1)

namespace Numeral

variable {s : List Char} {j k : ℤ}

/-- A text writes one integer. -/
theorem unique (hj : Numeral s j) (hk : Numeral s k) : j = k := by
  have hsign : ∀ {ds}, ¬ Canonical ('-' :: ds) := fun h => by
    simpa [isDigit] using h.digits '-' List.mem_cons_self
  cases hj with
  | plain h =>
    cases hk with
    | plain => rfl
    | minus => exact (hsign h).elim
  | minus =>
    cases hk with
    | plain h => exact (hsign h).elim
    | minus => rfl

theorem ne_nil (h : Numeral s k) : s ≠ [] := by
  cases h with
  | plain h => exact h.ne_nil
  | minus => exact List.cons_ne_nil _ _

theorem not_blank (h : Numeral s k) : s.any Text.isBlank = false := by
  have hdigits : ∀ {ds}, Canonical ds → ds.any Text.isBlank = false := fun h =>
    List.any_eq_false.mpr fun c hc => Bool.not_eq_true _ ▸ isBlank_of_isDigit (h.digits c hc)
  cases h with
  | plain h => exact hdigits h
  | minus h =>
    rw [List.any_cons, hdigits h]
    decide

end Numeral

end Decimal

/-! ## Numbers of a reply -/

theorem Binary64.numeral_roundedText (x : Binary64) :
    Decimal.Numeral x.roundedText.toList x.roundedInt := by
  unfold roundedText roundedInt
  split
  · exact Decimal.numeral_minus x.rounded
  · rw [String.empty_append]
    exact Decimal.numeral_nat x.rounded

/-- Where nothing is left of the number, its sign is. -/
theorem Binary64.roundedText_of_ne_zero {x : Binary64}
    (h : x.negative = true → x.roundedInt ≠ 0) : x.roundedText = Decimal.int x.roundedInt := by
  unfold roundedText
  unfold roundedInt at h ⊢
  cases hsign : x.negative with
  | false => exact String.empty_append
  | true =>
    have hne : x.rounded ≠ 0 := by
      intro hnone
      refine h hsign ?_
      rw [if_pos hsign, hnone, Nat.cast_zero, neg_zero]
    obtain ⟨r, hr⟩ := Nat.exists_eq_succ_of_ne_zero hne
    rw [if_pos rfl, if_pos rfl, hr]
    rfl

/-- The zero of the format that has a minus sign. -/
def JsonNumber.IsNegativeZero (n : JsonNumber) : Prop :=
  ∃ x, n = .real x ∧ x.negative = true ∧ x.value = 0

namespace Listing

open Decimal (Numeral)

/-- An integer that is no negative zero is written as an integer is, whichever range it was read
into. -/
theorem idText?_of_integer {n : JsonNumber} {j : ℤ} (hj : n.value = j)
    (hzero : ¬ n.IsNegativeZero) : idText? (.number n) = some (Decimal.int j) := by
  cases n with
  | natural n =>
    obtain rfl : (n.toNat : ℤ) = j := by
      rw [JsonNumber.value, ← Int.cast_natCast] at hj
      exact Int.cast_injective hj
    rfl
  | integer n =>
    obtain rfl : n.toInt = j := Int.cast_injective hj
    rfl
  | real x =>
    have hrounded : x.roundedInt = j := by
      refine x.nearestInt_roundedInt.unique ?_
      rw [show x.value = j from hj]
      exact .intCast j
    rw [idText?, Binary64.roundedText_of_ne_zero, hrounded]
    intro hsign hnone
    refine hzero ⟨x, rfl, hsign, hj.trans ?_⟩
    rw [← hrounded, hnone, Int.cast_zero]

theorem exists_numeral (n : JsonNumber) :
    ∃ s k, idText? (.number n) = some s ∧ Numeral s.toList k ∧ NearestInt n.value k := by
  cases n with
  | natural n => exact ⟨_, n.toNat, rfl, Decimal.numeral_nat n.toNat, .intCast n.toNat⟩
  | integer n => exact ⟨_, n.toInt, rfl, Decimal.numeral_int n.toInt, .intCast n.toInt⟩
  | real x => exact ⟨_, x.roundedInt, rfl, x.numeral_roundedText, x.nearestInt_roundedInt⟩

theorem ofString_of_numeral {s : String} {k : ℤ} (h : Numeral s.toList k) :
    ∃ id, RemoteId.ofString s = .ok id ∧ id.text = s := by
  have hne : s ≠ "" := fun hempty => h.ne_nil (by rw [hempty]; rfl)
  refine ⟨⟨s, hne, h.not_blank⟩, ?_, rfl⟩
  rw [RemoteId.ofString, dif_neg hne, dif_pos h.not_blank]

/-- **A number has one text, and the text is an identifier.** -/
theorem idText?_numeral (n : JsonNumber) :
    ∃ s k, idText? (.number n) = some s ∧ Numeral s.toList k ∧ NearestInt n.value k ∧
      (∀ j : ℤ, n.value = j → k = j) ∧
      (∀ m : JsonNumber, ∀ j : ℤ, n.value = j → m.value = j → ¬ n.IsNegativeZero →
        ¬ m.IsNegativeZero → idText? (.number m) = some s) ∧
      (∀ m : JsonNumber, ∀ i j : ℤ, n.value = i → m.value = j → i ≠ j →
        idText? (.number m) ≠ some s) ∧
      ∃ id, RemoteId.ofString s = .ok id ∧ id.text = s := by
  obtain ⟨s, k, hs, hnumeral, hnearest⟩ := exists_numeral n
  have hinteger : ∀ j : ℤ, n.value = j → k = j := by
    intro j hj
    exact hnearest.unique (hj ▸ .intCast j)
  refine ⟨s, k, hs, hnumeral, hnearest, hinteger, ?_, ?_, ofString_of_numeral hnumeral⟩
  · intro m j hn hm hnzero hmzero
    rw [idText?_of_integer hm hmzero, ← idText?_of_integer hn hnzero, hs]
  · intro m i j hn hm hne hsame
    obtain ⟨t, k', ht, hnumeral', hnearest'⟩ := exists_numeral m
    obtain rfl := Option.some.inj (hsame.symm.trans ht)
    have hk' : k' = j := hnearest'.unique (hm ▸ .intCast j)
    exact hne (by rw [← hinteger i hn, ← hk', hnumeral.unique hnumeral'])

/-- Two and a half. -/
def sampleHalf : JsonNumber := .real ⟨false, 5, 1073, by decide, by decide⟩

/-- The even neighbour is taken. -/
theorem idText?_numeral_half : idText? (.number sampleHalf) = some "2" ∧
    NearestInt sampleHalf.value 2 ∧ ∃ id, RemoteId.ofString "2" = .ok id ∧ id.text = "2" := by
  have htext : idText? (.number sampleHalf) = some "2" := by decide +kernel
  obtain ⟨s, k, hs, hnumeral, hnearest, -, -, -, hid⟩ := idText?_numeral sampleHalf
  obtain rfl := Option.some.inj (htext.symm.trans hs)
  obtain rfl := hnumeral.unique (Decimal.numeral_nat 2)
  exact ⟨htext, hnearest, hid⟩

end Listing

end RemoteDrive
