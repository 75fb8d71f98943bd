import RemoteDrive.Proofs.Verdict
import RemoteDrive.Proofs.Number.Rounding

/-!
# Codes

The code of a reply is the first number under the keys for it. On its way to an integer that number
is rounded to the format, cut toward zero and kept within a signed word (`IsCode`).

None of the three steps comes in the way of the one question that a code is asked. A reply passes if
its number is at least 200 and less than 201, or if there is none (`SaysSuccess`), and no number
from anywhere else ends up at 200 (`Envelope.check_exact`).

The code that a failure tells is another matter. The first step leaves an integer as it is only if
the format has it, which is so up to 2⁵³. Beyond, the code is in general not the integer that the
reply writes (`Envelope.code_of_integer`), although nothing is there to be cut.
-/

set_option autoImplicit false

namespace RemoteDrive

open Binary64 (Rounds)
open Json (FirstUnder)

/-! ## From a number to a code -/

/-- `code` is what a number worth `v` is taken for. -/
def IsCode (v : ℚ) (code : ℤ) : Prop :=
  ∃ x : Binary64, Rounds v x ∧ code = max (-2 ^ 63) (min (2 ^ 63 - 1) (cutOff x.value))

theorem IsCode.unique {v : ℚ} {c d : ℤ} (hc : IsCode v c) (hd : IsCode v d) : c = d := by
  obtain ⟨x, hx, rfl⟩ := hc
  obtain ⟨y, hy, rfl⟩ := hd
  rw [hx.value_unique hy]

theorem clampSigned_eq (k : ℤ) : clampSigned k = max (-2 ^ 63) (min (2 ^ 63 - 1) k) := rfl

theorem isCode_codeOfNumber (n : JsonNumber) : IsCode n.value (codeOfNumber n) := by
  refine ⟨n.toBinary64, n.rounds_toBinary64, ?_⟩
  rw [codeOfNumber, clampSigned_eq, Binary64.toInt_eq]

/-- **The numbers that are taken for the code of success.** -/
theorem codeOfNumber_eq_iff_value {n : JsonNumber} :
    codeOfNumber n = successCode ↔ 200 ≤ n.value ∧ n.value < 201 := by
  rw [codeOfNumber_eq_successCode, JsonNumber.toInt_toBinary64 (by decide), n.cut_eq,
    cutOff_eq_iff (by decide)]
  norm_num

/-! ## Integers -/

section Integers

variable {v : ℤ} {n : JsonNumber}

theorem JsonNumber.toBinary64_of_writes (h : n.Writes v) :
    n.toBinary64 = (Binary64.ofInt? v).getD (.zero false) := by
  cases n with
  | natural n => exact h ▸ rfl
  | integer n => exact h ▸ rfl
  | real x => exact h.elim

theorem codeOfNumber_eq_iff (hv : n.Writes v) (hlow : -2 ^ 63 ≤ v) (hhigh : v < 2 ^ 63) :
    codeOfNumber n = v ↔ (∃ x : Binary64, x.value = v) ∨ v = 2 ^ 63 - 1 := by
  rw [codeOfNumber, clampSigned_eq]
  constructor
  · intro hcode
    obtain ⟨y, hy⟩ := n.toBinary64.exists_value_toInt
    -- either the bounds of the word were not felt, or the code is one of them
    rcases lt_trichotomy v n.toBinary64.toInt with hlt | heq | hgt
    · exact .inr (by omega)
    · exact .inl ⟨y, heq ▸ hy⟩
    · exact .inl (Binary64.exists_value (m := 1) (k := 63) (by decide) (by decide) (by omega))
  · rintro (⟨y, hy⟩ | rfl)
    · have hrounds := n.rounds_toBinary64
      rw [JsonNumber.value_of_writes hv] at hrounds
      rw [Binary64.toInt_eq, hrounds.value_eq hy, cutOff_intCast]
      omega
    · have hup : ((Binary64.ofInt? (2 ^ 63 - 1)).getD (.zero false)).toInt = 2 ^ 63 := by
        decide +kernel
      rw [JsonNumber.toBinary64_of_writes hv, hup]
      decide

end Integers

/-! ## Replies -/

namespace Envelope

variable {family : EndpointFamily} {root : Json} {body : List UInt8}
  {fields : List (String × Json)} {n : JsonNumber}

/-- There is no number under the keys of a code, or the first is at least 200 and less than 201. -/
def SaysSuccess (family : EndpointFamily) (root : Json) : Prop :=
  (∀ key ∈ family.codeKeys, ∀ n, root.field? key ≠ some (.number n)) ∨
    ∃ n, FirstUnder Json.number? family.codeKeys root n ∧ 200 ≤ n.value ∧ n.value < 201

theorem bind_number?_eq_some_iff {found : Option Json} :
    found.bind Json.number? = some n ↔ found = some (.number n) := by
  cases found with
  | none => simp
  | some j => cases j <;> simp [Json.number?]

theorem decode_object (family : EndpointFamily)
    (hbody : Json.ofBytes? body = some (.object fields)) :
    decode family body = .ok (ofObject family (.object fields)) := by
  rw [decode, hbody]
  rfl

theorem code_ofObject (hfirst : FirstUnder Json.number? family.codeKeys root n) :
    (ofObject family root).code = some (codeOfNumber n) := by
  rw [ofObject, Json.firstOf_eq_some_iff.mpr hfirst]
  rfl

theorem exists_check_eq_ok_iff (e : Envelope) :
    (∃ passed, e.check = .ok passed) ↔ e.isSuccess = true := by
  unfold check isSuccess
  cases e.code with
  | none => simp
  | some code => by_cases h : code = successCode <;> simp [h]

theorem isSuccess_iff : (ofObject family root).isSuccess = true ↔ SaysSuccess family root := by
  cases hfirst : root.firstOf Json.number? family.codeKeys with
  | none =>
    refine iff_of_true (by rw [isSuccess, ofObject, hfirst]; rfl) (.inl fun key hkey n hn => ?_)
    have hnone := List.findSome?_eq_none_iff.mp hfirst key hkey
    rw [hn] at hnone
    cases hnone
  | some n =>
    have hn := Json.firstOf_eq_some_iff.mp hfirst
    have hcode : (ofObject family root).isSuccess = true ↔ codeOfNumber n = successCode := by
      rw [isSuccess, code_ofObject hn, Option.all_some, beq_iff_eq]
    rw [hcode, codeOfNumber_eq_iff_value]
    constructor
    · intro h
      exact .inr ⟨n, hn, h⟩
    · rintro (hnone | ⟨m, hm, h⟩)
      · obtain ⟨before, key, after, hkeys, -, hkey⟩ := hn
        exact absurd (bind_number?_eq_some_iff.mp hkey) (hnone key (by simp [hkeys]) n)
      · rw [← Json.firstOf_eq_some_iff, hfirst] at hm
        exact Option.some.inj hm ▸ h

/-- **The test for success is exact.** -/
theorem check_exact (family : EndpointFamily)
    (hbody : Json.ofBytes? body = some (.object fields)) :
    ∃ e, decode family body = .ok e ∧
      (e.isSuccess = true ↔ SaysSuccess family (.object fields)) ∧
      ((∃ passed, e.check = .ok passed) ↔ SaysSuccess family (.object fields)) ∧
      ∀ n, FirstUnder Json.number? family.codeKeys (.object fields) n →
        ¬ (200 ≤ n.value ∧ n.value < 201) →
        ∃ code, IsCode n.value code ∧ code ≠ 200 ∧ e.code = some code ∧
          e.check = .error (.application code e.errorMessage) := by
  refine ⟨_, decode_object family hbody, isSuccess_iff, ?_, ?_⟩
  · rw [exists_check_eq_ok_iff, isSuccess_iff]
  · intro n hfirst hn
    have hne := mt codeOfNumber_eq_iff_value.mp hn
    exact ⟨_, isCode_codeOfNumber n, hne, code_ofObject hfirst,
      check_refused hfirst (mt codeOfNumber_eq_successCode.mpr hne)⟩

/-- The object of a body whose first number under the keys of a code is known. -/
theorem exists_fields (family : EndpointFamily) (body : List UInt8) (n : JsonNumber)
    (hseen : (Json.ofBytes? body).map (fun root =>
      (root.isObject, root.firstOf Json.number? family.codeKeys)) = some (true, some n)) :
    ∃ fields, Json.ofBytes? body = some (.object fields) ∧
      FirstUnder Json.number? family.codeKeys (.object fields) n := by
  obtain ⟨root, hbody, hroot⟩ := Option.map_eq_some_iff.mp hseen
  rw [Prod.mk.injEq] at hroot
  cases root with
  | object fields => exact ⟨fields, hbody, Json.firstOf_eq_some_iff.mp hroot.2⟩
  | null | bool | number | text | array => cases hroot.1

/-- A code that is a text and another that is a fraction. -/
def sampleFraction : List UInt8 :=
  Utf8.encode "\x7b\"code\":\"200\",\"status\":-0.5\x7d".toList

/-- The fraction is cut to zero, which is a code like others. -/
theorem check_exact_fraction : ∃ fields e,
    Json.ofBytes? sampleFraction = some (.object fields) ∧
      decode .operation sampleFraction = .ok e ∧ e.isSuccess = false ∧
      ¬ SaysSuccess .operation (.object fields) ∧
      e.check = .error (.application 0 e.errorMessage) := by
  obtain ⟨fields, hbody, hfirst⟩ := exists_fields .operation sampleFraction
    (.real ⟨true, 4503599627370496, 1021, by decide, by decide⟩) (by decide +kernel)
  obtain ⟨e, hdecode, hsuccess, hpasses, hrefused⟩ := check_exact .operation hbody
  have hzero := isCode_codeOfNumber (.real ⟨true, 4503599627370496, 1021, by decide, by decide⟩)
  obtain ⟨code, hcode, -, -, hcheck⟩ := hrefused _ hfirst
    (mt codeOfNumber_eq_iff_value.mpr (by decide +kernel))
  obtain rfl : code = 0 := (hcode.unique hzero).trans (by decide +kernel)
  have hnot : ¬ SaysSuccess .operation (.object fields) := by
    rw [← hpasses, hcheck]
    rintro ⟨passed, hpassed⟩
    cases hpassed
  exact ⟨fields, e, hbody, hdecode, Bool.eq_false_iff.mpr (mt hsuccess.mp hnot), hnot, hcheck⟩

/-- **An integer code is told as it is if the format has it.** -/
theorem code_of_integer (family : EndpointFamily) {v : ℤ}
    (hbody : Json.ofBytes? body = some (.object fields))
    (hfirst : FirstUnder Json.number? family.codeKeys (.object fields) n) (hv : n.Writes v)
    (hlow : -2 ^ 63 ≤ v) (hhigh : v < 2 ^ 63) :
    ∃ e code, decode family body = .ok e ∧ e.code = some code ∧ IsCode v code ∧
      (code = v ↔ (∃ x : Binary64, x.value = v) ∨ v = 2 ^ 63 - 1) ∧
      (v.natAbs ≤ 2 ^ 53 → code = v) ∧
      (v ≠ 200 → code ≠ 200 ∧ e.check = .error (.application code e.errorMessage)) := by
  have hvalue := JsonNumber.value_of_writes hv
  have hkept := codeOfNumber_eq_iff hv hlow hhigh
  refine ⟨_, _, decode_object family hbody, code_ofObject hfirst, ?_, hkept, ?_, ?_⟩
  · rw [← hvalue]
    exact isCode_codeOfNumber n
  · intro hsmall
    exact hkept.mpr (.inl (Binary64.exists_value_of_natAbs_le hsmall))
  · intro hne
    have hcode : codeOfNumber n ≠ successCode := by
      rw [Ne, codeOfNumber_eq_iff_value, hvalue]
      rintro ⟨hle, hlt⟩
      have hle' : 200 ≤ v := by exact_mod_cast hle
      have hlt' : v < 201 := by exact_mod_cast hlt
      omega
    exact ⟨hcode, check_refused hfirst (mt codeOfNumber_eq_successCode.mpr hcode)⟩

/-- Two codes, of which the first for an upload is the greatest integer of a signed word. -/
def sampleGreatest : List UInt8 :=
  Utf8.encode "\x7b\"code\":200,\"status\":9223372036854775807\x7d".toList

theorem code_of_integer_greatest : ∃ e, decode .upload sampleGreatest = .ok e ∧
    e.code = some (2 ^ 63 - 1) ∧
    e.check = .error (.application (2 ^ 63 - 1) e.errorMessage) := by
  obtain ⟨fields, hbody, hfirst⟩ := exists_fields .upload sampleGreatest
    (.natural 9223372036854775807) (by decide +kernel)
  have hwrites : (JsonNumber.natural 9223372036854775807).Writes (2 ^ 63 - 1) := by
    rw [JsonNumber.Writes]
    decide
  obtain ⟨e, code, hdecode, hcode, -, hkept, -, hcheck⟩ :=
    code_of_integer .upload hbody hfirst hwrites (by decide) (by decide)
  obtain rfl := hkept.mpr (.inr rfl)
  exact ⟨e, hdecode, hcode, (hcheck (by decide)).2⟩

/-- An integer with 54 bits. -/
def sampleWide : List UInt8 := Utf8.encode "\x7b\"code\":9007199254740993\x7d".toList

/-- **It is told as the one below.** -/
theorem code_of_integer_wide : ∃ fields e,
    Json.ofBytes? sampleWide = some (.object fields) ∧
      FirstUnder Json.number? EndpointFamily.operation.codeKeys (.object fields)
        (.natural 9007199254740993) ∧
      decode .operation sampleWide = .ok e ∧ e.code = some 9007199254740992 ∧
      e.check = .error (.application 9007199254740992 e.errorMessage) := by
  obtain ⟨fields, hbody, hfirst⟩ := exists_fields .operation sampleWide
    (.natural 9007199254740993) (by decide +kernel)
  have hcode : codeOfNumber (.natural 9007199254740993) = 9007199254740992 := by decide +kernel
  refine ⟨fields, _, hbody, hfirst, decode_object _ hbody, ?_, ?_⟩
  · rw [code_ofObject hfirst, hcode]
  · rw [check_refused hfirst (by decide +kernel), hcode]

end Envelope

end RemoteDrive
