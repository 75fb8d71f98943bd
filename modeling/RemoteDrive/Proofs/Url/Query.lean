import RemoteDrive.Url.Basic

/-!
# Pairs in a query

A parameter is put behind the query that a URL has already, and the form in which it is written takes
at least one character for each of its own. So a URL with a parameter is at least as long as the
parameter's value (`length_le_withPair`), and as a URL may be too long to be sent, a value may be
too. This is all that a parameter can do to a URL (`isSendable_withPair`).
-/

set_option autoImplicit false

namespace RemoteDrive

theorem length_le_utf8ByteSize (cs : List Char) : cs.length ≤ (String.ofList cs).utf8ByteSize := by
  induction cs with
  | nil => exact Nat.zero_le _
  | cons c cs ih =>
    have hc := c.utf8Size_pos
    rw [String.ofList_cons, String.utf8ByteSize_append, String.utf8ByteSize_singleton,
      List.length_cons]
    omega

namespace Form

theorem encodeChar_ne_nil (c : Char) : encodeChar c ≠ [] := by
  have hbytes : String.utf8EncodeChar c ≠ [] := by
    rw [← List.length_pos_iff, String.length_utf8EncodeChar]
    exact c.utf8Size_pos
  unfold encodeChar
  split
  · simp
  · split
    · simp
    · obtain ⟨b, bs, hb⟩ := List.exists_cons_of_ne_nil hbytes
      simp [Percent.char, hb, Percent.byte]

/-- A text does not get shorter in a form. -/
theorem length_le_encodeText (s : List Char) : s.length ≤ (encodeText s).length := by
  induction s with
  | nil => exact Nat.zero_le _
  | cons c s ih =>
    have hc := List.length_pos_iff.mpr (encodeChar_ne_nil c)
    rw [encodeText, List.flatMap_cons, List.length_append, List.length_cons, ← encodeText]
    omega

theorem length_le_encode (name value : String) :
    value.length ≤ (encode [(name, value)]).utf8ByteSize := by
  have hvalue := length_le_encodeText value.toList
  have hsize := length_le_utf8ByteSize (encodePair (name, value))
  have hpair : (encodePair (name, value)).length =
      (encodeText name.toList).length + ((encodeText value.toList).length + 1) := by
    rw [encodePair, List.length_append, List.length_cons]
  rw [String.length_toList] at hvalue
  have hencode : encode [(name, value)] = String.ofList (encodePair (name, value)) := by
    simp [encode]
  rw [hencode]
  omega

end Form

namespace Url

variable {u : Url}

/-- A pair in the query counts for the length of a URL and for nothing else. -/
theorem isSendable_withPair (h : u.isSendable = true) (name value : String) :
    (u.withPair name value).isSendable = true ↔
      (u.withPair name value).text.utf8ByteSize ≤ lengthLimit := by
  simp only [isSendable, Bool.and_eq_true, decide_eq_true_eq] at h ⊢
  exact ⟨fun hsend => hsend.2, fun hlength => ⟨h.1, hlength⟩⟩

theorem length_le_withPair (u : Url) (name value : String) :
    value.length ≤ (u.withPair name value).text.utf8ByteSize := by
  have hencode := Form.length_le_encode name value
  have hquery : ∃ before, (u.withPair name value).query =
      some (before ++ Form.encode [(name, value)]) := by
    unfold withPair
    split
    · exact ⟨"", by simp⟩
    · exact ⟨"", by simp⟩
    · rename_i q _ _
      exact ⟨q ++ "&", by simp⟩
  obtain ⟨before, hbefore⟩ := hquery
  simp only [text, hbefore, Option.elim_some, String.utf8ByteSize_append]
  omega

end Url

end RemoteDrive
