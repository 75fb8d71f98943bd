import RemoteDrive.Url.Form
import RemoteDrive.Proofs.Text.Utf8

/-!
# Forms read back

Whatever names and values are written into a form, the form stands for these pairs and no others
(`decode_encode`). Two things make it so. What is written for a character is read as the bytes of
that character, whichever of the three ways it is written in (`decode_encodeChar`). And nothing that
is written for a character is a separator (`mem_encodeChar`), so the form is cut where the writer
has put one.

The order of reading matters for one character. A plus sign is made a space before the percent signs
are looked at, so a plus sign of a value has to be written with one.
-/

set_option autoImplicit false

namespace RemoteDrive

/-! ## Percent signs -/

namespace Hex

theorem value?_upper_digit : ∀ n < 16, value? (digit n).toUpper = some n := by decide

end Hex

namespace Percent

theorem decode_byte (b : UInt8) (rest : List Char) : decode (byte b ++ rest) = b :: decode rest := by
  have hbound : b.toNat < 256 := b.toNat_lt
  have hbyte : UInt8.ofNat (16 * (b.toNat / 16) + b.toNat % 16) = b := by
    rw [Nat.div_add_mod, UInt8.ofNat_toNat]
  rw [byte]
  simp only [List.cons_append, List.nil_append]
  rw [decode, Hex.value?_upper_digit _ (by omega), Hex.value?_upper_digit _ (by omega)]
  simp only [hbyte]

theorem decode_bytes (bytes : List UInt8) (rest : List Char) :
    decode (bytes.flatMap byte ++ rest) = bytes ++ decode rest := by
  induction bytes with
  | nil => rfl
  | cons b bytes ih =>
    rw [List.flatMap_cons, List.append_assoc, decode_byte, ih, List.cons_append]

/-- Any other character stands for itself. -/
theorem decode_cons {c : Char} (h : c ≠ '%') (rest : List Char) :
    decode (c :: rest) = String.utf8EncodeChar c ++ decode rest := by
  rw [decode.eq_def]
  split
  · cases ‹_ :: _ = []›
  · rename_i heq
    exact absurd (List.cons.inj heq).1 h
  · rename_i heq
    obtain ⟨rfl, rfl⟩ := List.cons.inj heq
    rfl

end Percent

namespace Form

/-! ## Characters -/

theorem ne_of_isPlain {c d : Char} (h : isPlain c = true) (hd : isPlain d = false) : c ≠ d := by
  rintro rfl
  exact Bool.false_ne_true (hd.symm.trans h)

theorem isPlain_upper_digit : ∀ n < 16, isPlain (Hex.digit n).toUpper = true := by decide

/-- The letters of a byte behind its percent sign are plain. -/
theorem mem_byte {b : UInt8} {d : Char} (h : d ∈ Percent.byte b) : d = '%' ∨ isPlain d = true := by
  have hbound : b.toNat < 256 := b.toNat_lt
  simp only [Percent.byte, List.mem_cons, List.not_mem_nil, or_false] at h
  rcases h with rfl | rfl | rfl
  · exact .inl rfl
  · exact .inr (isPlain_upper_digit _ (by omega))
  · exact .inr (isPlain_upper_digit _ (by omega))

/-- Nothing that is written for a character is a separator. -/
theorem mem_encodeChar {c d : Char} (h : d ∈ encodeChar c) :
    d = '+' ∨ d = '%' ∨ isPlain d = true := by
  unfold encodeChar at h
  split at h
  · obtain rfl := List.mem_singleton.mp h
    exact .inr (.inr ‹_›)
  split at h
  · exact .inl (List.mem_singleton.mp h)
  · obtain ⟨b, -, hb⟩ := List.mem_flatMap.mp h
    exact .inr (mem_byte hb)

theorem not_mem_encodeText {d : Char} (hplain : isPlain d = false) (hplus : d ≠ '+')
    (hpercent : d ≠ '%') (s : List Char) : d ∉ encodeText s := by
  intro h
  obtain ⟨c, -, hd⟩ := List.mem_flatMap.mp h
  rcases mem_encodeChar hd with rfl | rfl | hd
  · exact hplus rfl
  · exact hpercent rfl
  · exact ne_of_isPlain hd hplain rfl

/-- The text with plus signs made spaces, which is done before anything else. -/
def spaced (s : List Char) : List Char := s.map fun c => if c = '+' then ' ' else c

theorem spaced_append (s t : List Char) : spaced (s ++ t) = spaced s ++ spaced t :=
  List.map_append

theorem spaced_of_not_mem {s : List Char} (h : '+' ∉ s) : spaced s = s := by
  refine (List.map_congr_left fun c hc => ?_).trans (List.map_id s)
  exact if_neg fun hplus : c = '+' => h (hplus ▸ hc)

theorem spaced_char (c : Char) : spaced (Percent.char c) = Percent.char c := by
  refine spaced_of_not_mem fun h => ?_
  obtain ⟨b, -, hb⟩ := List.mem_flatMap.mp h
  rcases mem_byte hb with hpercent | hplain
  · exact absurd hpercent (by decide)
  · exact absurd hplain (by decide)

/-- **A character is read back**, whichever way it is written in. -/
theorem decode_encodeChar (c : Char) (rest : List Char) :
    Percent.decode (spaced (encodeChar c ++ rest)) =
      String.utf8EncodeChar c ++ Percent.decode (spaced rest) := by
  rw [spaced_append]
  unfold encodeChar
  split
  · rename_i hplain
    have hplus : '+' ∉ [c] := fun h =>
      ne_of_isPlain hplain (by decide) (List.mem_singleton.mp h).symm
    rw [spaced_of_not_mem hplus, List.singleton_append,
      Percent.decode_cons (ne_of_isPlain hplain (by decide))]
  split
  · rename_i hspace
    subst hspace
    exact Percent.decode_cons (by decide) _
  · rw [spaced_char]
    exact Percent.decode_bytes _ _

/-! ## Texts, pairs and forms -/

theorem decode_encodeText (s : List Char) :
    Percent.decode (spaced (encodeText s)) = Utf8.encode s := by
  induction s with
  | nil => rfl
  | cons c s ih =>
    rw [encodeText, List.flatMap_cons, decode_encodeChar, ← encodeText, ih, Utf8.encode,
      Utf8.encode, List.flatMap_cons]

theorem decodeText_encodeText (s : String) : decodeText (encodeText s.toList) = s := by
  show String.ofList (Utf8.decodeLossy (Percent.decode (spaced (encodeText s.toList)))) = s
  rw [decode_encodeText, Utf8.decodeLossy_encode, String.ofList_toList]

theorem decodePair_encodePair (p : String × String) : decodePair (encodePair p) = p := by
  have hname : ∀ c ∈ encodeText p.1.toList, (c != '=') = true := by
    intro c hc
    simp only [bne_iff_ne]
    rintro rfl
    exact not_mem_encodeText (by decide) (by decide) (by decide) _ hc
  have htake : (encodePair p).takeWhile (· != '=') = encodeText p.1.toList := by
    rw [encodePair, List.takeWhile_append_of_pos hname]
    simp
  have hdrop : (encodePair p).dropWhile (· != '=') = '=' :: encodeText p.2.toList := by
    rw [encodePair, List.dropWhile_append_of_pos hname]
    simp
  rw [decodePair, htake, hdrop, List.drop_one, List.tail_cons, decodeText_encodeText,
    decodeText_encodeText]

theorem not_mem_encodePair (p : String × String) : '&' ∉ encodePair p := by
  have htext := not_mem_encodeText (d := '&') (by decide) (by decide) (by decide)
  simp [encodePair, htext]

/-- **A form stands for the pairs that were written into it.** -/
theorem decode_encode (pairs : List (String × String)) : decode (encode pairs) = pairs := by
  rw [decode, encode, String.toList_ofList]
  by_cases hempty : pairs = []
  · subst hempty
    rfl
  have hcut : (List.intercalate ['&'] (pairs.map encodePair)).splitOn '&' =
      pairs.map encodePair := by
    refine List.splitOn_intercalate '&' (fun s hs => ?_) (by simpa using hempty)
    obtain ⟨p, -, rfl⟩ := List.mem_map.mp hs
    exact not_mem_encodePair p
  have hnonempty : ∀ s ∈ pairs.map encodePair, decide (s ≠ []) = true := by
    intro s hs
    obtain ⟨p, -, rfl⟩ := List.mem_map.mp hs
    simp [encodePair]
  rw [hcut, List.filter_eq_self.mpr hnonempty, List.map_map]
  refine (List.map_congr_left fun p _ => ?_).trans (List.map_id pairs)
  exact decodePair_encodePair p

end Form

end RemoteDrive
