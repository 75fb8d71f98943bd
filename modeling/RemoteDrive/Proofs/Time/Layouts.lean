import RemoteDrive.Time.Printer
import RemoteDrive.Proofs.Time.Reading

/-!
# Timestamps in two layouts

The service writes a moment in RFC 3339 or as a plain date and time, and a reader tries the one and
then the other. Nothing is lost on the way: RFC 3339 gives the moment back, whatever the offset and
however many digits stand behind the point, as long as they are enough (`read?_strictText`), and a
plain date and time gives back its second (`read?_plain`). The order of the two attempts does not
matter, because a plain date and time has no offset, without which there is no RFC 3339
(`readStrict?_plain`).

Both layouts are a date, one character, a time and a rest, so each of the two readers has one law
for all clocks (`readStrict?_clock`, `readPlain?_clock`), and what moment a clock means is the
matter of `WallClock.toInstant?_ofInstant`. The texts begin and end with something that is not white
space, so trimming leaves them alone, and what is put around them it takes off again.
-/

set_option autoImplicit false

namespace RemoteDrive

/-! ## Trimming -/

namespace Text

variable {before behind middle s : List Char}

theorem dropBlanks_append (h : before.all isBlank = true) :
    dropBlanks (before ++ s) = dropBlanks s :=
  List.dropWhile_append_of_pos (List.all_eq_true.mp h)

theorem dropBlanks_of_all (h : s.all isBlank = true) : dropBlanks s = [] := by
  rw [← List.append_nil s, dropBlanks_append h]
  rfl

/-- White space around a text makes no difference to what is left of it. -/
theorem trimChars_append (hbefore : before.all isBlank = true)
    (hbehind : behind.all isBlank = true) : trimChars (before ++ s ++ behind) = trimChars s := by
  have hstart : dropBlanks (before ++ s ++ behind) =
      if (dropBlanks s).isEmpty then dropBlanks behind else dropBlanks s ++ behind := by
    rw [List.append_assoc, dropBlanks_append hbefore]
    exact List.dropWhile_append
  rw [trimChars, trimChars, hstart]
  split
  · rename_i hempty
    rw [List.isEmpty_iff.mp hempty, dropBlanks_of_all hbehind]
  · rw [List.reverse_append, dropBlanks_append (by rwa [List.all_reverse])]

/-- A text without white space that is not empty. -/
structure Solid (s : List Char) : Prop where
  ne_nil : s ≠ []
  not_blank : ∀ c ∈ s, isBlank c = false

theorem Solid.append {s' : List Char} (h : Solid s) (h' : Solid s') : Solid (s ++ s') where
  ne_nil hnil := h.ne_nil (List.append_eq_nil_iff.mp hnil).1
  not_blank c hc := (List.mem_append.mp hc).elim (h.not_blank c) (h'.not_blank c)

theorem Solid.reverse (h : Solid s) : Solid s.reverse where
  ne_nil hnil := h.ne_nil (List.reverse_eq_nil_iff.mp hnil)
  not_blank c hc := h.not_blank c (List.mem_reverse.mp hc)

theorem Solid.dropBlanks_append (h : Solid s) : dropBlanks (s ++ behind) = s ++ behind := by
  obtain ⟨hne, hblank⟩ := h
  cases s with
  | nil => exact absurd rfl hne
  | cons c s =>
    exact List.dropWhile_cons_of_neg (Bool.eq_false_iff.mp (hblank c List.mem_cons_self))

theorem trimChars_between (hbefore : Solid before) (hbehind : Solid behind) :
    trimChars (before ++ middle ++ behind) = before ++ middle ++ behind := by
  rw [trimChars, List.append_assoc, hbefore.dropBlanks_append, ← List.append_assoc,
    List.reverse_append, hbehind.reverse.dropBlanks_append, ← List.reverse_append,
    List.reverse_reverse]

end Text

open Text (trimChars dropBlanks Solid)
open Decimal (EndsRun)

namespace Timestamp

variable {t : Instant} {w : WallClock} {rest : List Char}

/-! ## The three parts -/

theorem solid_padded (width n : ℕ) : Solid (Decimal.padded width n).toList where
  ne_nil := List.ne_nil_of_length_pos (Decimal.length_padded_pos width n)
  not_blank c hc := Decimal.isBlank_of_isDigit ((Decimal.run_padded width n).digits c hc)

theorem solid_char {c : Char} (h : Text.isBlank c = false) : Solid [c] where
  ne_nil := List.cons_ne_nil c []
  not_blank _ hd := List.mem_singleton.mp hd ▸ h

/-- Every number of the clock has at most two digits, but the year. -/
structure TwoDigits (w : WallClock) : Prop where
  month : w.date.month < 10 ^ 2
  day : w.date.day < 10 ^ 2
  hour : w.hour < 10 ^ 2
  minute : w.minute < 10 ^ 2
  second : w.second < 10 ^ 2

theorem twoDigits_of_isValid (h : w.isValid = true) : TwoDigits w := by
  have hlengths : ∀ leap, ∀ month ≤ 12, Date.monthLength leap month ≤ 31 := by decide
  obtain ⟨hdate, -, hhour, hminute, hsecond, -⟩ := WallClock.isValid_iff.mp h
  obtain ⟨-, hmonth, -, hday⟩ := Date.isValid_iff.mp hdate
  have hlength := hlengths (Date.isLeap w.date.year) w.date.month hmonth
  exact ⟨by omega, by omega, by omega, by omega, by omega⟩

theorem dateText_append (d : Date) : (dateText d).toList ++ rest =
    (yearText d.year).toList ++ '-' :: ((Decimal.padded 2 d.month).toList ++
      '-' :: ((Decimal.padded 2 d.day).toList ++ rest)) := by
  have hdash : "-".toList = ['-'] := rfl
  simp only [dateText, String.toList_append, List.append_assoc, hdash, List.cons_append,
    List.nil_append]

theorem timeText_append (w : WallClock) : (timeText w).toList ++ rest =
    (Decimal.padded 2 w.hour).toList ++ ':' :: ((Decimal.padded 2 w.minute).toList ++
      ':' :: ((Decimal.padded 2 w.second).toList ++ rest)) := by
  have hcolon : ":".toList = [':'] := rfl
  simp only [timeText, String.toList_append, List.append_assoc, hcolon, List.cons_append,
    List.nil_append]

theorem readStrict?_clock {c : Char} (hdigits : TwoDigits w) (hyear : FourDigits w.date.year)
    (hc : ∀ s, dateEnd (c :: s) = some s) :
    readStrict? ((dateText w.date).toList ++ c :: ((timeText w).toList ++ rest)) = (do
      let (nanos, s) ← fraction rest
      let (ahead, s) ← offset (literal ':') s
      if s.isEmpty then WallClock.toInstant? { w with nanos := nanos } ahead else none) := by
  rw [dateText_append, timeText_append, readStrict?]
  refine (bind_of_some (number_yearText hyear)).trans ?_
  refine (bind_of_some (literal_self _ _)).trans ?_
  refine (bind_of_some (number_two hdigits.month)).trans ?_
  refine (bind_of_some (literal_self _ _)).trans ?_
  refine (bind_of_some (number_two hdigits.day)).trans ?_
  refine (bind_of_some (hc _)).trans ?_
  refine (bind_of_some (number_two hdigits.hour)).trans ?_
  refine (bind_of_some (literal_self _ _)).trans ?_
  refine (bind_of_some (number_two hdigits.minute)).trans ?_
  refine (bind_of_some (literal_self _ _)).trans ?_
  refine (bind_of_some (number_two hdigits.second)).trans ?_
  rw [Int.toNat_of_nonneg hyear.1]

theorem readPlain?_clock (hdigits : TwoDigits w) :
    readPlain? ((dateText w.date).toList ++ ' ' :: (timeText w).toList) =
      WallClock.toInstant? { w with nanos := 0 } 0 := by
  have hyear : ∀ s, lenientYear ((yearText w.date.year).toList ++ '-' :: s) =
      some (w.date.year, '-' :: s) := fun s =>
    lenientYear_yearText w.date.year (Decimal.endsRun_cons (by decide))
  have hgap : ∀ {n : ℕ} {s : List Char}, n < 10 ^ 2 →
      lenient 2 (dropBlanks (' ' :: ((Decimal.padded 2 n).toList ++ s))) = some (n, s) := by
    intro n s hn
    rw [← List.singleton_append, Text.dropBlanks_append (by decide),
      (solid_padded 2 n).dropBlanks_append, lenient_two hn]
  rw [← List.append_nil (timeText w).toList, dateText_append, timeText_append, readPlain?]
  refine (bind_of_some (hyear _)).trans ?_
  refine (bind_of_some (literal_self _ _)).trans ?_
  refine (bind_of_some (lenient_two hdigits.month)).trans ?_
  refine (bind_of_some (literal_self _ _)).trans ?_
  refine (bind_of_some (lenient_two hdigits.day)).trans ?_
  refine (bind_of_some (hgap hdigits.hour)).trans ?_
  refine (bind_of_some (literal_self _ _)).trans ?_
  refine (bind_of_some (lenient_two hdigits.minute)).trans ?_
  refine (bind_of_some (literal_self _ _)).trans ?_
  exact (bind_of_some (lenient_two hdigits.second)).trans (if_pos rfl)

/-! ## Texts -/

theorem solid_dateText {d : Date} (h : FourDigits d.year) : Solid (dateText d).toList := by
  have hdash : Solid "-".toList := solid_char (by decide)
  have hyear : Solid (yearText d.year).toList := by
    rw [yearText, if_pos (And.intro h.1 h.2)]
    exact solid_padded 4 d.year.toNat
  simp only [dateText, String.toList_append]
  exact (((hyear.append hdash).append (solid_padded 2 _)).append hdash).append (solid_padded 2 _)

theorem solid_timeText (w : WallClock) : Solid (timeText w).toList := by
  have hcolon : Solid ":".toList := solid_char (by decide)
  simp only [timeText, String.toList_append]
  exact ((((solid_padded 2 _).append hcolon).append (solid_padded 2 _)).append hcolon).append
    (solid_padded 2 _)

theorem solid_offsetText (minutes : ℤ) : Solid (offsetText minutes).toList := by
  have hsign : Solid (if minutes < 0 then "-" else "+").toList := by
    split
    · exact solid_char (by decide)
    · exact solid_char (by decide)
  have hcolon : Solid ":".toList := solid_char (by decide)
  simp only [offsetText, String.toList_append]
  exact ((hsign.append (solid_padded 2 _)).append hcolon).append (solid_padded 2 _)

/-- Of a text that has no white space at its ends all is read. -/
theorem read?_of_ends {raw : String} {before middle behind : List Char}
    (hraw : raw.toList = before ++ middle ++ behind) (hbefore : Solid before)
    (hbehind : Solid behind) : read? raw = (readStrict? raw.toList <|> readPlain? raw.toList) := by
  have htrim : trimChars raw.toList = raw.toList := by
    rw [hraw, Text.trimChars_between hbefore hbehind]
  have hempty : ¬ raw.toList.isEmpty = true := by
    rw [List.isEmpty_iff, hraw, List.append_assoc]
    exact fun hnil => hbefore.ne_nil (List.append_eq_nil_iff.mp hnil).1
  rw [read?, htrim]
  exact if_neg hempty

theorem inCalendar_of_fourDigits {year : ℤ} (h : FourDigits year) :
    WallClock.inCalendar year = true := by
  obtain ⟨hge, hle⟩ := h
  simp only [WallClock.inCalendar, decide_eq_true_eq]
  omega

/-! ## RFC 3339 -/

/-- RFC 3339 with this text for the offset. -/
def strictText (w : WallClock) (digits : ℕ) (ahead : String) : String :=
  dateText w.date ++ "T" ++ timeText w ++ fractionText digits w.nanos ++ ahead

/-- The text writes an offset, in seconds. -/
structure WritesOffset (seconds : ℤ) (ahead : String) : Prop where
  read : offset (literal ':') ahead.toList = some (seconds, [])
  whole : seconds % 60 = 0
  solid : Solid ahead.toList
  endsRun : EndsRun ahead.toList
  noPoint : '.' ∉ ahead.toList.head?

theorem toList_strictText (w : WallClock) (digits : ℕ) (ahead : String) :
    (strictText w digits ahead).toList = (dateText w.date).toList ++
      'T' :: ((timeText w).toList ++ ((fractionText digits w.nanos).toList ++ ahead.toList)) := by
  have hletter : "T".toList = ['T'] := rfl
  simp only [strictText, String.toList_append, List.append_assoc, hletter, List.cons_append,
    List.nil_append]

/-- **RFC 3339 is read as the moment that was written.** -/
theorem read?_strictText {digits : ℕ} {seconds : ℤ} {ahead : String}
    (hahead : WritesOffset seconds ahead)
    (hyear : FourDigits (WallClock.ofInstant t seconds).date.year)
    (hdigits : Suffices digits (WallClock.ofInstant t seconds).nanos) :
    read? (strictText (WallClock.ofInstant t seconds) digits ahead) = some t := by
  have hcalendar := inCalendar_of_fourDigits hyear
  have hmoment := WallClock.toInstant?_ofInstant hahead.whole hcalendar
  have hvalid := WallClock.isValid_ofInstant hahead.whole hcalendar
  generalize WallClock.ofInstant t seconds = w at *
  obtain ⟨-, -, -, -, -, hnanos⟩ := WallClock.isValid_iff.mp hvalid
  have htext := toList_strictText w digits ahead
  have hends : (strictText w digits ahead).toList = (dateText w.date).toList ++
      ('T' :: ((timeText w).toList ++ (fractionText digits w.nanos).toList)) ++ ahead.toList := by
    simp only [htext, List.append_assoc, List.cons_append]
  have hstrict : readStrict? (strictText w digits ahead).toList = some t := by
    rw [htext, readStrict?_clock (twoDigits_of_isValid hvalid) hyear (fun _ => rfl),
      fraction_fractionText hdigits hnanos hahead.endsRun hahead.noPoint]
    simp only [Option.bind_eq_bind, Option.bind_some, hahead.read, List.isEmpty_nil, if_true,
      hmoment]
  rw [read?_of_ends hends (solid_dateText hyear) hahead.solid, hstrict]
  rfl

theorem writesOffset_offsetText {minutes : ℤ} (h : IsOffset minutes) :
    WritesOffset (minutes * 60) (offsetText minutes) where
  read := by
    have hread : offset (literal ':') ((offsetText minutes).toList ++ []) =
        some (minutes * 60, []) := offset_offsetText h
    rwa [List.append_nil] at hread
  whole := by omega
  solid := solid_offsetText minutes
  endsRun := by
    simp only [offsetText, String.toList_append]
    split
    · exact Decimal.endsRun_cons (by decide)
    · exact Decimal.endsRun_cons (by decide)
  noPoint := by
    simp only [offsetText, String.toList_append]
    split
    · exact fun h => by cases h
    · exact fun h => by cases h

theorem writesOffset_universal : WritesOffset 0 "Z" where
  read := rfl
  whole := rfl
  solid := solid_char (by decide)
  endsRun := Decimal.endsRun_cons (by decide)
  noPoint h := by cases h

/-- The moment in RFC 3339, as clocks show it whose year needs no sign. -/
inductive Zoned (t : Instant) : String → Prop
  | ahead {minutes : ℤ} {digits : ℕ} (hoffset : IsOffset minutes)
    (hyear : FourDigits (WallClock.ofInstant t (minutes * 60)).date.year)
    (hdigits : Suffices digits (WallClock.ofInstant t (minutes * 60)).nanos) :
    Zoned t (zoned minutes digits t)
  | universal {digits : ℕ} (hyear : FourDigits (WallClock.ofInstant t 0).date.year)
    (hdigits : Suffices digits (WallClock.ofInstant t 0).nanos) :
    Zoned t (strictText (WallClock.ofInstant t 0) digits "Z")

theorem read?_of_zoned {s : String} (h : Zoned t s) : read? s = some t := by
  cases h with
  | ahead hoffset hyear hdigits =>
    exact read?_strictText (writesOffset_offsetText hoffset) hyear hdigits
  | universal hyear hdigits => exact read?_strictText writesOffset_universal hyear hdigits

/-! ## The plain layout -/

theorem toList_plain (t : Instant) : (plain t).toList =
    (dateText (WallClock.ofInstant t 0).date).toList ++
      ' ' :: (timeText (WallClock.ofInstant t 0)).toList := by
  have hspace : " ".toList = [' '] := rfl
  simp only [plain, String.toList_append, List.append_assoc, hspace, List.cons_append,
    List.nil_append]

/-- A plain date and time has no offset, so it is nothing in RFC 3339. -/
theorem readStrict?_plain (hdigits : TwoDigits (WallClock.ofInstant t 0))
    (hyear : FourDigits (WallClock.ofInstant t 0).date.year) :
    readStrict? (plain t).toList = none := by
  rw [toList_plain, ← List.append_nil (timeText (WallClock.ofInstant t 0)).toList,
    readStrict?_clock hdigits hyear (fun _ => rfl), fraction_of_no_point (by simp)]
  rfl

theorem ofInstant_wholeSecond (h : t.isLeap = false) (offset : ℤ) :
    WallClock.ofInstant t.wholeSecond offset =
      { WallClock.ofInstant t offset with nanos := 0 } := by
  have hwhole : t.wholeSecond.isLeap = false := rfl
  simp only [WallClock.ofInstant, h, hwhole, Bool.false_eq_true, if_false]
  rfl

/-- **A plain date and time is read as the second that was written.** -/
theorem read?_plain (hleap : t.isLeap = false)
    (hyear : FourDigits (WallClock.ofInstant t 0).date.year) :
    read? (plain t) = some t.wholeSecond := by
  have hcalendar := WallClock.inCalendar_ofInstant t
  have hdigits := twoDigits_of_isValid (WallClock.isValid_ofInstant (Int.zero_emod 60) hcalendar)
  have hends : (plain t).toList = (dateText (WallClock.ofInstant t 0).date).toList ++ [' '] ++
      (timeText (WallClock.ofInstant t 0)).toList := by
    rw [toList_plain, List.append_assoc]
    rfl
  have hplain : readPlain? (plain t).toList = some t.wholeSecond := by
    rw [toList_plain, readPlain?_clock hdigits, ← ofInstant_wholeSecond hleap]
    exact WallClock.toInstant?_ofInstant (Int.zero_emod 60)
      (WallClock.inCalendar_ofInstant t.wholeSecond)
  rw [read?_of_ends hends (solid_dateText hyear) (solid_timeText _),
    readStrict?_plain hdigits hyear, hplain]
  rfl

/-! ## Both layouts -/

/-- White space around a timestamp makes no difference. -/
theorem read?_append {before behind : String} (raw : String) (hbefore : Text.blank before = true)
    (hbehind : Text.blank behind = true) : read? (before ++ raw ++ behind) = read? raw := by
  simp only [read?, String.toList_append, Text.trimChars_append hbefore hbehind]

/-- **What is written in either layout is read back.** -/
theorem read?_written (t : Instant) (hleap : t.isLeap = false) :
    (FourDigits (WallClock.ofInstant t 0).date.year → read? (plain t) = some t.wholeSecond) ∧
      (∀ s, Zoned t s → read? s = some t) ∧
      (FourDigits (WallClock.ofInstant t 0).date.year → t.nanos = 0 →
        ∀ s, Zoned t s → read? s = read? (plain t)) ∧
      (∀ s s', Zoned t s → Zoned t s' → read? s = read? s') ∧
      ∀ raw before behind, Text.blank before = true → Text.blank behind = true →
        read? (before ++ raw ++ behind) = read? raw := by
  refine ⟨read?_plain hleap, fun s => read?_of_zoned, ?_, ?_, ?_⟩
  · intro hyear hwhole s hs
    rw [read?_of_zoned hs, read?_plain hleap hyear, Instant.wholeSecond_of_nanos hwhole]
  · intro s s' hs hs'
    rw [read?_of_zoned hs, read?_of_zoned hs']
  · intro raw before behind hbefore hbehind
    exact read?_append raw hbefore hbehind

/-- The last second of year zero with a fraction, which a clock to the east shows in year one. -/
def sampleTurn : Instant := ⟨-62135596801, 120000000, by decide, by decide, by decide, by decide⟩

theorem read?_written_turn : read? "0001-01-01T13:44:59.12+13:45" = some sampleTurn ∧
    read? ("\u2003 " ++ "0000-12-31T23:59:59.120Z" ++ "\n") = some sampleTurn ∧
    read? "0000-12-31 23:59:59" = some sampleTurn.wholeSecond := by
  have hahead : zoned (13 * 60 + 45) 2 sampleTurn = "0001-01-01T13:44:59.12+13:45" := by
    decide +kernel
  have huniversal : strictText (WallClock.ofInstant sampleTurn 0) 3 "Z" =
      "0000-12-31T23:59:59.120Z" := by decide +kernel
  have hshown : plain sampleTurn = "0000-12-31 23:59:59" := by decide +kernel
  obtain ⟨hplain, hzoned, -, -, hblank⟩ := read?_written sampleTurn (by decide)
  refine ⟨?_, ?_, ?_⟩
  · exact hzoned _ (hahead ▸ .ahead (by decide) (by decide) (by decide))
  · rw [hblank _ _ _ (by decide) (by decide)]
    exact hzoned _ (huniversal ▸ .universal (by decide) (by decide))
  · exact hshown ▸ hplain (by decide)

end Timestamp
end RemoteDrive
