import Mathlib.Data.List.TakeWhile
import RemoteDrive.Url.Basic

/-!
# URLs below a base

A request's URL is read from the text of a base URL with a path behind it, and not from the parts of
the base. What the base does not have could so come in by the path, or by white space that counts as
soon as something stands behind it. This file says that it does not: below a base without query,
fragment and user there are none of them either (`bare_below`), if the path holds none of the
characters that start one.

The reason is the same for all three. Each starts with a mark, and the marks of the longer text are
those of the base (`trimmed_below`). For the user this takes one step more, because the place where
a user is looked for ends at the first slash, which may be the path's own (`login_append`).
-/

set_option autoImplicit false

namespace RemoteDrive
namespace Url

/-- A URL that names a place and nothing else. -/
structure Bare (u : Url) : Prop where
  query : u.query = none
  fragment : u.fragment = none
  user : u.user = ""
  password : u.password = none

/-- None of the characters starts a fragment or a query, or ends a user. -/
def Unmarked (s : List Char) : Prop := ∀ c ∈ s, c ≠ '#' ∧ c ≠ '?' ∧ c ≠ '@'

/-- A path that says of itself where it starts and ends, and that holds no mark. -/
def isPlainPath (path : String) : Bool :=
  path.toList.all fun c => 0x20 < c.toNat && c != '#' && c != '?' && c != '@'

theorem unmarked_of_plain {path : String} (h : isPlainPath path = true) : Unmarked path.toList := by
  intro c hc
  have hplain := List.all_eq_true.mp h c hc
  simp only [Bool.and_eq_true, bne_iff_ne, decide_eq_true_eq] at hplain
  exact ⟨hplain.1.1.2, hplain.1.2, hplain.2⟩

/-! ## The ends of a text -/

/-- What does not count at the end of a base counts with a path behind it, and marks nothing. -/
theorem trimmed_below {path : String} (h : isPlainPath path = true) (base : String) :
    ∃ tail, trimmed (base ++ path).toList = trimmed base.toList ++ tail ∧ Unmarked tail := by
  let isEdge := fun (c : Char) => decide (c.toNat ≤ 0x20)
  have hkeep : ∀ s : List Char, (∀ c ∈ s, c ∈ path.toList) → s.dropWhile isEdge = s := by
    intro s hs
    cases s with
    | nil => rfl
    | cons c cs =>
      have hplain := List.all_eq_true.mp h c (hs c (by simp))
      simp only [Bool.and_eq_true, decide_eq_true_eq] at hplain
      rw [List.dropWhile_cons, if_neg (by simpa [isEdge] using hplain.1.1.1)]
  let b := base.toList.dropWhile isEdge
  let junk := (b.reverse.takeWhile isEdge).reverse
  have hb : b = trimmed base.toList ++ junk := by
    show b = (b.reverse.dropWhile isEdge).reverse ++ (b.reverse.takeWhile isEdge).reverse
    rw [← List.reverse_append, List.takeWhile_append_dropWhile, List.reverse_reverse]
  have hstart : (base ++ path).toList.dropWhile isEdge = b ++ path.toList := by
    rw [String.toList_append, List.dropWhile_append, hkeep _ fun _ hc => hc]
    split
    · rw [show b = [] from List.isEmpty_iff.mp ‹_›, List.nil_append]
    · rfl
  have htrimmed : trimmed (base ++ path).toList =
      ((path.toList.reverse ++ b.reverse).dropWhile isEdge).reverse := by
    show (((base ++ path).toList.dropWhile isEdge).reverse.dropWhile isEdge).reverse = _
    rw [hstart, List.reverse_append]
  cases hempty : path.toList.reverse.isEmpty with
  | true =>
    refine ⟨[], ?_, fun _ hc => by cases hc⟩
    rw [htrimmed, List.isEmpty_iff.mp hempty, List.nil_append, List.append_nil]
    rfl
  | false =>
    refine ⟨junk ++ path.toList, ?_, ?_⟩
    · rw [htrimmed, List.dropWhile_append, hkeep _ fun c hc => by simpa using hc, hempty,
        if_neg Bool.false_ne_true, List.reverse_append, List.reverse_reverse, List.reverse_reverse,
        hb, List.append_assoc]
    · intro c hc
      rcases List.mem_append.mp hc with hc | hc
      · have hedge : c.toNat ≤ 0x20 := by
          simpa [isEdge] using List.mem_takeWhile_imp (List.mem_reverse.mp hc)
        refine ⟨?_, ?_, ?_⟩ <;> (rintro rfl; revert hedge; decide)
      · exact unmarked_of_plain h c hc

/-! ## Marks -/

theorem cut_eq_none {mark : Char} {s : List Char} (h : (cut mark s).2 = none) :
    mark ∉ s ∧ (cut mark s).1 = s := by
  unfold cut at h ⊢
  split at h
  · rename_i hdrop
    refine ⟨fun hmem => ?_, rfl⟩
    have hall := List.dropWhile_eq_nil_iff.mp hdrop mark hmem
    simp at hall
  · cases h

theorem cut_of_not_mem {mark : Char} {s : List Char} (h : mark ∉ s) : cut mark s = (s, none) := by
  have hdrop : s.dropWhile (· != mark) = [] := by
    rw [List.dropWhile_eq_nil_iff]
    intro c hc
    simpa using fun hmark : c = mark => h (hmark ▸ hc)
  unfold cut
  rw [hdrop]

/-- A part that is there stays, whatever is put behind it. -/
theorem dropWhile_append_of_head {p : Char → Bool} {s tail : List Char} {c : Char}
    (h : (s.dropWhile p).head? = some c) : (s ++ tail).dropWhile p = s.dropWhile p ++ tail := by
  rw [List.dropWhile_append, if_neg]
  intro hempty
  rw [List.isEmpty_iff.mp hempty] at h
  cases h

theorem takeWhile_append_of_head {p : Char → Bool} {s tail : List Char} {c : Char}
    (h : (s.dropWhile p).head? = some c) : (s ++ tail).takeWhile p = s.takeWhile p := by
  rw [List.takeWhile_append, if_neg]
  intro hlength
  have hsum := congrArg List.length (List.takeWhile_append_dropWhile (p := p) (l := s))
  rw [List.length_append, hlength] at hsum
  rw [List.length_eq_zero_iff.mp (Nat.add_eq_left.mp hsum)] at h
  cases h

theorem scheme?_append {s tail : List Char} {scheme : String} (h : scheme? s = some scheme) :
    scheme? (s ++ tail) = some scheme := by
  unfold scheme? at h ⊢
  split at h
  · rename_i hstart
    simp only [Bool.and_eq_true, decide_eq_true_eq] at hstart
    have hhead : (s ++ tail).head?.any Char.isAlpha = true := by
      cases s with
      | nil => simp at hstart
      | cons c cs => exact hstart.1
    rw [takeWhile_append_of_head hstart.2, dropWhile_append_of_head hstart.2, if_pos]
    · exact h
    · rw [hhead, List.head?_append, hstart.2]
      rfl
  · cases h

/-! ## The user -/

theorem splitOnP_append {p : Char → Bool} {a : List Char} (h : ∀ c ∈ a, p c = false)
    (b : List Char) : (a ++ b).splitOnP p = (b.splitOnP p).modifyHead (a ++ ·) := by
  induction a with
  | nil =>
    rw [List.nil_append]
    cases b.splitOnP p <;> rfl
  | cons c cs ih =>
    rw [List.cons_append, List.splitOnP_cons_eq_if_modifyHead, if_neg (by simp [h c (by simp)]),
      ih fun c' hc' => h c' (by simp [hc'])]
    cases b.splitOnP p <;> rfl

/-- A user ends at the last `@`, so it does not depend on what follows that. -/
theorem splitUser_append {tail : List Char} (h : '@' ∉ tail) (s : List Char) :
    (splitUser (s ++ tail)).1 = (splitUser s).1 := by
  have hsplit : (s ++ tail).reverse.splitOnP (· == '@') =
      (s.reverse.splitOnP (· == '@')).modifyHead (tail.reverse ++ ·) := by
    rw [List.reverse_append]
    refine splitOnP_append (fun c hc => ?_) _
    simpa using fun hat : c = '@' => h (hat ▸ List.mem_reverse.mp hc)
  unfold splitUser
  rw [hsplit]
  rcases s.reverse.splitOnP (· == '@') with _ | ⟨last, _ | ⟨_, _⟩⟩ <;> rfl

/-- The user and the password of a place, as they are written. -/
def login (known : Bool) (s : List Char) : List Char :=
  ((splitUser (s.takeWhile fun c => !isSlash known c)).1).getD []

theorem login_append {tail : List Char} (h : '@' ∉ tail) (known : Bool) (s : List Char) :
    login known (s ++ tail) = login known s := by
  unfold login
  rw [List.takeWhile_append]
  split
  · rename_i hall
    -- the place where a user is looked for goes on into the tail, where there is no `@`
    have hwhole := (List.takeWhile_prefix fun c => !isSlash known c).eq_of_length hall
    rw [splitUser_append fun hmem => h ((List.takeWhile_sublist _).mem hmem), hwhole]
  · rfl

/-- No user is written where there is no `@`. -/
theorem login_eq_nil {s : List Char} (h : '@' ∉ s) (known : Bool) : login known s = [] :=
  login_append h known []

/-- The user and the password of a URL, as they are written behind its scheme. -/
def loginOf (scheme : String) (s : List Char) : List Char :=
  if isFile scheme then []
  else if isKnown scheme then login true (s.dropWhile (isSlash true))
  else if s.take 2 = ['/', '/'] then login false (s.drop 2)
  else []

theorem loginOf_append {tail : List Char} (h : '@' ∉ tail) (scheme : String) (s : List Char) :
    loginOf scheme (s ++ tail) = loginOf scheme s := by
  have hdrop : ∀ n, '@' ∉ tail.drop n := fun n hmem => h (List.mem_of_mem_drop hmem)
  unfold loginOf
  split
  · rfl
  split
  · -- slashes before a place do not matter, so there may be a place only with the tail
    rw [List.dropWhile_append]
    split
    · rename_i hempty
      have hrest : '@' ∉ tail.dropWhile (isSlash true) :=
        fun hmem => h ((List.dropWhile_sublist _).mem hmem)
      rw [login_eq_nil hrest, List.isEmpty_iff.mp hempty]
      rfl
    · exact login_append h true _
  · match s with
    | [] =>
      rw [List.nil_append, login_eq_nil (hdrop 2)]
      simp
    | [c] =>
      rw [show ([c] ++ tail).drop 2 = tail.drop 1 from rfl, login_eq_nil (hdrop 1)]
      simp
    | c :: c' :: s =>
      simp only [List.cons_append, List.take_succ_cons, List.take_zero, List.drop_succ_cons,
        List.drop_zero, login_append h]

def userText (login : List Char) : String :=
  String.ofList (Percent.encode Percent.inUser (login.takeWhile (· != ':')))

def passwordText? (login : List Char) : Option String :=
  let password := (login.dropWhile (· != ':')).drop 1
  if password.isEmpty then none else some (String.ofList (Percent.encode Percent.inUser password))

/-! ## The whole text -/

/-- The text of a URL without its query and its fragment. -/
def stem (text : String) : List Char := (cut '?' (cut '#' (trimmed text.toList)).1).1

/-- What stands behind the scheme. -/
def behindScheme (s : List Char) : List Char := (s.dropWhile (· != ':')).drop 1

/-- How a part that is written behind a mark is spelled. -/
def spelled (keep : Char → Bool) (part : Option (List Char)) : Option String :=
  part.map fun s => String.ofList (Percent.encode keep (relevant s))

/-- What a text with this scheme is read as. -/
def ofScheme? (scheme : String) (rest : List Char) (query fragment : Option String) : Option Url :=
  let s := relevant rest
  if isFile scheme then ofFile? rest query fragment
  else if isKnown scheme then ofAuthority? scheme (s.dropWhile (isSlash true)) query fragment
  else if s.take 2 = ['/', '/'] then ofAuthority? scheme (s.drop 2) query fragment
  else if s.head? = some '/' then
    some ⟨scheme, "", none, none, none, pathText false s, query, fragment⟩
  else
    let path := String.ofList (Percent.encode Percent.isPrintable s)
    some ⟨scheme, "", none, none, none, path, query, fragment⟩

theorem parse?_eq (text : String) :
    parse? text = (scheme? (relevant (stem text))).bind fun scheme =>
      ofScheme? scheme (behindScheme (stem text))
        (spelled (Percent.inQuery (isKnown scheme)) (cut '?' (cut '#' (trimmed text.toList)).1).2)
        (spelled Percent.inFragment (cut '#' (trimmed text.toList)).2) :=
  rfl

section Parts

variable {scheme : String} {s rest : List Char} {query fragment : Option String} {u : Url}

/-- The user of a URL depends on how it is written and on nothing else. -/
theorem ofAuthority?_eq_some (h : ofAuthority? scheme s query fragment = some u) :
    u.scheme = scheme ∧ u.query = query ∧ u.fragment = fragment ∧
      u.user = userText (login (isKnown scheme) s) ∧
      u.password = passwordText? (login (isKnown scheme) s) := by
  unfold ofAuthority? at h
  simp only [Option.bind_eq_bind] at h
  split at h
  · cases h
  · split at h
    all_goals
      obtain ⟨host, -, h⟩ := Option.bind_eq_some_iff.mp h
      split at h
      · cases h
      · obtain ⟨⟨port, rest⟩, -, h⟩ := Option.bind_eq_some_iff.mp h
        cases h
        exact ⟨rfl, rfl, rfl, rfl, rfl⟩

theorem ofFile?_eq_some (h : ofFile? s query fragment = some u) :
    u.scheme = "file" ∧ u.query = query ∧ u.fragment = fragment ∧ u.user = "" ∧
      u.password = none := by
  unfold ofFile? at h
  extract_lets slashes isPlace hasPlace s place at h
  split at h
  · cases h
    exact ⟨rfl, rfl, rfl, rfl, rfl⟩
  · obtain ⟨host, -, h⟩ := Option.bind_eq_some_iff.mp h
    cases h
    exact ⟨rfl, rfl, rfl, rfl, rfl⟩

theorem ofScheme?_eq_some (h : ofScheme? scheme rest query fragment = some u) :
    u.scheme = scheme ∧ u.query = query ∧ u.fragment = fragment ∧
      u.user = userText (loginOf scheme (relevant rest)) ∧
      u.password = passwordText? (loginOf scheme (relevant rest)) := by
  unfold ofScheme? at h
  unfold loginOf
  extract_lets s path at h
  by_cases hfile : isFile scheme = true
  · rw [if_pos hfile] at h ⊢
    rw [show scheme = "file" by simpa [isFile] using hfile]
    exact ofFile?_eq_some h
  rw [if_neg hfile] at h ⊢
  by_cases hknown : isKnown scheme = true
  · rw [if_pos hknown] at h ⊢
    have hparts := ofAuthority?_eq_some h
    rwa [hknown] at hparts
  rw [if_neg hknown] at h ⊢
  by_cases hslashes : s.take 2 = ['/', '/']
  · rw [if_pos hslashes] at h ⊢
    have hparts := ofAuthority?_eq_some h
    rwa [Bool.not_eq_true _ |>.mp hknown] at hparts
  · rw [if_neg hslashes] at h ⊢
    split at h
    all_goals
      cases h
      exact ⟨rfl, rfl, rfl, rfl, rfl⟩

end Parts

/-- The scheme ends before the first colon, so what stands behind it ends where the text does. -/
theorem behindScheme_append {s tail : List Char} {scheme : String}
    (h : scheme? (relevant s) = some scheme) :
    behindScheme (s ++ tail) = behindScheme s ++ tail := by
  have hcolon : ':' ∈ s := by
    unfold scheme? at h
    split at h
    · rename_i hstart
      simp only [Bool.and_eq_true, decide_eq_true_eq] at hstart
      have hmem := (List.dropWhile_sublist _).mem (List.mem_of_mem_head? hstart.2)
      exact (List.mem_filter.mp hmem).1
    · cases h
  have hne : s.dropWhile (· != ':') ≠ [] := by
    intro hnil
    simpa using List.dropWhile_eq_nil_iff.mp hnil ':' hcolon
  unfold behindScheme
  rw [List.dropWhile_append, if_neg (by simpa using hne)]
  cases hdrop : s.dropWhile (· != ':') with
  | nil => exact absurd hdrop hne
  | cons c cs => rfl

theorem relevant_append (s tail : List Char) :
    relevant (s ++ tail) = relevant s ++ relevant tail :=
  List.filter_append s tail

/-- A text without query and fragment has no mark of either, and with a plain path behind it, it has
none still. -/
theorem stem_below {base path : String} {b : Url} (hb : parse? base = some b)
    (hnoquery : b.query = none) (hnofragment : b.fragment = none)
    (hpath : isPlainPath path = true) :
    ∃ tail, stem (base ++ path) = stem base ++ tail ∧ '@' ∉ tail ∧
      (cut '?' (cut '#' (trimmed (base ++ path).toList)).1).2 = none ∧
      (cut '#' (trimmed (base ++ path).toList)).2 = none := by
  rw [parse?_eq] at hb
  obtain ⟨scheme, -, hb⟩ := Option.bind_eq_some_iff.mp hb
  obtain ⟨-, hquery, hfragment, -⟩ := ofScheme?_eq_some hb
  obtain ⟨hhash, hcut⟩ : '#' ∉ trimmed base.toList ∧ _ :=
    cut_eq_none (Option.map_eq_none_iff.mp (hfragment.symm.trans hnofragment))
  rw [hcut] at hquery
  obtain ⟨hmark, hcut'⟩ : '?' ∉ trimmed base.toList ∧ _ :=
    cut_eq_none (Option.map_eq_none_iff.mp (hquery.symm.trans hnoquery))
  obtain ⟨tail, htrimmed, hunmarked⟩ := trimmed_below hpath base
  have hhash' : '#' ∉ trimmed (base ++ path).toList := by
    rw [htrimmed, List.mem_append, not_or]
    exact ⟨hhash, fun hc => (hunmarked _ hc).1 rfl⟩
  have hmark' : '?' ∉ trimmed (base ++ path).toList := by
    rw [htrimmed, List.mem_append, not_or]
    exact ⟨hmark, fun hc => (hunmarked _ hc).2.1 rfl⟩
  refine ⟨tail, ?_, fun hc => (hunmarked _ hc).2.2 rfl, ?_, ?_⟩
  · rw [stem, stem, hcut, hcut', cut_of_not_mem hhash', cut_of_not_mem hmark', htrimmed]
  · rw [cut_of_not_mem hhash', cut_of_not_mem hmark']
  · rw [cut_of_not_mem hhash']

/-- Below a base without query and fragment there is no query. -/
theorem query_below {base path : String} {b u : Url} (hb : parse? base = some b)
    (hnoquery : b.query = none) (hnofragment : b.fragment = none)
    (hpath : isPlainPath path = true) (hu : parse? (base ++ path) = some u) : u.query = none := by
  obtain ⟨tail, -, -, hquery, -⟩ := stem_below hb hnoquery hnofragment hpath
  rw [parse?_eq] at hu
  obtain ⟨scheme, -, hu⟩ := Option.bind_eq_some_iff.mp hu
  obtain ⟨-, hquery', -⟩ := ofScheme?_eq_some hu
  rw [hquery', hquery]
  rfl

/-- **Below a base without query, fragment and user there are none of them.** -/
theorem bare_below {base path : String} {b u : Url} (hb : parse? base = some b) (hbare : b.Bare)
    (hpath : isPlainPath path = true) (hu : parse? (base ++ path) = some u) : u.Bare := by
  have hnoquery := query_below hb hbare.query hbare.fragment hpath hu
  obtain ⟨tail, hstem, hat, -, hfragment⟩ := stem_below hb hbare.query hbare.fragment hpath
  rw [parse?_eq] at hb hu
  obtain ⟨scheme, hscheme, hb⟩ := Option.bind_eq_some_iff.mp hb
  obtain ⟨scheme', hscheme', hu⟩ := Option.bind_eq_some_iff.mp hu
  -- the two texts have one scheme, and behind it one user
  obtain rfl : scheme = scheme' := by
    rw [hstem, relevant_append, scheme?_append hscheme] at hscheme'
    exact Option.some.inj hscheme'
  obtain ⟨-, -, -, huser, hpassword⟩ := ofScheme?_eq_some hb
  obtain ⟨-, -, hfragment', huser', hpassword'⟩ := ofScheme?_eq_some hu
  have hlogin : loginOf scheme (relevant (behindScheme (stem (base ++ path)))) =
      loginOf scheme (relevant (behindScheme (stem base))) := by
    rw [hstem, behindScheme_append hscheme, relevant_append]
    exact loginOf_append (fun hc => hat (List.mem_filter.mp hc).1) scheme _
  refine ⟨hnoquery, ?_, ?_, ?_⟩
  · rw [hfragment', hfragment]
    rfl
  · rw [huser', hlogin, ← huser, hbare.user]
  · rw [hpassword', hlogin, ← hpassword, hbare.password]

end Url
end RemoteDrive
