import RemoteDrive.Proofs.Upload.Chunking

/-!
# What the host is told of a reading

A host that watches a reading hears of it after each read, and never otherwise. `Accounted` says so
of what passes, occurrence by occurrence: a read that brings bytes, at once the report on it, and
beside these only what nobody reports on. It is an invariant of the reading (`accounted_readOn`),
and what the reports are worth is read off it: how many there are, how they grow, and that they
account for each byte that has come, also where the stream breaks in the end (`ofStream_accounts`).
-/

set_option autoImplicit false

namespace RemoteDrive

namespace Occurrence

/-- The bytes that have come with it. -/
def bytes : Occurrence → List UInt8
  | .read r => r.data
  | _ => []

def read? : Occurrence → Option Read
  | .read r => some r
  | _ => none

def report? : Occurrence → Option Progress
  | .reported p => some p
  | _ => none

end Occurrence

/-! ## What is counted -/

/-- The reads that were made in the course of this. -/
def readsIn (os : List Occurrence) : List Read := os.filterMap Occurrence.read?

/-- What the host was told in the course of this. -/
def reportsIn (os : List Occurrence) : List Progress := os.filterMap Occurrence.report?

/-- How many bytes have come in the course of this. -/
def bytesIn (os : List Occurrence) : Nat := (os.flatMap Occurrence.bytes).length

/-- How many bytes the host knows of who knew of `n` before it was told this. -/
def lastDone (n : Nat) (ps : List Progress) : Nat := (ps.getLast?.map Progress.done).getD n

section Counted

variable {o : Occurrence} {os : List Occurrence}

theorem reportsIn_of_none (h : o.report? = none) : reportsIn (o :: os) = reportsIn os :=
  List.filterMap_cons_none h

@[simp] theorem reportsIn_read (r : Read) : reportsIn (.read r :: os) = reportsIn os := rfl

@[simp] theorem reportsIn_reported (p : Progress) :
    reportsIn (.reported p :: os) = p :: reportsIn os := rfl

@[simp] theorem readsIn_read (r : Read) : readsIn (.read r :: os) = r :: readsIn os := rfl

@[simp] theorem readsIn_reported (p : Progress) : readsIn (.reported p :: os) = readsIn os := rfl

theorem bytesIn_cons : bytesIn (o :: os) = o.bytes.length + bytesIn os := by
  rw [bytesIn, bytesIn, List.flatMap_cons, List.length_append]

theorem bytesIn_piece (data : List UInt8) (p : Progress) (os : List Occurrence) :
    bytesIn (.read (.bytes data) :: .reported p :: os) = data.length + bytesIn os := by
  rw [bytesIn_cons, bytesIn_cons]
  exact congrArg (data.length + ·) (Nat.zero_add _)

theorem lastDone_cons (n : Nat) (p : Progress) (ps : List Progress) :
    lastDone n (p :: ps) = lastDone p.done ps := by
  rw [lastDone, lastDone, List.getLast?_cons]
  cases ps.getLast? <;> rfl

/-- The bytes that have come are those of the reads. -/
theorem bytesIn_eq (os : List Occurrence) :
    bytesIn os = ((readsIn os).flatMap Read.data).length := by
  induction os with
  | nil => rfl
  | cons o os ih =>
    rw [bytesIn_cons, ih]
    cases o with
    | read r => rw [readsIn_read, List.flatMap_cons, List.length_append, Occurrence.bytes]
    | logged | sent | reported => exact Nat.zero_add _

end Counted

/-! ## The course of a reading -/

/-- What passes in a reading of which `n` bytes have come before: the host is told of each read that
brings bytes as soon as it has been made, and of nothing else. -/
inductive Accounted (declared : Nat) : Nat → List Occurrence → Prop
  | nothing (n : Nat) : Accounted declared n []
  | piece {n : Nat} {data : List UInt8} {os : List Occurrence} (hdata : data ≠ [])
    (hrest : Accounted declared (n + data.length) os) :
    Accounted declared n (.read (.bytes data) ::
      .reported ⟨n + data.length, max declared (n + data.length)⟩ :: os)
  | aside {n : Nat} {o : Occurrence} {os : List Occurrence} (hbytes : o.bytes = [])
    (hreport : o.report? = none) (hrest : Accounted declared n os) : Accounted declared n (o :: os)

namespace Accounted

variable {declared n : Nat} {os : List Occurrence}

/-- The log is no part of it. -/
theorem logged (h : Accounted declared n os) (es : List Event) :
    Accounted declared n (os ++ es.map .logged) := by
  induction h with
  | nothing n =>
    induction es with
    | nil => exact .nothing n
    | cons e es ih => exact .aside rfl rfl ih
  | piece hdata _ ih => exact .piece hdata ih
  | aside hbytes hreport _ ih => exact .aside hbytes hreport ih

/-- A report follows on each read that brings bytes, -/
theorem report_of_piece (h : Accounted declared n os) {before after : List Occurrence}
    {data : List UInt8} (hos : os = before ++ .read (.bytes data) :: after) (hdata : data ≠ []) :
    ∃ p rest, after = .reported p :: rest := by
  induction h generalizing before with
  | nothing => cases before <;> cases hos
  | piece _ _ ih =>
    cases before with
    | nil =>
      cases hos
      exact ⟨_, _, rfl⟩
    | cons o before =>
      cases before with
      | nil => cases hos
      | cons o' before => exact ih (List.cons.inj (List.cons.inj hos).2).2
  | aside hbytes _ _ ih =>
    cases before with
    | nil =>
      cases hos
      exact absurd hbytes hdata
    | cons o before => exact ih (List.cons.inj hos).2

/-- and it says how many bytes there have been. -/
theorem piece_of_report (h : Accounted declared n os) {before after : List Occurrence}
    {p : Progress} (hos : os = before ++ .reported p :: after) :
    (∃ earlier data, before = earlier ++ [.read (.bytes data)] ∧ data ≠ []) ∧
      p.done = n + bytesIn before ∧ p.total = max declared p.done := by
  induction h generalizing before with
  | nothing => cases before <;> cases hos
  | @piece n data os hdata _ ih =>
    -- a piece is two occurrences, and the report is the second
    cases before with
    | nil => cases hos
    | cons o before =>
      cases before with
      | nil =>
        cases hos
        exact ⟨⟨[], data, rfl, hdata⟩, by simp [bytesIn, Occurrence.bytes, Read.data], rfl⟩
      | cons o' before =>
        obtain ⟨hfirst, htail⟩ := List.cons.inj hos
        obtain ⟨hsecond, hrest⟩ := List.cons.inj htail
        subst hfirst hsecond
        obtain ⟨⟨earlier, data', hbefore, hdata'⟩, hdone, htotal⟩ := ih hrest
        refine ⟨⟨_ :: _ :: earlier, data', by rw [hbefore]; rfl, hdata'⟩, ?_, htotal⟩
        rw [hdone, bytesIn_piece, Nat.add_assoc]
  | aside hbytes hreport _ ih =>
    cases before with
    | nil =>
      cases hos
      cases hreport
    | cons o before =>
      obtain ⟨hfirst, htail⟩ := List.cons.inj hos
      subst hfirst
      obtain ⟨⟨earlier, data, hbefore, hdata⟩, hdone, htotal⟩ := ih htail
      refine ⟨⟨_ :: earlier, data, by rw [hbefore]; rfl, hdata⟩, ?_, htotal⟩
      rw [hdone, bytesIn_cons, hbytes, List.length_nil, Nat.zero_add]

/-- There are as many reports as reads that bring bytes, -/
theorem length_reports (h : Accounted declared n os) :
    (reportsIn os).length = ((readsIn os).filter Read.isPiece).length := by
  induction h with
  | nothing => rfl
  | piece hdata _ ih =>
    rw [reportsIn_read, reportsIn_reported, readsIn_read, readsIn_reported,
      List.filter_cons_of_pos (Read.isPiece_bytes.mpr hdata), List.length_cons, List.length_cons,
      ih]
  | @aside n o os hbytes hreport _ ih =>
    rw [reportsIn_of_none hreport, ih]
    cases o with
    | read r =>
      have hr : r.isPiece = false := by
        cases r with
        | failure text => rfl
        | bytes data => simpa [Read.isPiece, Occurrence.bytes, Read.data] using hbytes
      rw [readsIn_read, List.filter_cons_of_neg (by simp [hr])]
    | logged | sent | reported => rfl

theorem total_eq (h : Accounted declared n os) :
    ∀ p ∈ reportsIn os, p.total = max declared p.done := by
  induction h with
  | nothing => exact List.forall_mem_nil _
  | piece _ _ ih => exact List.forall_mem_cons.mpr ⟨rfl, ih⟩
  | aside _ hreport _ ih => rwa [reportsIn_of_none hreport]

/-- each of them is on more bytes than the host knew of before, -/
theorem lt_done (h : Accounted declared n os) : ∀ p ∈ reportsIn os, n < p.done := by
  induction h with
  | nothing => exact List.forall_mem_nil _
  | @piece n data os hdata _ ih =>
    have hmore : n < n + data.length := Nat.lt_add_of_pos_right (List.length_pos_iff.mpr hdata)
    exact List.forall_mem_cons.mpr ⟨hmore, fun p hp => Nat.lt_trans hmore (ih p hp)⟩
  | aside _ hreport _ ih => rwa [reportsIn_of_none hreport]

theorem pairwise_done (h : Accounted declared n os) :
    (reportsIn os).Pairwise fun p q => p.done < q.done := by
  induction h with
  | nothing => exact .nil
  | piece _ hrest ih => exact List.pairwise_cons.mpr ⟨hrest.lt_done, ih⟩
  | aside _ hreport _ ih => rwa [reportsIn_of_none hreport]

/-- and the last of them is on all bytes. -/
theorem lastDone_eq (h : Accounted declared n os) : lastDone n (reportsIn os) = n + bytesIn os := by
  induction h with
  | nothing => rfl
  | @piece n data os _ _ ih =>
    rw [reportsIn_read, reportsIn_reported, lastDone_cons, ih, bytesIn_piece, Nat.add_assoc]
  | aside hbytes hreport _ ih =>
    rw [reportsIn_of_none hreport, ih, bytesIn_cons, hbytes, List.length_nil, Nat.zero_add]

theorem done_le (h : Accounted declared n os) : ∀ p ∈ reportsIn os, p.done ≤ n + bytesIn os := by
  induction h with
  | nothing => exact List.forall_mem_nil _
  | piece _ _ ih =>
    rw [bytesIn_piece, ← Nat.add_assoc]
    exact List.forall_mem_cons.mpr ⟨Nat.le_add_right _ _, ih⟩
  | aside hbytes hreport _ ih =>
    rwa [reportsIn_of_none hreport, bytesIn_cons, hbytes, List.length_nil, Nat.zero_add]

/-- The reports of a reading grow with what has been read. -/
theorem pairwise_reports (h : Accounted declared n os) :
    (reportsIn os).Pairwise fun p q => p.done < q.done ∧ p.total ≤ q.total := by
  refine h.pairwise_done.imp_of_mem fun {p q} hp hq hlt => ⟨hlt, ?_⟩
  rw [h.total_eq p hp, h.total_eq q hq]
  omega

end Accounted

/-! ## A host that watches -/

/-- A stream that breaks is read up to there. -/
theorem FileStream.made_of_failure {stream : FileStream} {before after : List Read} {text : String}
    (hreads : stream.reads = before ++ .failure text :: after)
    (hbefore : ∀ r ∈ before, r.isPiece = true) :
    stream.broken? = some text ∧ stream.made = before ++ [.failure text] := by
  unfold broken? made
  rw [hreads, List.dropWhile_append_of_pos hbefore, List.takeWhile_append_of_pos hbefore]
  exact ⟨rfl, by simp [Read.isPiece]⟩

namespace Spool

open Read (Deliver)

/-- The reading tells the host as it goes, from what has been read on. -/
theorem accounted_readOn (declared : UInt64) (reads : List Read) (s : Spool) (now : Instant)
    (l : Live) :
    ∃ result l' os, (readOn declared true reads s).exec now l = (result, l') ∧
      l'.history = l.history ++ os ∧ Accounted declared.toNat s.size os := by
  induction reads generalizing s l with
  | nil => exact ⟨_, l, [], rfl, (List.append_nil _).symm, .nothing _⟩
  | cons r rest ih =>
    cases r with
    | failure text => exact ⟨_, _, [.read (.failure text)], rfl, rfl, .aside rfl rfl (.nothing _)⟩
    | bytes data =>
      by_cases hdata : data = []
      · subst hdata
        exact ⟨_, _, [.read (.bytes [])], rfl, rfl, .aside rfl rfl (.nothing _)⟩
      · -- the rest is read with the piece kept and the host told of it
        obtain ⟨result, l', os, hexec, hhistory, haccounted⟩ := ih (s.append data)
          ((l.add (.read (.bytes data))).add (.reported ((s.append data).progress declared)))
        refine ⟨result, l', _, ?_, ?_, .piece hdata haccounted⟩
        · have hgoes : data.isEmpty = false := by simpa using hdata
          rw [readOn, Act.exec_bind_ok (Act.exec_record _)]
          simp only [hgoes, Bool.false_eq_true, if_false, if_true]
          rw [Act.exec_bind_ok (Act.exec_record _), hexec]
        · rw [hhistory, Live.history_add, Live.history_add, List.append_assoc, List.append_assoc]
          rfl

theorem accounted_ofStream (stream : FileStream) (now : Instant) (l : Live) :
    ∃ result l' os, (ofStream stream true).exec now l = (result, l') ∧
      l'.history = l.history ++ os ∧ Accounted stream.size.toNat 0 os := by
  obtain ⟨result, l₁, os, hread, hhistory, haccounted⟩ :=
    accounted_readOn stream.size stream.reads .empty now l
  cases result with
  | error why => exact ⟨.error why, l₁, os, Act.exec_bind_error hread, hhistory, haccounted⟩
  | ok s =>
    obtain ⟨l₂, hlog, hlogged⟩ := history_logAll (sizeReport stream s) now l₁
    refine ⟨.ok s, l₂, _, ?_, by rw [hlogged, hhistory, List.append_assoc], haccounted.logged _⟩
    rw [ofStream, Act.exec_bind_ok hread, Act.exec_bind_ok hlog]
    rfl

/-- **The host is told of each read that brings bytes, and what it is told is true.** The reports
say how many bytes there have been up to then, and of how many: of those that were declared, or of
those that have come if these are more. They grow, and in the end the host knows of all bytes that
have come, whether the stream has been read to its end or has broken. -/
theorem ofStream_accounts (stream : FileStream) (now : Instant) (l : Live) :
    ∃ result l' os, (ofStream stream true).exec now l = (result, l') ∧
      l'.history = l.history ++ os ∧ l'.reports = l.reports ++ reportsIn os ∧
      readsIn os = stream.made ∧
      (∀ before data after, os = before ++ .read (.bytes data) :: after → data ≠ [] →
        ∃ p rest, after = .reported p :: rest) ∧
      (∀ before p after, os = before ++ .reported p :: after →
        (∃ earlier data, before = earlier ++ [.read (.bytes data)] ∧ data ≠ []) ∧
          p.done = bytesIn before ∧ p.total = max stream.size.toNat p.done ∧ p.done ≤ p.total) ∧
      (reportsIn os).length = ((readsIn os).filter Read.isPiece).length ∧
      ((reportsIn os).Pairwise fun p q => p.done < q.done ∧ p.total ≤ q.total) ∧
      (stream.content.length ≤ stream.size.toNat →
        ∀ p ∈ reportsIn os, p.total = stream.size.toNat) ∧
      (∀ bytes, Deliver stream.reads bytes → ∃ s, result = .ok s ∧ s.size = bytes.length ∧
        lastDone 0 (reportsIn os) = s.size ∧ (bytes = [] → reportsIn os = [])) ∧
      ∀ before text after, stream.reads = before ++ .failure text :: after →
        (∀ r ∈ before, r.isPiece = true) →
        result = .error (.failed (.stated .io text)) ∧ (reportsIn os).length = before.length ∧
          lastDone 0 (reportsIn os) = (before.flatMap Read.data).length := by
  obtain ⟨result, l', os, hexec, hhistory, haccounted⟩ := accounted_ofStream stream now l
  obtain ⟨l'', hexec', hreads⟩ := exec_ofStream stream true now l
  obtain ⟨hresult, rfl⟩ := Prod.mk.inj (hexec.symm.trans hexec')
  have hmade : readsIn os = stream.made := by
    rw [Live.reads, hhistory, List.filterMap_append] at hreads
    exact List.append_cancel_left hreads
  have hbytes : bytesIn os = stream.content.length := by
    rw [bytesIn_eq, hmade, FileStream.content]
  have hlast := haccounted.lastDone_eq
  rw [Nat.zero_add] at hlast
  -- what is told is read off the invariant, and how the reading ends off `exec_ofStream`
  refine ⟨result, l', os, hexec, hhistory, ?_, hmade, ?_, ?_, haccounted.length_reports,
    haccounted.pairwise_reports, ?_, ?_, ?_⟩
  · rw [Live.reports, hhistory, List.filterMap_append]
    rfl
  · intro before data after hos hdata
    exact haccounted.report_of_piece hos hdata
  · intro before p after hos
    obtain ⟨hpiece, hdone, htotal⟩ := haccounted.piece_of_report hos
    exact ⟨hpiece, by rw [hdone, Nat.zero_add], htotal, by omega⟩
  · intro hdeclared p hp
    have hdone := haccounted.done_le p hp
    have htotal := haccounted.total_eq p hp
    omega
  · intro bytes hdeliver
    obtain ⟨hwhole, hcontent⟩ := hdeliver.to_pieces
    rw [← FileStream.content_eq] at hcontent
    refine ⟨stream.spooled, ?_, ?_, ?_, fun hnone => List.eq_nil_iff_forall_not_mem.mpr ?_⟩
    · rw [hresult, show stream.broken? = none from hwhole]
      rfl
    · rw [stream.holds_spooled.size, hcontent]
    · rw [hlast, hbytes, stream.holds_spooled.size]
    · intro p hp
      have hpos := haccounted.lt_done p hp
      have hdone := haccounted.done_le p hp
      rw [hbytes, hcontent, hnone, List.length_nil] at hdone
      omega
  · intro before text after hstream hbefore
    obtain ⟨hbroken, hall⟩ := FileStream.made_of_failure hstream hbefore
    refine ⟨by rw [hresult, hbroken]; rfl, ?_, ?_⟩
    · rw [haccounted.length_reports, hmade, hall, List.filter_append,
        List.filter_eq_self.mpr hbefore]
      simp [Read.isPiece]
    · rw [hlast, hbytes, FileStream.content, hall, List.flatMap_append]
      simp [Read.data]

/-- Two bytes and two more of a stream that was said to have three, and then it breaks. -/
theorem ofStream_accounts_broken : ∃ result l' os,
    (ofStream ⟨"a.txt", 3, [.bytes [1, 2], .bytes [3, 4], .failure "gone"]⟩ true).exec .epoch
        (.start none true) = (result, l') ∧
      reportsIn os = [⟨2, 3⟩, ⟨4, 4⟩] ∧ result = .error (.failed (.stated .io "gone")) ∧
      lastDone 0 (reportsIn os) = 4 ∧ ∀ before p after, os = before ++ .reported p :: after →
        p.done = bytesIn before ∧ p.total = max 3 p.done := by
  have hreads : FileStream.reads
      ⟨"a.txt", 3, [.bytes [1, 2], .bytes [3, 4], .failure "gone"]⟩ =
        [.bytes [1, 2], .bytes [3, 4]] ++ .failure "gone" :: [] := by
    decide +kernel
  obtain ⟨result, l', os, hexec, -, hreports, -, -, hexact, -, -, -, -, hbroken⟩ :=
    ofStream_accounts ⟨"a.txt", 3, [.bytes [1, 2], .bytes [3, 4], .failure "gone"]⟩ .epoch
      (.start none true)
  obtain ⟨hresult, -, hlast⟩ := hbroken _ _ _ hreads (by decide)
  have htwo : ((ofStream ⟨"a.txt", 3, [.bytes [1, 2], .bytes [3, 4], .failure "gone"]⟩ true).exec
      .epoch (.start none true)).2.reports = [⟨2, 3⟩, ⟨4, 4⟩] := by
    decide +kernel
  rw [hexec] at htwo
  refine ⟨result, l', os, hexec, hreports.symm.trans htwo, hresult, hlast, ?_⟩
  intro before p after hos
  obtain ⟨-, hdone, htotal, -⟩ := hexact before p after hos
  exact ⟨hdone, htotal⟩

end Spool

end RemoteDrive
