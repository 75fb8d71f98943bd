import RemoteDrive.Upload.Spool
import RemoteDrive.Proofs.Exchange

/-!
# What has been read of a stream

A stream is read until a read brings no bytes, or until one fails. What matters of it afterwards is
the bytes up to there (`FileStream.content`), and whether it has broken (`FileStream.broken?`); in
which pieces the bytes came, and what size was declared, does not matter. Both are said here of the
list of reads alone, and `exec_ofStream` says that the reading comes to just that.

The digest and the size are taken along piece by piece. `Spool.Holds` is the invariant that carries
them: they are those of the bytes so far.
-/

set_option autoImplicit false

namespace RemoteDrive

/-! ## Streams from outside -/

namespace Read

/-- The read has brought bytes, and there is more to read. -/
def isPiece : Read → Bool
  | .bytes data => !data.isEmpty
  | .failure _ => false

def data : Read → List UInt8
  | .bytes data => data
  | .failure _ => []

/-- The words with which reading breaks, if the first of these reads fails. -/
def failure? : List Read → Option String
  | .failure text :: _ => some text
  | _ => none

end Read

namespace FileStream

/-- The reads that are made: those that bring bytes, and the one after them. -/
def made (stream : FileStream) : List Read :=
  stream.reads.takeWhile Read.isPiece ++ (stream.reads.dropWhile Read.isPiece).take 1

/-- All bytes that are read. -/
def content (stream : FileStream) : List UInt8 := stream.made.flatMap Read.data

def broken? (stream : FileStream) : Option String :=
  Read.failure? (stream.reads.dropWhile Read.isPiece)

end FileStream

/-! ## What is kept of the bytes -/

namespace Spool

/-- What has been read is this. -/
structure Holds (s : Spool) (bytes : List UInt8) : Prop where
  content : s.content = bytes
  size : s.size = bytes.length
  hasher : s.hasher = Md5.Hasher.start.update bytes

namespace Holds

variable {s : Spool} {bytes : List UInt8}

theorem empty : Spool.empty.Holds [] := ⟨rfl, rfl, rfl⟩

theorem append (h : s.Holds bytes) (data : List UInt8) : (s.append data).Holds (bytes ++ data) := by
  constructor
  · simp [Spool.content, Spool.append, ← h.content]
  · simp [Spool.append, h.size]
  · simp [Spool.append, h.hasher, Md5.Hasher.update_append]

theorem hash (h : s.Holds bytes) : s.hash = Hex.encode (Md5.digest bytes) := by
  rw [Spool.hash, h.hasher, Md5.Hasher.finish_update]

end Holds

/-- With several reads more. -/
def takeIn (s : Spool) (reads : List Read) : Spool := reads.foldl (fun s r => s.append r.data) s

theorem Holds.takeIn {s : Spool} {bytes : List UInt8} (h : s.Holds bytes) (reads : List Read) :
    (s.takeIn reads).Holds (bytes ++ reads.flatMap Read.data) := by
  induction reads generalizing s bytes with
  | nil => simpa [Spool.takeIn] using h
  | cons r rest ih =>
    have hrest := ih (h.append r.data)
    rwa [List.append_assoc] at hrest

end Spool

/-- What is kept of a stream that has been read. -/
def FileStream.spooled (stream : FileStream) : Spool :=
  Spool.empty.takeIn (stream.reads.takeWhile Read.isPiece)

/-- The read after the pieces brings nothing. -/
theorem FileStream.content_eq (stream : FileStream) :
    stream.content = (stream.reads.takeWhile Read.isPiece).flatMap Read.data := by
  have hlast : ((stream.reads.dropWhile Read.isPiece).take 1).flatMap Read.data = [] := by
    cases hrest : stream.reads.dropWhile Read.isPiece with
    | nil => rfl
    | cons r rest =>
      have hr : r.isPiece = false := by
        have hne : stream.reads.dropWhile Read.isPiece ≠ [] := by simp [hrest]
        simpa [hrest] using List.head_dropWhile_not Read.isPiece hne
      cases r with
      | failure text => rfl
      | bytes data => simpa [Read.isPiece, Read.data] using hr
  rw [content, made, List.flatMap_append, hlast, List.append_nil]

theorem FileStream.holds_spooled (stream : FileStream) : stream.spooled.Holds stream.content := by
  rw [content_eq]
  exact Spool.Holds.empty.takeIn _

/-! ## Reading, as it passes -/

namespace Live

/-- The reads of streams. -/
def reads (l : Live) : List Read :=
  l.history.filterMap fun
    | .read what => some what
    | _ => none

variable (l : Live)

@[simp] theorem reads_logged (e : Event) : (l.add (.logged e)).reads = l.reads := by
  simp [reads]

@[simp] theorem reads_reported (p : Progress) : (l.add (.reported p)).reads = l.reads := by
  simp [reads]

@[simp] theorem reads_read (what : Read) : (l.add (.read what)).reads = l.reads ++ [what] := by
  simp [reads]

@[simp] theorem reads_withTokens (t : Option Tokens) : (l.withTokens t).reads = l.reads := rfl

@[simp] theorem reads_heard (r : Request) : (l.heard r).reads = l.reads := by
  simp [heard, reads, List.filterMap_map]

end Live

namespace Spool

theorem history_logAll (es : List Event) (now : Instant) (l : Live) :
    ∃ l', (Act.logAll es : Act Fault Unit).exec now l = (.ok (), l') ∧
      l'.history = l.history ++ es.map .logged := by
  induction es generalizing l with
  | nil => exact ⟨l, rfl, (List.append_nil _).symm⟩
  | cons e es ih =>
    obtain ⟨l', hexec, hhistory⟩ := ih (l.add (.logged e))
    refine ⟨l', hexec, ?_⟩
    rw [hhistory, Live.history_add, List.append_assoc]
    rfl

theorem reads_logAll (es : List Event) (now : Instant) (l : Live) :
    ∃ l', (Act.logAll es : Act Fault Unit).exec now l = (.ok (), l') ∧ l'.reads = l.reads := by
  obtain ⟨l', hexec, hhistory⟩ := history_logAll es now l
  exact ⟨l', hexec, by simp [Live.reads, hhistory, List.filterMap_map]⟩

/-- The reading goes as far as the reads bring bytes, and makes one read more. -/
theorem exec_readOn (declared : UInt64) (watched : Bool) (reads : List Read) (s : Spool)
    (now : Instant) (l : Live) :
    ∃ l', (readOn declared watched reads s).exec now l =
        ((Read.failure? (reads.dropWhile Read.isPiece)).elim
          (.ok (s.takeIn (reads.takeWhile Read.isPiece)))
          fun text => .error (.failed (.stated .io text)), l') ∧
      l'.reads = l.reads ++
        (reads.takeWhile Read.isPiece ++ (reads.dropWhile Read.isPiece).take 1) := by
  induction reads generalizing s l with
  | nil => exact ⟨l, rfl, by simp⟩
  | cons r rest ih =>
    cases r with
    | failure text => exact ⟨l.add (.read (.failure text)), rfl, by simp [Read.isPiece]⟩
    | bytes data =>
      by_cases hend : data.isEmpty = true
      · refine ⟨l.add (.read (.bytes data)), ?_, by simp [Read.isPiece, hend]⟩
        rw [readOn, Act.exec_bind_ok (Act.exec_record _)]
        simp [hend, Read.isPiece, Read.failure?, takeIn]
      · have hpiece : Read.isPiece (.bytes data) = true := by simpa [Read.isPiece] using hend
        rw [List.takeWhile_cons_of_pos hpiece, List.dropWhile_cons_of_pos hpiece]
        -- a report to the host is no read
        cases watched with
        | false =>
          obtain ⟨l', hexec, hreads⟩ := ih (s.append data) (l.add (.read (.bytes data)))
          refine ⟨l', ?_, by rw [hreads, Live.reads_read]; simp⟩
          rw [readOn, Act.exec_bind_ok (Act.exec_record _)]
          simp only [hend, Bool.false_eq_true, if_false]
          exact hexec
        | true =>
          obtain ⟨l', hexec, hreads⟩ := ih (s.append data)
            ((l.add (.read (.bytes data))).add (.reported ((s.append data).progress declared)))
          refine ⟨l', ?_, by rw [hreads, Live.reads_reported, Live.reads_read]; simp⟩
          rw [readOn, Act.exec_bind_ok (Act.exec_record _)]
          simp only [hend, Bool.false_eq_true, if_false, if_true]
          rw [Act.exec_bind_ok (Act.exec_record _)]
          exact hexec

/-- **What comes of a stream** depends on the bytes up to its end, or on the words with which it
breaks. -/
theorem exec_ofStream (stream : FileStream) (watched : Bool) (now : Instant) (l : Live) :
    ∃ l', (ofStream stream watched).exec now l =
        (stream.broken?.elim (.ok stream.spooled) fun text => .error (.failed (.stated .io text)),
          l') ∧
      l'.reads = l.reads ++ stream.made := by
  obtain ⟨l₁, hread, hreads⟩ := exec_readOn stream.size watched stream.reads .empty now l
  unfold FileStream.broken? FileStream.spooled FileStream.made
  cases hbroken : Read.failure? (stream.reads.dropWhile Read.isPiece) with
  | some text =>
    rw [hbroken] at hread
    exact ⟨l₁, Act.exec_bind_error hread, hreads⟩
  | none =>
    rw [hbroken] at hread
    obtain ⟨l₂, hlog, hsame⟩ := reads_logAll
      (sizeReport stream (empty.takeIn (stream.reads.takeWhile Read.isPiece))) now l₁
    refine ⟨l₂, ?_, hsame.trans hreads⟩
    rw [ofStream, Act.exec_bind_ok hread, Act.exec_bind_ok hlog]
    rfl

end Spool

end RemoteDrive
