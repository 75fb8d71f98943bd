import RemoteDrive.Proofs.Upload.Spool

/-!
# Streams in other chunks

A stream delivers its bytes in whatever chunks it likes, and a reader takes them in reads of his own
size. What is spooled in the end depends on neither: it is a matter of the bytes that the reads
bring, put together (`ofStream_of_any_chunks`).

`Deliver` and `Break` go through a list of reads one by one and say what it comes to. They do not
mention the reader, who has to find the end of the same list with his eyes on one read at a time.
What stands behind the end is out of reach for both of them.
-/

set_option autoImplicit false

namespace RemoteDrive

/-! ## Lists of reads -/

namespace Read

/-- The reads bring these bytes, and then there are no more, or one brings nothing. -/
inductive Deliver : List Read → List UInt8 → Prop
  | exhausted : Deliver [] []
  | ended (after : List Read) : Deliver (.bytes [] :: after) []
  | more {data bytes : List UInt8} {rest : List Read} (hdata : data ≠ []) (h : Deliver rest bytes) :
    Deliver (.bytes data :: rest) (data ++ bytes)

/-- A read fails with these words before the reads come to an end. -/
inductive Break (text : String) : List Read → Prop
  | here (after : List Read) : Break text (.failure text :: after)
  | later {data : List UInt8} {rest : List Read} (hdata : data ≠ []) (h : Break text rest) :
    Break text (.bytes data :: rest)

variable {reads : List Read} {bytes : List UInt8} {text : String}

theorem isPiece_bytes {data : List UInt8} : isPiece (.bytes data) = true ↔ data ≠ [] := by
  simp [isPiece]

theorem Deliver.to_pieces (h : Deliver reads bytes) :
    failure? (reads.dropWhile isPiece) = none ∧ (reads.takeWhile isPiece).flatMap data = bytes := by
  induction h with
  | exhausted => exact ⟨rfl, rfl⟩
  | ended after => exact ⟨rfl, rfl⟩
  | more hdata _ ih =>
    have hpiece := isPiece_bytes.mpr hdata
    rw [List.dropWhile_cons_of_pos hpiece, List.takeWhile_cons_of_pos hpiece, List.flatMap_cons,
      ih.2]
    exact ⟨ih.1, rfl⟩

theorem Break.to_pieces (h : Break text reads) :
    failure? (reads.dropWhile isPiece) = some text := by
  induction h with
  | here after => rfl
  | later hdata _ ih => rwa [List.dropWhile_cons_of_pos (isPiece_bytes.mpr hdata)]

/-- A list of reads comes to one of the two. -/
theorem deliver_or_break (reads : List Read) :
    (∃ bytes, Deliver reads bytes) ∨ ∃ text, Break text reads := by
  induction reads with
  | nil => exact .inl ⟨[], .exhausted⟩
  | cons r rest ih =>
    cases r with
    | failure text => exact .inr ⟨text, .here rest⟩
    | bytes data =>
      by_cases hdata : data = []
      · subst hdata
        exact .inl ⟨[], .ended rest⟩
      · rcases ih with ⟨bytes, h⟩ | ⟨text, h⟩
        · exact .inl ⟨data ++ bytes, .more hdata h⟩
        · exact .inr ⟨text, .later hdata h⟩

theorem Deliver.behind {pieces : List (List UInt8)} (hpieces : ∀ p ∈ pieces, p ≠ [])
    (h : Deliver reads bytes) : Deliver (pieces.map .bytes ++ reads) (pieces.flatten ++ bytes) := by
  induction pieces with
  | nil => exact h
  | cons p pieces ih =>
    have hrest := ih fun q hq => hpieces q (List.mem_cons_of_mem p hq)
    rw [List.flatten_cons, List.append_assoc]
    exact .more (hpieces p List.mem_cons_self) hrest

end Read

open Read (Deliver Break)

/-! ## From chunks to reads -/

section Cut

variable {n : Nat} {bytes piece : List UInt8}

theorem flatten_cutPieces (n : Nat) (bytes : List UInt8) : (cutPieces n bytes).flatten = bytes := by
  fun_induction cutPieces n bytes with
  | case1 => simp
  | case2 bytes _ ih => rw [List.flatten_cons, ih, List.take_append_drop]

theorem length_le_of_mem_cutPieces (hn : n ≠ 0) (h : piece ∈ cutPieces n bytes) :
    piece.length ≤ n := by
  fun_induction cutPieces n bytes with
  | case1 bytes hshort =>
    rw [List.mem_singleton.mp h]
    exact hshort.resolve_right hn
  | case2 bytes _ ih =>
    rcases List.mem_cons.mp h with rfl | h
    · exact List.length_take_le n bytes
    · exact ih h

theorem ne_nil_of_mem_cutPieces (hbytes : bytes ≠ []) (h : piece ∈ cutPieces n bytes) :
    piece ≠ [] := by
  fun_induction cutPieces n bytes with
  | case1 bytes _ => rwa [List.mem_singleton.mp h]
  | case2 bytes hlong ih =>
    rw [not_or] at hlong
    rcases List.mem_cons.mp h with rfl | h
    · simp [List.take_eq_nil_iff, hbytes, hlong.2]
    · refine ih ?_ h
      rw [Ne, List.drop_eq_nil_iff]
      exact hlong.1

end Cut

namespace FileStream

variable {stream : FileStream}

/-- A stream of chunks that each have bytes in them delivers all of them. -/
theorem deliver_of_chunks {chunks : List (List UInt8)} (hchunks : stream.chunks = chunks.map .bytes)
    (hne : ∀ c ∈ chunks, c ≠ []) : Deliver stream.reads chunks.flatten := by
  rw [reads, hchunks]
  clear hchunks
  induction chunks with
  | nil => exact .exhausted
  | cons c chunks ih =>
    have hrest := ih fun q hq => hne q (List.mem_cons_of_mem c hq)
    have hpieces : ∀ p ∈ cutPieces bufferSize c, p ≠ [] := fun p hp =>
      ne_nil_of_mem_cutPieces (hne c List.mem_cons_self) hp
    have hall := hrest.behind hpieces
    rwa [flatten_cutPieces] at hall

/-- A list of reads is that of a stream exactly if no read is larger than the buffer. -/
theorem exists_reads_iff {reads : List Read} :
    (∃ stream : FileStream, stream.reads = reads) ↔ ∀ r ∈ reads, r.data.length ≤ bufferSize := by
  constructor
  · rintro ⟨stream, rfl⟩ r hr
    obtain ⟨chunk, -, hr⟩ := List.mem_flatMap.mp hr
    cases chunk with
    | failure text =>
      rw [List.mem_singleton.mp hr]
      exact Nat.zero_le _
    | bytes data =>
      obtain ⟨piece, hpiece, rfl⟩ := List.mem_map.mp hr
      exact length_le_of_mem_cutPieces (by decide) hpiece
  · intro hsmall
    refine ⟨⟨"", 0, reads⟩, ?_⟩
    -- each read is a chunk of its own, and is not cut
    have hone : ∀ r ∈ reads, readsOf r = [r] := by
      intro r hr
      cases r with
      | failure text => rfl
      | bytes data => rw [readsOf, cutPieces, if_pos (.inl (hsmall _ hr)), List.map_singleton]
    show reads.flatMap readsOf = reads
    rw [List.flatMap_def, List.map_congr_left hone, ← List.flatMap_def, List.flatMap_singleton']

end FileStream

/-! ## What is spooled -/

namespace Spool

/-- Behind the end of a stream nothing is read. -/
theorem readOn_ended (declared : UInt64) (watched : Bool) (before after : List Read) (s : Spool) :
    readOn declared watched (before ++ .bytes [] :: after) s =
      readOn declared watched (before ++ [.bytes []]) s := by
  induction before generalizing s with
  | nil => rfl
  | cons r before ih =>
    cases r with
    | failure text => rfl
    | bytes data => simp only [List.cons_append, readOn, ih]

theorem exec_ofStream_of_deliver {stream : FileStream} {bytes : List UInt8}
    (h : Deliver stream.reads bytes) (watched : Bool) (now : Instant) (l : Live) :
    ∃ s l', (ofStream stream watched).exec now l = (.ok s, l') ∧ s.Holds bytes := by
  obtain ⟨hwhole, rfl⟩ := h.to_pieces
  obtain ⟨l', hexec, -⟩ := exec_ofStream stream watched now l
  rw [show stream.broken? = none from hwhole] at hexec
  refine ⟨stream.spooled, l', hexec, ?_⟩
  rw [← FileStream.content_eq]
  exact stream.holds_spooled

theorem exec_ofStream_of_break {stream : FileStream} {text : String}
    (h : Break text stream.reads) (watched : Bool) (now : Instant) (l : Live) :
    ∃ l', (ofStream stream watched).exec now l = (.error (.failed (.stated .io text)), l') := by
  obtain ⟨l', hexec, -⟩ := exec_ofStream stream watched now l
  rw [show stream.broken? = some text from h.to_pieces] at hexec
  exact ⟨l', hexec⟩

/-- **What is spooled is what the reads bring, in whatever chunks they bring it.** Its digest is that
of all bytes at once. A stream that breaks gives its words and no spool, and what stands behind the
end of a stream makes no difference. -/
theorem ofStream_of_any_chunks (stream : FileStream) (watched : Bool) (now : Instant) (l : Live) :
    (∀ r ∈ stream.reads, r.data.length ≤ bufferSize) ∧
    ((∃ bytes, Deliver stream.reads bytes) ∨ ∃ text, Break text stream.reads) ∧
    (∀ bytes, Deliver stream.reads bytes →
      ∃ s l', (ofStream stream watched).exec now l = (.ok s, l') ∧ s.content = bytes ∧
        s.size = bytes.length ∧ s.hash = Hex.encode (Md5.digest bytes) ∧
        ∀ (other : FileStream) watched' now' m, Deliver other.reads bytes →
          ∃ s' m', (ofStream other watched').exec now' m = (.ok s', m') ∧
            s'.content = s.content ∧ s'.size = s.size ∧ s'.hash = s.hash) ∧
    (∀ text, Break text stream.reads →
      ∃ why l', (ofStream stream watched).exec now l = (.error (.failed why), l') ∧
        why.kind = .io ∧ why.message = "I/O error: " ++ text) ∧
    ∀ (other : FileStream) before after after', stream.reads = before ++ .bytes [] :: after →
      other.reads = before ++ .bytes [] :: after' → other.name = stream.name →
      other.size = stream.size →
      (ofStream other watched).exec now l = (ofStream stream watched).exec now l := by
  refine ⟨FileStream.exists_reads_iff.mp ⟨stream, rfl⟩, Read.deliver_or_break _, ?_, ?_, ?_⟩
  · intro bytes h
    obtain ⟨s, l', hexec, hs⟩ := exec_ofStream_of_deliver h watched now l
    refine ⟨s, l', hexec, hs.content, hs.size, hs.hash, ?_⟩
    intro other watched' now' m h'
    obtain ⟨s', m', hexec', hs'⟩ := exec_ofStream_of_deliver h' watched' now' m
    refine ⟨s', m', hexec', ?_, ?_, ?_⟩
    · rw [hs'.content, hs.content]
    · rw [hs'.size, hs.size]
    · rw [hs'.hash, hs.hash]
  · intro text h
    obtain ⟨l', hexec⟩ := exec_ofStream_of_break h watched now l
    exact ⟨_, l', hexec, rfl, rfl⟩
  · intro other before after after' hreads hreads' hname hsize
    have hreport : ∀ s, sizeReport other s = sizeReport stream s := by
      intro s
      rw [sizeReport, sizeReport, hname, hsize]
    simp only [ofStream, hreads, hreads', hsize, hreport]
    rw [readOn_ended, ← readOn_ended stream.size watched before after]

/-- Two bytes at once, and the same one by one, with another size declared and a failure behind the
end. -/
theorem ofStream_of_two_chunks : ∃ s s' l' m',
    (ofStream (.ofBytes "a.txt" [0x61, 0x62]) false).exec .epoch (.start none true) = (.ok s, l') ∧
      (ofStream ⟨"b.txt", 7, [.bytes [0x61], .bytes [0x62], .bytes [], .failure "late"]⟩
        true).exec .epoch (.start none true) = (.ok s', m') ∧
      s.content = [0x61, 0x62] ∧ s.hash = Hex.encode (Md5.digest [0x61, 0x62]) ∧
      s'.content = s.content ∧ s'.size = s.size ∧ s'.hash = s.hash := by
  have hchunks : (FileStream.ofBytes "a.txt" [0x61, 0x62]).chunks =
      List.map .bytes [[0x61, 0x62]] := rfl
  have hdeliver : Deliver (FileStream.ofBytes "a.txt" [0x61, 0x62]).reads [0x61, 0x62] :=
    FileStream.deliver_of_chunks hchunks (by decide)
  have hdeliver' : Deliver (FileStream.reads
      ⟨"b.txt", 7, [.bytes [0x61], .bytes [0x62], .bytes [], .failure "late"]⟩) [0x61, 0x62] := by
    have hreads : FileStream.reads
        ⟨"b.txt", 7, [.bytes [0x61], .bytes [0x62], .bytes [], .failure "late"]⟩ =
          [.bytes [0x61], .bytes [0x62], .bytes [], .failure "late"] := by
      decide +kernel
    rw [hreads]
    exact .more (by decide) (.more (by decide) (.ended _))
  obtain ⟨s, l', hexec, hcontent, -, hhash, hsame⟩ :=
    (ofStream_of_any_chunks (.ofBytes "a.txt" [0x61, 0x62]) false .epoch (.start none true)).2.2.1 _
      hdeliver
  obtain ⟨s', m', hexec', hagree⟩ := hsame
    ⟨"b.txt", 7, [.bytes [0x61], .bytes [0x62], .bytes [], .failure "late"]⟩ true .epoch
    (.start none true) hdeliver'
  exact ⟨s, s', l', m', hexec, hexec', hcontent, hhash, hagree⟩

end Spool

end RemoteDrive
