import RemoteDrive.Text.Quoted
import RemoteDrive.Text.Decimal

/-!
# Streams

The content of a file that is uploaded comes from a stream, read by read. What the host says its
size is need not be true, and a size of zero says nothing. A stream is described by the chunks in
which it delivers: a read gives what is left of one chunk, but never more than the reader's buffer
holds, and a chunk without bytes is the end, like the end of the chunks. So `FileStream.reads` is
all that a reader can see of a stream.
-/

set_option autoImplicit false

namespace RemoteDrive

/-- What a read of a stream comes to. A read of no bytes is the end of the stream. -/
inductive Read where
  | bytes (data : List UInt8)
  | failure (text : String)
deriving DecidableEq

/-- A file's name, what is said of its size, and its content in the chunks in which it comes. -/
structure FileStream where
  name : String
  /-- The declared size; zero if none is declared. -/
  size : UInt64
  chunks : List Read
deriving DecidableEq

/-- How many bytes a read gives at the most. -/
def bufferSize : Nat := 64 * 1024

/-- `data` in pieces of `n` bytes, the last of which may be shorter; no bytes are one piece. -/
def cutPieces (n : Nat) (data : List UInt8) : List (List UInt8) :=
  if data.length ≤ n ∨ n = 0 then [data]
  else data.take n :: cutPieces n (data.drop n)
termination_by data.length
decreasing_by simp only [List.length_drop]; omega

namespace FileStream

/-- The stream of bytes that are there already. -/
def ofBytes (name : String) (data : List UInt8) : FileStream :=
  ⟨name, UInt64.ofNat data.length, [.bytes data]⟩

/-- The reads that one chunk gives. -/
def readsOf : Read → List Read
  | .bytes data => (cutPieces bufferSize data).map .bytes
  | .failure text => [.failure text]

/-- The reads that the stream gives. -/
def reads (s : FileStream) : List Read := s.chunks.flatMap readsOf

/-- The stream as it is shown to a person. -/
def display (s : FileStream) : String :=
  "FileStream \x7b name: " ++ Text.quoted s.name ++ ", size: " ++ Decimal.nat s.size.toNat ++
    ", .. \x7d"

end FileStream

/-- A report on a stream: how many bytes have been read, of how many. Below 2⁶⁴ these are the same
numbers as in words of 64 bits. -/
structure Progress where
  done : Nat
  total : Nat
deriving DecidableEq

end RemoteDrive
