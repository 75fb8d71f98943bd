import RemoteDrive.Live
import RemoteDrive.Digest.Md5

/-!
# Spooling

A file is read to its end before anything is said to the service, because the service asks for its
digest and its size first. What has been read is kept as it came, the digest is taken along, and
after each read the host may be told how far the reading has come. It is told a total that is never
less than what has been read: the declared size until more than that has come.
-/

set_option autoImplicit false

namespace RemoteDrive

/-- What has been read of a stream. -/
structure Spool where
  /-- The reads, the latest first. -/
  pieces : List (List UInt8)
  /-- The number of bytes. A count in a word of 64 bits is the same as long as it is below 2⁶⁴. -/
  size : Nat
  hasher : Md5.Hasher

namespace Spool

def empty : Spool := ⟨[], 0, .start⟩

/-- With one more read. -/
def append (s : Spool) (data : List UInt8) : Spool :=
  ⟨data :: s.pieces, s.size + data.length, s.hasher.update data⟩

/-- All bytes in their order. -/
def content (s : Spool) : List UInt8 := s.pieces.reverse.flatten

/-- The digest of the content, as the service writes it. -/
def hash (s : Spool) : String := Hex.encode s.hasher.finish

/-- How far the reading has come. -/
def progress (s : Spool) (declared : UInt64) : Progress := ⟨s.size, max declared.toNat s.size⟩

/-- Reads on to the end; `watched` says that the host wants to be told. -/
def readOn (declared : UInt64) (watched : Bool) : List Read → Spool → Act Fault Spool
  | [], s => return s
  | .failure text :: _, _ => do
    Act.record (.read (.failure text))
    Act.fail (.stated .io text)
  | .bytes data :: rest, s => do
    Act.record (.read (.bytes data))
    if data.isEmpty then return s
    let s := s.append data
    if watched then Act.record (.reported (s.progress declared))
    readOn declared watched rest s

/-- What is reported on a stream whose size was not the declared one. -/
def sizeReport (stream : FileStream) (s : Spool) : List Event :=
  if 0 < stream.size.toNat ∧ stream.size.toNat ≠ s.size then
    [.warn "Upload stream size differs from declared size" [
      ("name", stream.name),
      ("declared", Decimal.nat stream.size.toNat),
      ("actual", Decimal.nat s.size)]]
  else []

/-- Reads a stream to its end. -/
def ofStream (stream : FileStream) (watched : Bool) : Act Fault Spool := do
  let s ← readOn stream.size watched stream.reads empty
  Act.logAll (sizeReport stream s)
  return s

end Spool

end RemoteDrive
