import RemoteDrive.Identifier
import RemoteDrive.Time.Reader
import RemoteDrive.Time.Printer

/-!
# Files and folders

`RemoteObject` is the one record in which every operation reports a file or a folder, whatever shape
the service used. Its identifier is a plain text and not a `RemoteId`, because the service may leave
it out, and then it is empty.

`RemoteObject.folder` sets the size of a folder to zero and no edit changes a size. A stored record
is taken as it stands, though: reading one does not compare its size with its kind.
-/

set_option autoImplicit false

namespace RemoteDrive

structure RemoteObject where
  id : String
  name : String
  size : UInt64
  modified : Instant
  isFolder : Bool
deriving DecidableEq

namespace RemoteObject

def file (id name : String) (size : UInt64) (modified : Instant) : RemoteObject :=
  ⟨id, name, size, modified, false⟩

/-- A folder, whose size is zero. -/
def folder (id name : String) (modified : Instant) : RemoteObject :=
  ⟨id, name, 0, modified, true⟩

/-- The word by which a form tells the service what kind of object is meant. -/
def typeTag (o : RemoteObject) : String := if o.isFolder then "folder" else "file"

def withName (o : RemoteObject) (name : String) : RemoteObject := { o with name := name }

def withModified (o : RemoteObject) (modified : Instant) : RemoteObject :=
  { o with modified := modified }

/-! ## Stored records -/

/-- Reads an instant that a document writes as text. -/
def readInstant? {δ : Type} [Document δ] (d : δ) : Option Instant :=
  (Document.text? d).bind Timestamp.readDocument?

/-- Reads the record of an object. -/
def read? {δ : Type} [RichDocument δ] (d : δ) : Option RemoteObject := do
  match ← Document.slots? ["id", "name", "size", "modified", "is_folder"] d with
  | [id, name, size, modified, isFolder] =>
    return {
      id := ← id.required Document.text?
      name := ← name.required Document.text?
      size := ← size.required Document.word?
      modified := ← modified.required readInstant?
      isFolder := ← isFolder.required RichDocument.bool? }
  | _ => none

def toJson (o : RemoteObject) : Json := .object [
  ("id", .text o.id),
  ("name", .text o.name),
  ("size", .number (.natural o.size)),
  ("modified", .text (Timestamp.document o.modified)),
  ("is_folder", .bool o.isFolder)]

/-- The record as it is shown to a person. -/
def display (o : RemoteObject) : String :=
  "RemoteObject \x7b id: " ++ Text.quoted o.id ++ ", name: " ++ Text.quoted o.name ++
    ", size: " ++ Decimal.nat o.size.toNat ++ ", modified: " ++ Timestamp.document o.modified ++
    ", is_folder: " ++ (if o.isFolder then "true" else "false") ++ " \x7d"

end RemoteObject

/-! ## What an archive or the storage could report -/

/-- The description of an archive. -/
structure ArchiveMeta where
  comment : Option String
  encrypted : Bool
  entries : List RemoteObject
deriving DecidableEq

namespace ArchiveMeta

def read? {δ : Type} [RichDocument δ] (d : δ) : Option ArchiveMeta := do
  match ← Document.slots? ["comment", "encrypted", "entries"] d with
  | [comment, encrypted, entries] =>
    return {
      comment := ← comment.optional RichDocument.isNull Document.text?
      encrypted := ← encrypted.required RichDocument.bool?
      entries := ← (← entries.required RichDocument.items?).mapM RemoteObject.read? }
  | _ => none

def toJson (m : ArchiveMeta) : Json := .object [
  ("comment", m.comment.elim .null .text),
  ("encrypted", .bool m.encrypted),
  ("entries", .array (m.entries.map RemoteObject.toJson))]

end ArchiveMeta

/-- The capacity of a storage, in bytes. -/
structure StorageDetails where
  totalSpace : UInt64
  freeSpace : UInt64
deriving DecidableEq

namespace StorageDetails

def read? {δ : Type} [Document δ] (d : δ) : Option StorageDetails := do
  match ← Document.slots? ["total_space", "free_space"] d with
  | [total, free] =>
    return { totalSpace := ← total.required Document.word?
             freeSpace := ← free.required Document.word? }
  | _ => none

def toJson (s : StorageDetails) : Json := .object [
  ("total_space", .number (.natural s.totalSpace)),
  ("free_space", .number (.natural s.freeSpace))]

end StorageDetails

end RemoteDrive
