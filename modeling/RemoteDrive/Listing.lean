import RemoteDrive.Object
import RemoteDrive.Event

/-!
# Entries of a listing

The service describes a file or a folder by an object whose fields vary: an identifier is a number
or a text and has one of three names, a name has one of two, and files and folders report their
time under different keys. This module reads such an entry. Anything that is not an object is no
entry and is passed over.

An identifier that is a number is written in decimal without a fraction: an integer as it is, any
other number rounded to the nearest integer, ties to even.

A time that is missing or cannot be read is the present; one that is there and cannot be read is
reported (`unreadableTime`). So an entry's object is a function of the entry and the present, and
the report is a function of the entry alone.
-/

set_option autoImplicit false

namespace RemoteDrive.Listing

/-- The identifier that a value writes. -/
def idText? : Json → Option String
  | .text s => some s
  | .number (.natural n) => some (Decimal.nat n.toNat)
  | .number (.integer n) => some (Decimal.int n.toInt)
  | .number (.real x) => some x.roundedText
  | _ => none

/-- The identifier under the first of `keys` that has one. -/
def findId? (keys : List String) (j : Json) : Option String := j.firstOf idText? keys

/-- The report on a timestamp that is there and cannot be read. -/
def unreadableTime (raw : String) : List Event :=
  if (Timestamp.read? raw).isNone ∧ raw ≠ "" then
    [.debug "Unparseable timestamp, using current time" [("raw", raw)]]
  else []

/-- The instant that a timestamp writes, or the present. -/
def timeOr (now : Instant) (raw : String) : Instant := (Timestamp.read? raw).getD now

def idKeys : List String := ["id", "file_id", "folder_id"]

def nameKeys : List String := ["name", "filename"]

/-- Where an entry reports its time. -/
def timeKeys (isFolder : Bool) : List String :=
  if isFolder then ["created_at", "updated_at", "modified"]
  else ["uploaded_at", "updated_at", "modified"]

/-- An entry is a folder if it says so in either of two ways. -/
def isFolder (entry : Json) : Bool :=
  ((entry.field? "is_folder").bind Json.bool?).getD false ||
    (entry.field? "type").bind Json.text? == some "folder"

/-- A number of bytes: cut to an integer and kept within one word. -/
def byteCount : JsonNumber → UInt64
  | .natural n => n
  | .integer n => UInt64.ofNat n.toInt.toNat
  | .real x => if x.isPositive then UInt64.ofNat (min x.whole (UInt64.size - 1)) else 0

/-- The size that an entry reports; zero if it reports none. -/
def size (entry : Json) : UInt64 :=
  match entry.field? "size" with
  | some (.number n) => byteCount n
  | _ => 0

/-- The timestamp that an entry reports, empty if it reports none. -/
def rawTime (entry : Json) : String :=
  (entry.firstOf Json.text? (timeKeys (isFolder entry))).getD ""

/-- The object that an entry describes at the present `now`. -/
def object? (now : Instant) (entry : Json) : Option RemoteObject :=
  if entry.isObject then
    let id := (findId? idKeys entry).getD ""
    let name := (entry.firstOf Json.text? nameKeys).getD ""
    let modified := timeOr now (rawTime entry)
    some (if isFolder entry then .folder id name modified
      else .file id name (size entry) modified)
  else none

/-- What is reported about an entry. -/
def reports (entry : Json) : List Event :=
  if entry.isObject then unreadableTime (rawTime entry) else []

/-- The objects that a list of entries describes, in its order; none for anything but a list. -/
def objects (now : Instant) (entries : Json) : List RemoteObject :=
  (entries.array?.getD []).filterMap (object? now)

/-- What is reported about a list of entries. -/
def allReports (entries : Json) : List Event := (entries.array?.getD []).flatMap reports

end RemoteDrive.Listing
