import RemoteDrive.Text.Quoted
import RemoteDrive.Record

/-!
# Identifiers and names

A file or folder on the remote drive is known by an identifier. The service issues numbers and
writes them in decimal, but to this library an identifier is any text that is not empty and holds no
white space; `RemoteId` is the type of such texts, so that whoever holds one need not check again.

A *name* chosen by the host for a new or renamed object is checked when it is used and stays a plain
text, because the names that the service reports are under no rule at all. A name may not be blank
and may hold neither of the two path separators. Blankness is looked at first.
-/

set_option autoImplicit false

namespace RemoteDrive

open Text

/-- Why a text is no identifier. -/
inductive IdFault where
  | empty
  | holdsBlank (id : String)
deriving DecidableEq

namespace IdFault

def reason : IdFault → String
  | .empty => "Remote ID cannot be empty"
  | .holdsBlank id => "Remote ID contains whitespace: " ++ quoted id

end IdFault

/-- The identifier of a file or folder on the remote drive. -/
structure RemoteId where
  text : String
  ne_empty : text ≠ ""
  no_blank : text.toList.any isBlank = false
deriving DecidableEq

namespace RemoteId

/-- The identifier that a text is, or why it is none. -/
def ofString (s : String) : Except IdFault RemoteId :=
  if he : s = "" then .error .empty
  else if hb : s.toList.any isBlank = false then .ok ⟨s, he, hb⟩
  else .error (.holdsBlank s)

/-- The root of the drive. -/
def root : RemoteId := ⟨"0", by decide, by decide⟩

/-- Reads an identifier from a document that writes it as a text. -/
def read? {δ : Type} [Document δ] (d : δ) : Option RemoteId :=
  (Document.text? d).bind fun s => (ofString s).toOption

/-- An identifier as JSON. -/
def toJson (id : RemoteId) : Json := .text id.text

theorem ofString_text (id : RemoteId) : ofString id.text = .ok id := by
  simp [ofString, id.ne_empty, id.no_blank]

end RemoteId

/-- Why a text may not be given to an object as its name. -/
inductive NameFault where
  | blank
  | holdsSeparator (name : String)
deriving DecidableEq

namespace NameFault

def reason : NameFault → String
  | .blank => "name cannot be blank"
  | .holdsSeparator name => "name contains a path separator: " ++ name

end NameFault

namespace Name

/-- A slash of either kind. -/
def isSeparator (c : Char) : Bool := c = '/' || c = '\\'

/-- What is wrong with `name`, if anything. -/
def fault? (name : String) : Option NameFault :=
  if blank name then some .blank
  else if name.toList.any isSeparator then some (.holdsSeparator name)
  else none

end Name

end RemoteDrive
