import RemoteDrive.Http.Client
import RemoteDrive.Upload.Spool
import RemoteDrive.Listing

/-!
# Uploading

A file is uploaded in two steps. The first announces it: its digest, its name, its size and the
folder it goes to, and is answered with a ticket of two tokens. The second says the same again with
the ticket, and the service answers with the file's identifier. Neither step carries the content,
which the service knows by its digest.

The second step is taken only with a whole ticket. A file whose identifier the service does not
tell is uploaded all the same, and its identifier is empty.
-/

set_option autoImplicit false

namespace RemoteDrive

/-- What the service is told of a file. -/
structure UploadDescriptor where
  hash : String
  name : String
  size : UInt64
  folder : RemoteId
deriving DecidableEq

/-- What the service wants to see again in the second step. -/
structure UploadTicket where
  csrfToken : String
  fileKey : String
deriving DecidableEq

namespace UploadDescriptor

/-- The description of a file that has been read. -/
def ofSpool (name : String) (folder : RemoteId) (s : Spool) : UploadDescriptor :=
  ⟨s.hash, name, UInt64.ofNat s.size, folder⟩

def form (d : UploadDescriptor) : List (String × String) := [
  ("hash", d.hash),
  ("filename", d.name),
  ("filesize", Decimal.nat d.size.toNat),
  ("folder", d.folder.text)]

end UploadDescriptor

def UploadTicket.form (t : UploadTicket) : List (String × String) :=
  [("csrf_token", t.csrfToken), ("file_key", t.fileKey)]

namespace Upload

def initiatePath : String := "/first_upload"

def completePath : String := "/ok_upload"

/-- A form that is sent with an access token. -/
def formRequest (c : Client) (token path : String) (form : List (String × String)) :
    Except Fault Request := do
  let r ← c.request .post path .upload
  let r ← r.withBearer token
  return r.withForm form

/-! ## The first step -/

/-- The ticket in an answer, both parts of which have to be there. -/
def ticket (e : Envelope) : Except Fault UploadTicket :=
  match e.dataText? "csrf_token", e.dataText? "file_key" with
  | some csrfToken, some fileKey => .ok ⟨csrfToken, fileKey⟩
  | none, _ => .error .noCsrfToken
  | _, none => .error .noFileKey

/-- Announces a file. -/
def initiate (c : Client) (token : String) (d : UploadDescriptor) : Act Fault UploadTicket := do
  Act.log (.debug "Initiating upload" [
    ("name", d.name), ("folder", d.folder.text), ("hash", d.hash)])
  let e ← Client.execute (formRequest c token initiatePath d.form) .upload
  Act.ofExcept (ticket e)

/-! ## The second step -/

/-- The identifier in an answer, empty if there is none. -/
def fileId (e : Envelope) : String :=
  ((Listing.findId? ["file_id", "id"] e.data).or (Listing.idText? (e.field "file_id"))).getD ""

/-- The file that an answer speaks of. -/
def uploaded (d : UploadDescriptor) (now : Instant) (e : Envelope) : RemoteObject :=
  .file (fileId e) d.name d.size now

/-- What is reported on an answer without an identifier. -/
def idReport (d : UploadDescriptor) (e : Envelope) : List Event :=
  if fileId e = "" then [.warn "Upload completed without a file id" [("name", d.name)]] else []

/-- Confirms an announced file. -/
def complete (c : Client) (token : String) (d : UploadDescriptor) (t : UploadTicket) :
    Act Fault RemoteObject := do
  let e ← Client.execute (formRequest c token completePath (d.form ++ t.form)) .upload
  Act.logAll (idReport d e)
  return uploaded d (← Act.now) e

/-- Both steps. -/
def transfer (c : Client) (token : String) (d : UploadDescriptor) : Act Fault RemoteObject := do
  let t ← initiate c token d
  let o ← complete c token d t
  Act.log (.info "Upload completed" [
    ("name", d.name), ("size", Decimal.nat d.size.toNat), ("id", o.id)])
  return o

end Upload

end RemoteDrive
