import RemoteDrive.Session.Basic
import RemoteDrive.Upload.Handshake

/-!
# The drive

A drive is what a host mounts: a session, the folder that is its root, and the operations on files
and folders. Every operation on objects is made in the same way. It first gets an access token from
the session, then makes its own call with it, and turns the answer into its result by a function
that knows nothing else. The call is a function of the token (`listWith`, `moveWith`, …), so what an
operation does after it has got its token can be said without the session, and so can what several
operations do at the same time.

A failure carries the operation it came through. What the host hands in is checked before anything
else happens: a name that may not be given stops an operation that would give it.

Archives and the capacity of the storage are not known to the service; what asks for them fails.
-/

set_option autoImplicit false

namespace RemoteDrive

structure Drive where
  session : Session
  root : RemoteId
deriving DecidableEq

/-- Where a file can be downloaded, and the headers that a download has to carry. -/
structure Link where
  url : String
  headers : List (String × String)
deriving DecidableEq

namespace Drive

/-! ## Making a drive -/

/-- The drive of a configuration, which must have no problem. -/
def ofConfig (c : Config) : Except Failure Drive := do
  if c.problems ≠ [] then
    .error ⟨[.configuration], .badConfig c.problems⟩
  else
    let root ← c.root.mapError fun why => ⟨[.rootFolder], .badId why⟩
    let client ← (Client.ofConfig c).mapError fun why => ⟨[.httpClient], why⟩
    return ⟨⟨client, c.credentials⟩, root⟩

def client (d : Drive) : Client := d.session.client

/-- The drive as it is shown to a person. -/
def display (d : Drive) : String :=
  "CzkDriver \x7b base_url: " ++ Text.quoted d.client.baseUrl ++ ", root: RemoteId(" ++
    Text.quoted d.root.text ++ "), .. \x7d"

/-! ## Steps of an operation -/

/-- A call that is part of an operation. -/
def inside {α : Type} (c : Context) (act : Act Failure α) : Act Failure α :=
  act.mapFailure (Failure.within c)

/-- A call of the session or of the client as part of an operation. -/
def lift {α : Type} (act : Act Fault α) : Act Failure α := act.mapFailure Failure.ofFault

/-- A failure if the name may not be given to an object. -/
def checkName (name : String) : Act Failure Unit :=
  match Name.fault? name with
  | some why => Act.fail (.ofFault (.badName why))
  | none => pure ()

/-- An access token that has not ended. -/
def accessToken (d : Drive) : Act Failure String :=
  inside .accessToken (lift d.session.ensureValid)

/-- The answer to a question with one parameter. -/
def query (d : Drive) (token path name value : String) (family : EndpointFamily) :
    Act Failure Envelope :=
  lift <| Client.execute (do
    let r ← d.client.request .get path .standard
    let r ← r.withBearer token
    return r.withPair name value) family

/-- The answer to a form. -/
def post (d : Drive) (token path : String) (form : List (String × String)) :
    Act Failure Envelope :=
  lift <| Client.execute (do
    let r ← d.client.request .post path .standard
    let r ← r.withBearer token
    return r.withForm form) .operation

/-- The fields of a form that say which object is meant. -/
def objectForm (o : RemoteObject) : List (String × String) := [("id", o.id), ("type", o.typeTag)]

/-! ## The session -/

/-- Lets the host in, whatever tokens are held. -/
def init (d : Drive) : Act Failure Unit := do
  inside .authenticating (lift d.session.authenticate)
  Act.log (.info "CZK storage initialised" [("root", d.root.text)])

/-- Gives up the tokens. -/
def shutdown : Act Failure Unit := Session.invalidate

/-! ## Listing -/

def listPath : String := "/list_files"

/-- The entries in an answer. -/
def items (e : Envelope) : Json := e.data.fieldOrNull "items"

def listWith (d : Drive) (token : String) (dir : RemoteId) : Act Failure (List RemoteObject) := do
  Act.log (.debug "CzkDriver::list" [("folder", dir.text)])
  let e ← inside (.listing dir) (d.query token listPath "folder_id" dir.text .operation)
  Act.logAll (Listing.allReports (items e))
  let objects := Listing.objects (← Act.now) (items e)
  Act.log (.debug "Listed folder" [("folder", dir.text), ("count", Decimal.nat objects.length)])
  return objects

/-- What is in a folder. -/
def list (d : Drive) (dir : RemoteId) : Act Failure (List RemoteObject) := do
  d.listWith (← d.accessToken) dir

/-! ## Links -/

def linkPath : String := "/get_download_url"

/-- The address in an answer. -/
def downloadUrl (e : Envelope) : Except Fault String :=
  match (e.dataText? "download_link").or (e.dataText? "url") with
  | some url => .ok url
  | none => .error .linkUnavailable

def linkWith (d : Drive) (token : String) (file : RemoteId) : Act Failure Link := do
  Act.log (.debug "CzkDriver::link" [("id", file.text)])
  inside (.linking file) do
    let e ← d.query token linkPath "file_id" file.text .service
    let url ← lift (Act.ofExcept (downloadUrl e))
    return ⟨url, [("User-Agent", d.client.userAgent)]⟩

/-- Where a file can be downloaded. -/
def link (d : Drive) (file : RemoteId) : Act Failure Link := do
  d.linkWith (← d.accessToken) file

/-! ## New folders -/

def makeDirPath : String := "/create_folder"

/-- The folder that an answer speaks of. -/
def created (name : String) (now : Instant) (e : Envelope) : RemoteObject :=
  .folder ((Listing.findId? ["folder_id", "id"] e.data).getD "") name now

def makeDirWith (d : Drive) (token : String) (parent : RemoteId) (name : String) :
    Act Failure RemoteObject := do
  let e ← d.post token makeDirPath [("parent_id", parent.text), ("name", name)]
  let o := created name (← Act.now) e
  Act.log (.info "Folder created" [("id", o.id), ("name", name)])
  return o

/-- Makes a folder. -/
def makeDir (d : Drive) (parent : RemoteId) (name : String) : Act Failure RemoteObject := do
  checkName name
  Act.log (.debug "CzkDriver::make_dir" [("parent", parent.text), ("name", name)])
  inside (.creating name parent) do d.makeDirWith (← d.accessToken) parent name

/-! ## Moving -/

def movePath : String := "/move_item"

/-- The entry of an answer that has the identifier `id`, the first of several. -/
def echo? (id : String) (e : Envelope) : Option Json :=
  ((items e).array?.getD []).find? fun item => Listing.idText? (item.fieldOrNull "id") == some id

/-- The moved object: where the answer repeats it, its name and its time are taken from there. -/
def moved (o : RemoteObject) (now : Instant) (e : Envelope) : RemoteObject :=
  let item := (echo? o.id e).getD .null
  let name := ((item.field? "name").bind Json.text?).filter (· ≠ "")
  let time := ((item.field? "created_at").bind Json.text?).bind Timestamp.read?
  (o.withModified (time.getD now)).withName (name.getD o.name)

def moveWith (d : Drive) (token : String) (o : RemoteObject) (target : RemoteId) :
    Act Failure RemoteObject := do
  let e ← d.post token movePath (objectForm o ++ [("target_id", target.text)])
  return moved o (← Act.now) e

/-- Moves an object into another folder. -/
def move (d : Drive) (o : RemoteObject) (target : RemoteId) : Act Failure RemoteObject := do
  Act.log (.debug "CzkDriver::move_object" [("id", o.id), ("target", target.text)])
  inside (.moving o.id target) do d.moveWith (← d.accessToken) o target

/-! ## Renaming -/

def renamePath : String := "/rename_item"

def renameWith (d : Drive) (token : String) (o : RemoteObject) (name : String) :
    Act Failure RemoteObject := do
  let _ ← d.post token renamePath (objectForm o ++ [("new_name", name)])
  return (o.withName name).withModified (← Act.now)

/-- Gives an object another name. -/
def rename (d : Drive) (o : RemoteObject) (name : String) : Act Failure RemoteObject := do
  checkName name
  Act.log (.debug "CzkDriver::rename" [("id", o.id), ("new_name", name)])
  inside (.renaming o.id name) do d.renameWith (← d.accessToken) o name

/-! ## Deleting -/

def removePath : String := "/delete_item"

def removeWith (d : Drive) (token : String) (o : RemoteObject) : Act Failure Unit := do
  let _ ← d.post token removePath (objectForm o)

/-- Deletes an object. -/
def remove (d : Drive) (o : RemoteObject) : Act Failure Unit := do
  Act.log (.debug "CzkDriver::remove" [("id", o.id), ("kind", o.typeTag)])
  inside (.deleting o.id) do d.removeWith (← d.accessToken) o
  Act.log (.info "Object deleted" [("id", o.id)])

/-! ## Uploading -/

/-- Reads a file for upload. -/
def spool (stream : FileStream) (watched : Bool) : Act Failure Spool :=
  inside (.reading stream.name) (lift (Spool.ofStream stream watched))

def putWith (d : Drive) (token : String) (target : RemoteId) (name : String) (s : Spool) :
    Act Failure RemoteObject :=
  inside (.uploading name target)
    (lift (Upload.transfer d.client token (.ofSpool name target s)))

/-- Uploads a file; `watched` says that the host wants to be told how far its reading has come. The
token is got after the reading, which may take longer than a token lasts. -/
def put (d : Drive) (target : RemoteId) (stream : FileStream) (watched : Bool) :
    Act Failure RemoteObject := do
  checkName stream.name
  Act.log (.debug "CzkDriver::put" [
    ("folder", target.text), ("name", stream.name), ("size", Decimal.nat stream.size.toNat)])
  let s ← spool stream watched
  d.putWith (← d.accessToken) target stream.name s

/-! ## What the service does not offer -/

/-- An operation that fails because there is no such thing. -/
def unsupported {α : Type} (operation : Unsupported) : Act Failure α :=
  Act.fail (.ofFault (.unsupported operation))

def archiveMeta (_ : RemoteObject) : Act Failure ArchiveMeta := unsupported .archiveMeta

def listArchive (_ : RemoteObject) (_ : String) : Act Failure (List RemoteObject) :=
  unsupported .listArchive

def extract (_ : RemoteObject) (_ : String) : Act Failure Link := unsupported .extract

def decompress (_ : RemoteObject) (_ : RemoteId) : Act Failure (List RemoteObject) :=
  unsupported .archiveDecompress

def details : Act Failure StorageDetails := unsupported .details

end Drive

end RemoteDrive
