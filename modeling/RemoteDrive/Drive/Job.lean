import RemoteDrive.Drive.Run

/-!
# Jobs

An operation on objects has two parts. The first looks only at what the host has handed in: a name
is checked, a file is read. It ends in a `Job`, which is what is left to do, and from there on all
operations go the same way (`Drive.carryOut`): the session is asked for a token, and the job is done
with it.

What is done with a token is at most two requests, and only an upload makes two. Between them the
operation stands still while others go on, so this is where it can be cut (`Drive.begin`,
`Drive.finish`).
-/

set_option autoImplicit false

namespace RemoteDrive

/-- What is left of an operation on objects when only the service can still refuse it. -/
inductive Job where
  | list (dir : RemoteId)
  | link (file : RemoteId)
  | makeDir (parent : RemoteId) (name : String)
  | move (o : RemoteObject) (target : RemoteId)
  | rename (o : RemoteObject) (name : String)
  | remove (o : RemoteObject)
  | put (target : RemoteId) (name : String) (s : Spool)

namespace Job

/-- How a failure is told by the operation that was asked for. -/
def told : Job → Failure → Failure
  | .list _ => id
  | .link _ => id
  | .makeDir parent name => Failure.within (.creating name parent)
  | .move o target => Failure.within (.moving o.id target)
  | .rename o name => Failure.within (.renaming o.id name)
  | .remove o => Failure.within (.deleting o.id)
  | .put _ _ _ => id

end Job

/-- How far a job has come after its first request. -/
inductive Leg where
  | finished (outcome : Drive.Outcome)
  /-- A file has been announced and has to be confirmed. -/
  | announced (d : UploadDescriptor) (t : UploadTicket)

namespace Drive

/-! ## The two parts of an operation -/

/-- What a step does before it needs a token; none for the steps that are not about objects. -/
def prepare? : Step → Option (Act Failure Job)
  | .list dir => some (pure (.list dir))
  | .link file => some (pure (.link file))
  | .makeDir parent name => some do
    checkName name
    Act.log (.debug "CzkDriver::make_dir" [("parent", parent.text), ("name", name)])
    return .makeDir parent name
  | .move o target => some do
    Act.log (.debug "CzkDriver::move_object" [("id", o.id), ("target", target.text)])
    return .move o target
  | .rename o name => some do
    checkName name
    Act.log (.debug "CzkDriver::rename" [("id", o.id), ("new_name", name)])
    return .rename o name
  | .remove o => some do
    Act.log (.debug "CzkDriver::remove" [("id", o.id), ("kind", o.typeTag)])
    return .remove o
  | .put target stream watched => some do
    checkName stream.name
    Act.log (.debug "CzkDriver::put" [
      ("folder", target.text), ("name", stream.name), ("size", Decimal.nat stream.size.toNat)])
    let s ← spool stream watched
    return .put target stream.name s
  | _ => none

/-- The job done with a token. -/
def work (d : Drive) (token : String) : Job → Act Failure Outcome
  | .list dir => do return .objects (← d.listWith token dir)
  | .link file => do return .link (← d.linkWith token file)
  | .makeDir parent name => do
    return .object (← inside (.creating name parent) (d.makeDirWith token parent name))
  | .move o target => do
    return .object (← inside (.moving o.id target) (d.moveWith token o target))
  | .rename o name => do
    return .object (← inside (.renaming o.id name) (d.renameWith token o name))
  | .remove o => do
    inside (.deleting o.id) (d.removeWith token o)
    Act.log (.info "Object deleted" [("id", o.id)])
    return .done
  | .put target name s => do return .object (← d.putWith token target name s)

/-- An access token for a job. -/
def tokenFor (d : Drive) (job : Job) : Act Failure String := d.accessToken.mapFailure job.told

/-- The job with the token that it needs. -/
def carryOut (d : Drive) (job : Job) : Act Failure Outcome := do
  d.work (← d.tokenFor job) job

/-! ## One request at a time -/

/-- The job up to the reply to its first request. -/
def begin (d : Drive) (token : String) : Job → Act Failure Leg
  | .put target name s =>
    let file := UploadDescriptor.ofSpool name target s
    inside (.uploading name target) do
      return .announced file (← lift (Upload.initiate d.client token file))
  | job => do return .finished (← d.work token job)

/-- What is left of the job after that. -/
def finish (d : Drive) (token : String) : Leg → Act Failure Outcome
  | .finished outcome => pure outcome
  | .announced file ticket =>
    inside (.uploading file.name file.folder) do
      let o ← lift (Upload.complete d.client token file ticket)
      lift (Act.log (.info "Upload completed" [
        ("name", file.name), ("size", Decimal.nat file.size.toNat), ("id", o.id)]))
      return .object o

end Drive

end RemoteDrive
