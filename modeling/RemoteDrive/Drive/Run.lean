import RemoteDrive.Drive.Basic

/-!
# Runs of a drive

What a host does with a drive is a list of steps, each made in a turn of its own. From turn to turn
the tokens stay and the history goes on.
-/

set_option autoImplicit false

namespace RemoteDrive

namespace Drive

/-- What a host can do with a drive. -/
inductive Step where
  | init
  | shutdown
  | list (dir : RemoteId)
  | link (file : RemoteId)
  | makeDir (parent : RemoteId) (name : String)
  | move (o : RemoteObject) (target : RemoteId)
  | rename (o : RemoteObject) (name : String)
  | remove (o : RemoteObject)
  | put (target : RemoteId) (stream : FileStream) (watched : Bool)
  | archiveMeta (o : RemoteObject)
  | listArchive (o : RemoteObject) (path : String)
  | extract (o : RemoteObject) (path : String)
  | decompress (o : RemoteObject) (target : RemoteId)
  | details
deriving DecidableEq

/-- What a step gives the host. -/
inductive Outcome where
  | done
  | objects (os : List RemoteObject)
  | object (o : RemoteObject)
  | link (l : Link)
  | archive (a : ArchiveMeta)
  | space (d : StorageDetails)
deriving DecidableEq

/-- Makes a step. -/
def perform (d : Drive) : Step → Act Failure Outcome
  | .init => do d.init; return .done
  | .shutdown => do shutdown; return .done
  | .list dir => do return .objects (← d.list dir)
  | .link file => do return .link (← d.link file)
  | .makeDir parent name => do return .object (← d.makeDir parent name)
  | .move o target => do return .object (← d.move o target)
  | .rename o name => do return .object (← d.rename o name)
  | .remove o => do d.remove o; return .done
  | .put target stream watched => do return .object (← d.put target stream watched)
  | .archiveMeta o => do return .archive (← archiveMeta o)
  | .listArchive o path => do return .objects (← listArchive o path)
  | .extract o path => do return .link (← extract o path)
  | .decompress o target => do return .objects (← decompress o target)
  | .details => do return .space (← details)

/-- A step's result and the situation after it. -/
def turn (d : Drive) (t : Turn Step) (l : Live) : Except (Stop Failure) Outcome × Live :=
  (d.perform t.step).exec t.now (l.awaiting t.replies)

/-- The results of several steps and the situation after the last. -/
def run (d : Drive) : List (Turn Step) → Live → List (Except (Stop Failure) Outcome) × Live
  | [], l => ([], l)
  | t :: ts, l =>
    let (result, l) := d.turn t l
    let (results, l) := d.run ts l
    (result :: results, l)

end Drive

end RemoteDrive
