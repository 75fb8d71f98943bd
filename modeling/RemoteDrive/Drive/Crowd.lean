import RemoteDrive.Drive.Job

/-!
# Several jobs at the same time

A drive may be asked for several things at once. The jobs then share the session, which serves one
at a time: a job waits until it has the session to itself, asks it for a token, and gives it back
before it sends anything of its own. So a job goes through the same phases whatever the others do
(`Phase`), and what the others do shows in nothing but the situation in which it makes its next
move.

The order of the moves is a list of places among the jobs, with no promise about it: a job may be
passed over for ever, and one that is named while it waits in vain, or when it has ended, leaves
everything as it is.
-/

set_option autoImplicit false

namespace RemoteDrive

/-- How far a job has come. -/
inductive Phase where
  /-- It waits for the session. -/
  | waiting
  /-- It has the session to itself. -/
  | holding
  /-- It has its answer from the session, and has the session to itself still. -/
  | answered (answer : Except (Stop Failure) String)
  /-- It has given the session back and has a token. -/
  | ready (token : String)
  /-- It has sent its first request. -/
  | underway (token : String) (leg : Leg)
  /-- It has ended; without a token it has nothing but what the session has said. -/
  | ended (answer : Except (Stop Failure) String) (result : Except (Stop Failure) Drive.Outcome)

namespace Phase

/-- What the session has said, once it has been asked. -/
def answer? : Phase → Option (Except (Stop Failure) String)
  | .waiting | .holding => none
  | .answered answer => some answer
  | .ready token => some (.ok token)
  | .underway token _ => some (.ok token)
  | .ended answer _ => some answer

end Phase

/-- A job and how far it has come. -/
structure Task where
  job : Job
  phase : Phase

/-- The jobs of a drive, the situation that they share, and the place of the one that has the
session to itself. -/
structure Crowd where
  live : Live
  owner : Option Nat
  tasks : List Task

namespace Crowd

/-- All jobs wait for the session. -/
def start (l : Live) (jobs : List Job) : Crowd := ⟨l, none, jobs.map (⟨·, .waiting⟩)⟩

/-- The crowd with the task at one place in another phase. -/
def enter (c : Crowd) (i : Nat) (t : Task) (phase : Phase) : Crowd :=
  { c with tasks := c.tasks.set i ⟨t.job, phase⟩ }

end Crowd

namespace Drive

/-- The next move of the task at place `i`. -/
def advanceTask (d : Drive) (now : Instant) (c : Crowd) (i : Nat) (t : Task) : Crowd :=
  match t.phase with
  | .waiting => if c.owner = none then { c.enter i t .holding with owner := some i } else c
  | .holding =>
    let (answer, live) := (d.tokenFor t.job).exec now c.live
    { c.enter i t (.answered answer) with live := live }
  | .answered (.ok token) => { c.enter i t (.ready token) with owner := none }
  | .answered (.error stop) => { c.enter i t (.ended (.error stop) (.error stop)) with owner := none }
  | .ready token =>
    match (d.begin token t.job).exec now c.live with
    | (.ok leg, live) => { c.enter i t (.underway token leg) with live := live }
    | (.error stop, live) => { c.enter i t (.ended (.ok token) (.error stop)) with live := live }
  | .underway token leg =>
    let (result, live) := (d.finish token leg).exec now c.live
    { c.enter i t (.ended (.ok token) result) with live := live }
  | .ended _ _ => c

/-- A move of the job at place `i`, if there is one. -/
def advance (d : Drive) (now : Instant) (c : Crowd) (i : Nat) : Crowd :=
  match c.tasks[i]? with
  | some t => d.advanceTask now c i t
  | none => c

/-- The moves of the jobs in an order. -/
def interleave (d : Drive) (now : Instant) (order : List Nat) (c : Crowd) : Crowd :=
  order.foldl (d.advance now) c

end Drive

end RemoteDrive
