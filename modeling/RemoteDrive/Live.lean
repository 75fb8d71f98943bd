import RemoteDrive.Http.Request
import RemoteDrive.Event
import RemoteDrive.Session.Tokens
import RemoteDrive.Upload.Stream

/-!
# Calls and what they change

A call is made at a moment, which does not pass while it lasts. It may change the tokens that the
session holds, it may use up replies of the peer, which is the service at the other end of the
line, and whatever passes between it and the world outside is added to a history (`Live`). One
history for all of it keeps the order: that a file has been read before the first request is made
can be said of the history alone.

`Act` is the type of such calls. A call that stops has either failed for a reason that the caller
may deal with, or come to a moment outside the calendar, with which nobody deals; what it had
changed by then stays changed.

A peer that accepts connections answers each request with the next of its replies, and once it has
none left it closes the connection without an answer. One that accepts none is never reached: a
request to it fails and leaves no trace.
-/

set_option autoImplicit false

namespace RemoteDrive

/-- The service at the other end of the line. -/
structure Peer where
  accepts : Bool
  /-- What it will answer. -/
  replies : List Reply
deriving DecidableEq

/-- What passes between a call and the world outside. -/
inductive Occurrence where
  /-- Something was told to the log. -/
  | logged (event : Event)
  /-- A request reached the peer and got a reply. -/
  | sent (request : Request) (reply : Reply)
  /-- A file's stream was read. -/
  | read (what : Read)
  /-- The host was told how far the reading had come. -/
  | reported (progress : Progress)
deriving DecidableEq

/-- What a call may change. -/
structure Live where
  tokens : Option Tokens
  peer : Peer
  /-- The oldest occurrence comes first. -/
  history : List Occurrence
deriving DecidableEq

namespace Live

/-- The log. -/
def events (l : Live) : List Event :=
  l.history.filterMap fun
    | .logged e => some e
    | _ => none

/-- The requests that reached the peer. -/
def requests (l : Live) : List Request :=
  l.history.filterMap fun
    | .sent r _ => some r
    | _ => none

/-- The reports on a file's reading. -/
def reports (l : Live) : List Progress :=
  l.history.filterMap fun
    | .reported p => some p
    | _ => none

/-- With one more occurrence. -/
def add (l : Live) (o : Occurrence) : Live := { l with history := l.history ++ [o] }

/-- The peer's reply to a request, if it is reached. -/
def ask (l : Live) (r : Request) : Option Reply × Live :=
  if l.peer.accepts then
    let reply := l.peer.replies.headD .closed
    (some reply,
      { l.add (.sent r reply) with peer := { l.peer with replies := l.peer.replies.drop 1 } })
  else (none, l)

end Live

/-- Why a call stopped. -/
inductive Stop (ε : Type) where
  | failed (why : ε)
  /-- A moment would lie outside the calendar. -/
  | outsideCalendar
deriving DecidableEq

/-- A call that is made at a moment. -/
abbrev Act (ε α : Type) : Type := ReaderT Instant (ExceptT (Stop ε) (StateM Live)) α

namespace Act

variable {ε ε' α : Type}

/-- The call's result at `now` in a situation, and the situation afterwards. -/
def exec (act : Act ε α) (now : Instant) (live : Live) : Except (Stop ε) α × Live := act now live

def fail (why : ε) : Act ε α := throw (.failed why)

/-- The call succeeds with a value or fails with its reason. -/
def ofExcept : Except ε α → Act ε α
  | .ok a => pure a
  | .error why => fail why

/-- The moment of the call. -/
def now : Act ε Instant := read

/-- The moment `n` seconds from now. -/
def secondsFromNow (n : Int) : Act ε Instant := do
  match (← now).addSeconds? n with
  | some t => return t
  | none => throw .outsideCalendar

/-- Adds to the history. -/
def record (o : Occurrence) : Act ε Unit := modify (·.add o)

def log (e : Event) : Act ε Unit := record (.logged e)

def logAll (es : List Event) : Act ε Unit := es.forM log

/-- The tokens that are held. -/
def tokens : Act ε (Option Tokens) := do return (← get).tokens

def setTokens (t : Option Tokens) : Act ε Unit := modify fun live => { live with tokens := t }

/-- The peer's reply to a request, if it is reached. -/
def ask (r : Request) : Act ε (Option Reply) := modifyGet (·.ask r)

/-- `act` with the reason of a failure seen from further out. -/
def mapFailure (f : ε → ε') (act : Act ε α) : Act ε' α := fun now live =>
  match act now live with
  | (.ok a, live) => (.ok a, live)
  | (.error (.failed why), live) => (.error (.failed (f why)), live)
  | (.error .outsideCalendar, live) => (.error .outsideCalendar, live)

/-- `act`, and if it fails what `next` makes of the reason. -/
def recover (act : Act ε α) (next : ε → Act ε' α) : Act ε' α := fun now live =>
  match act now live with
  | (.ok a, live) => (.ok a, live)
  | (.error (.failed why), live) => next why now live
  | (.error .outsideCalendar, live) => (.error .outsideCalendar, live)

end Act

/-! ## Turns -/

/-- A step of a longer run, the moment at which it is made, and what the peer will answer then. -/
structure Turn (σ : Type) where
  step : σ
  now : Instant
  replies : List Reply

namespace Live

/-- Before anything has happened. -/
def start (tokens : Option Tokens) (accepts : Bool) : Live := ⟨tokens, ⟨accepts, []⟩, []⟩

/-- The situation at the start of a turn: what was left of the peer's replies is gone. -/
def awaiting (l : Live) (replies : List Reply) : Live :=
  { l with peer := { l.peer with replies := replies } }

end Live

end RemoteDrive
