import RemoteDrive.Session.Basic

/-!
# Runs of a session

A session by itself is used in five ways. The fifth is that the host hands in tokens that it has
kept from another run, about which nothing is known.
-/

set_option autoImplicit false

namespace RemoteDrive

namespace Session

/-- What can be done with a session. -/
inductive Step where
  | authenticate
  | refresh
  | ensureValid
  | invalidate
  /-- The host hands in tokens that it kept. -/
  | hold (tokens : Tokens)
deriving DecidableEq

/-- Makes a step; where it gives an access token, that is the result. -/
def perform (s : Session) : Step → Act Fault (Option String)
  | .authenticate => do s.authenticate; return none
  | .refresh => do s.refresh; return none
  | .ensureValid => do return some (← s.ensureValid)
  | .invalidate => do invalidate; return none
  | .hold tokens => do Act.setTokens (some tokens); return none

/-- A step's result and the situation after it. -/
def turn (s : Session) (t : Turn Step) (l : Live) :
    Except (Stop Fault) (Option String) × Live :=
  (s.perform t.step).exec t.now (l.awaiting t.replies)

/-- The results of several steps and the situation after the last. -/
def run (s : Session) :
    List (Turn Step) → Live → List (Except (Stop Fault) (Option String)) × Live
  | [], l => ([], l)
  | t :: ts, l =>
    let (result, l) := s.turn t l
    let (results, l) := s.run ts l
    (result :: results, l)

end Session

end RemoteDrive
