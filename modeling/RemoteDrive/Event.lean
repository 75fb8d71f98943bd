/-!
# The log

What this library does is told as a list of events, each a level, a message and named texts. An
event is not given a token: where one has to be recognised, `masked` shows how it begins.
-/

set_option autoImplicit false

namespace RemoteDrive

/-- How much an event matters. -/
inductive Level where
  | debug
  | info
  | warn
deriving DecidableEq

structure Event where
  level : Level
  message : String
  fields : List (String × String)
deriving DecidableEq

namespace Event

def debug (message : String) (fields : List (String × String)) : Event := ⟨.debug, message, fields⟩

def info (message : String) (fields : List (String × String)) : Event := ⟨.info, message, fields⟩

def warn (message : String) (fields : List (String × String)) : Event := ⟨.warn, message, fields⟩

end Event

/-- How many characters of a secret are shown. -/
def shownCharacters : Nat := 10

/-- A secret for the log: its first characters and three asterisks. -/
def masked (secret : String) : String :=
  String.ofList (secret.toList.take shownCharacters ++ ['*', '*', '*'])

end RemoteDrive
