import RemoteDrive.Url.Basic
import RemoteDrive.Text.Base64
import RemoteDrive.Fault

/-!
# Requests and replies

A request is built in steps, and each step can find that there is no such request: the URL is none,
or a header holds a character that would end it. So the steps are functions into `Except Fault`,
and the first fault is the one that is reported.

A reply is what the other side makes of a request: nothing at all, or an answer.
-/

set_option autoImplicit false

namespace RemoteDrive

inductive Method where
  | get
  | post
  | other (name : String)
deriving DecidableEq

def Method.name : Method → String
  | .get => "GET"
  | .post => "POST"
  | .other name => name

structure Request where
  method : Method
  url : Url
  headers : List (String × String)
  /-- The named texts of the body, if it has one. -/
  form : Option (List (String × String))
  /-- How many seconds it may take. -/
  timeout : UInt64
deriving DecidableEq

/-- A status and a body, which is `whole` unless it broke off. -/
structure Answer where
  status : Nat
  body : List UInt8
  whole : Bool
deriving DecidableEq

inductive Reply where
  /-- The connection ended without an answer. -/
  | closed
  | answer (a : Answer)
deriving DecidableEq

/-- A header's value may hold any character but the control characters; a tab is allowed. -/
def isHeaderValue (s : String) : Bool :=
  s.toList.all fun c => c = '\t' || (0x20 ≤ c.toNat && c.toNat ≠ 0x7F)

namespace Request

/-- The value of the header by which a user is known to the other side. -/
def loginHeader (user : String) (password : Option String) : String :=
  let login := user ++ ":" ++ password.getD ""
  "Basic " ++ String.ofList (Base64.encode (Utf8.encode login.toList))

/-- A request without a body. The user that the URL names goes into a header and out of the URL. -/
def make (method : Method) (url : String) (agent : String) (timeout : UInt64) :
    Except Fault Request :=
  match Url.parse? url with
  | none => .error (.notBuilt none)
  | some u =>
    if u.hasHost then
      let headers := [("user-agent", agent)]
      match u.login? with
      | none => .ok ⟨method, u, headers, none, timeout⟩
      | some (user, password) =>
        let login := ("authorization", loginHeader user password)
        .ok ⟨method, u.withoutUser, headers ++ [login], none, timeout⟩
    else .error (.notBuilt (some u.text))

/-- The request with one more header. -/
def withHeader (r : Request) (name value : String) : Except Fault Request :=
  if isHeaderValue value then .ok { r with headers := r.headers ++ [(name, value)] }
  else .error (.notBuilt none)

/-- The request with the right of the one who holds `token`. -/
def withBearer (r : Request) (token : String) : Except Fault Request :=
  r.withHeader "authorization" ("Bearer " ++ token)

/-- The request with one more pair in its query. -/
def withPair (r : Request) (name value : String) : Request :=
  { r with url := r.url.withPair name value }

/-- The request with a form as its body. -/
def withForm (r : Request) (form : List (String × String)) : Request :=
  { r with form := some form }

end Request

end RemoteDrive
