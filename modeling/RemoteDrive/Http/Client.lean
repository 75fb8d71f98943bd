import RemoteDrive.Live
import RemoteDrive.Envelope
import RemoteDrive.Config.Basic

/-!
# The client

A client knows where the service is, under which name it goes there, and how long each kind of call
may take. A request's URL is the base URL with the path behind it, so the base loses the slashes at
its end.

A reply is looked at in one order (`Client.fetch`): first whether it is an answer, then its status,
then whether its body is whole, and only then what the body says. So a body never makes a success
of a failed request.
-/

set_option autoImplicit false

namespace RemoteDrive

/-- How long a call may take. -/
inductive CallProfile where
  | standard
  | upload
deriving DecidableEq

structure Client where
  baseUrl : String
  userAgent : String
  requestTimeout : UInt64
  uploadTimeout : UInt64
deriving DecidableEq

namespace Client

/-- A URL without the slashes at its end. -/
def trimSlashes (url : String) : String :=
  String.ofList (url.toList.reverse.dropWhile (· == '/')).reverse

/-- The client of a configuration; its name has to be fit for a header. -/
def ofConfig (c : Config) : Except Fault Client :=
  if isHeaderValue c.http.userAgent then
    .ok ⟨trimSlashes c.http.baseUrl, c.http.userAgent, c.http.requestTimeout,
      c.http.uploadTimeout⟩
  else .error (.notBuilt none)

/-- A client of the service at `url`, with the standard settings. -/
def ofBaseUrl (url : String) : Client :=
  let http := HttpSettings.standard
  ⟨trimSlashes url, http.userAgent, http.requestTimeout, http.uploadTimeout⟩

/-- How many seconds a call may take. -/
def timeout (c : Client) : CallProfile → UInt64
  | .standard => c.requestTimeout
  | .upload => c.uploadTimeout

/-- A request to a path below the base URL. -/
def request (c : Client) (method : Method) (path : String) (profile : CallProfile) :
    Except Fault Request :=
  Request.make method (c.baseUrl ++ path) c.userAgent (c.timeout profile)

/-! ## Calls -/

/-- What is said of an error's body that broke off. -/
def unreadableBody : String := "unable to read error body"

/-- The status says that the request was carried out. -/
def isSuccessStatus (status : Nat) : Bool := 200 ≤ status && status < 300

/-- The answer to a request; one that is not built or has nowhere to go fails at once. -/
def send (request : Except Fault Request) : Act Fault Answer := do
  let r ← Act.ofExcept request
  if r.url.isSendable then
    match ← Act.ask r with
    | some (.answer a) => return a
    | _ => Act.fail (.notAnswered r.url.text)
  else Act.fail (.notBuilt (some r.url.text))

/-- The body of an error for a person to read. -/
def errorBody (a : Answer) : String :=
  if a.whole then String.ofList (Utf8.decodeLossy a.body) else unreadableBody

/-- The envelope of the answer to a request, whatever its code. -/
def fetch (request : Except Fault Request) (family : EndpointFamily) : Act Fault Envelope := do
  let a ← send request
  if isSuccessStatus a.status then
    if a.whole then Act.ofExcept (Envelope.decode family a.body) else Act.fail .bodyCut
  else
    Act.log (.debug "CZK API returned error status" [("status", Decimal.nat a.status)])
    Act.fail (.http a.status (errorBody a))

/-- The envelope of the answer to a request, if it reports success. -/
def execute (request : Except Fault Request) (family : EndpointFamily) : Act Fault Envelope := do
  Act.ofExcept (← fetch request family).check

end Client

end RemoteDrive
