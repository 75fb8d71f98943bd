import RemoteDrive.Identifier

/-!
# The configuration of a storage

A storage is configured by the credentials that the service issued, the folder that is mounted as
its root, and the settings of the connection. Everything but the credentials has a default, and a
configuration is made from the defaults by a list of settings (`Config.build`), each of which
replaces one value.

What is wrong with a configuration is a list, in a fixed order, so that a person can mend all of it
at once: `Config.problems`. The root is kept as text here and is an identifier only once it has been
checked (`Config.root`).
-/

set_option autoImplicit false

namespace RemoteDrive

/-- The pair by which the service knows its client. -/
structure Credentials where
  apiKey : String
  apiSecret : String
deriving DecidableEq

/-- Connection settings; the timeouts are in seconds. -/
structure HttpSettings where
  baseUrl : String
  userAgent : String
  requestTimeout : UInt64
  uploadTimeout : UInt64
deriving DecidableEq

structure Config where
  credentials : Credentials
  rootId : String
  http : HttpSettings
deriving DecidableEq

/-- No credentials at all. -/
def Credentials.standard : Credentials := ⟨"", ""⟩

/-- The public service, half a minute for a call and ten minutes for an upload. -/
def HttpSettings.standard : HttpSettings :=
  ⟨"https://pan.szczk.top/czkapi", "openlist", 30, 600⟩

namespace Config

def standard : Config := ⟨.standard, "0", .standard⟩

/-- The root folder as an identifier. -/
def root (c : Config) : Except IdFault RemoteId := RemoteId.ofString c.rootId

/-! ## Settings -/

/-- A value for one of the seven places of a configuration. -/
inductive Setting where
  | apiKey (value : String)
  | apiSecret (value : String)
  | rootId (value : String)
  | baseUrl (value : String)
  | userAgent (value : String)
  | requestTimeout (seconds : UInt64)
  | uploadTimeout (seconds : UInt64)
deriving DecidableEq

/-- `c` with one value replaced. -/
def set (c : Config) : Setting → Config
  | .apiKey v => { c with credentials := { c.credentials with apiKey := v } }
  | .apiSecret v => { c with credentials := { c.credentials with apiSecret := v } }
  | .rootId v => { c with rootId := v }
  | .baseUrl v => { c with http := { c.http with baseUrl := v } }
  | .userAgent v => { c with http := { c.http with userAgent := v } }
  | .requestTimeout v => { c with http := { c.http with requestTimeout := v } }
  | .uploadTimeout v => { c with http := { c.http with uploadTimeout := v } }

/-- The defaults with the settings applied in order; of two for one place the later counts. -/
def build (settings : List Setting) : Config := settings.foldl set standard

/-! ## Problems -/

/-- One thing that is wrong with a configuration. -/
inductive Problem where
  | blankKey
  | blankSecret
  | badRoot (why : IdFault)
  | notHttp (url : String)
  | trailingSlash
  | blankAgent
  | zeroTimeout
  | uploadShorter (upload request : UInt64)
deriving DecidableEq

namespace Problem

/-- The dotted name of the place that is wrong. -/
def field : Problem → String
  | .blankKey => "credentials.api_key"
  | .blankSecret => "credentials.api_secret"
  | .badRoot _ => "root_id"
  | .notHttp _ => "http.base_url"
  | .trailingSlash => "http.base_url"
  | .blankAgent => "http.user_agent"
  | .zeroTimeout => "http.request_timeout_secs"
  | .uploadShorter _ _ => "http.upload_timeout_secs"

def message : Problem → String
  | .blankKey => "must not be empty"
  | .blankSecret => "must not be empty"
  | .badRoot why => "Invalid remote ID: " ++ why.reason
  | .notHttp url => "must be an http(s) URL, got '" ++ url ++ "'"
  | .trailingSlash => "must not end with '/'"
  | .blankAgent => "must not be empty"
  | .zeroTimeout => "must be greater than 0"
  | .uploadShorter upload request =>
    "upload_timeout_secs (" ++ Decimal.nat upload.toNat ++
      ") must not be shorter than request_timeout_secs (" ++ Decimal.nat request.toNat ++ ")"

/-- Field and message in one line. -/
def display (p : Problem) : String := p.field ++ ": " ++ p.message

end Problem

/-- The problem of `c`'s root, if its text is no identifier. -/
def rootProblem? (c : Config) : Option Problem :=
  match c.root with
  | .ok _ => none
  | .error why => some (.badRoot why)

/-- The text starts with the name of one of the two protocols. -/
def isHttpUrl (url : String) : Bool :=
  "http://".toList.isPrefixOf url.toList || "https://".toList.isPrefixOf url.toList

/-- All that is wrong with `c`, in the order of its places. -/
def problems (c : Config) : List Problem :=
  (if Text.blank c.credentials.apiKey then [.blankKey] else []) ++
  (if Text.blank c.credentials.apiSecret then [.blankSecret] else []) ++
  c.rootProblem?.toList ++
  (if isHttpUrl c.http.baseUrl then [] else [.notHttp c.http.baseUrl]) ++
  (if c.http.baseUrl.toList.getLast? = some '/' then [.trailingSlash] else []) ++
  (if Text.blank c.http.userAgent then [.blankAgent] else []) ++
  (if c.http.requestTimeout = 0 then [.zeroTimeout] else []) ++
  (if c.http.uploadTimeout < c.http.requestTimeout then
    [.uploadShorter c.http.uploadTimeout c.http.requestTimeout] else [])

/-- The built configuration, or all that is wrong with it. -/
def buildValidated (settings : List Setting) : Except (List Problem) Config :=
  match (build settings).problems with
  | [] => .ok (build settings)
  | ps => .error ps

end Config

end RemoteDrive
