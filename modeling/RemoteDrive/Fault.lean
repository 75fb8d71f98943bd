import RemoteDrive.Config.Basic

/-!
# What can go wrong

A `Fault` is a cause: each constructor is one way in which an operation of this library fails, and
carries what is known of it. Two views are taken of a cause. `Fault.kind` is the coarse one, by
which a host decides what to do; `Fault.message` is the text for a person, and is the kind's label
followed by the cause's own detail. A fault of the session keeps the fault of the call under it
and repeats its message.

A `Failure` is a fault with the operations it came through, the outermost first (`Context`). The
fault itself is never changed on the way, so the host finds the kind under any number of lines.
-/

set_option autoImplicit false

namespace RemoteDrive

/-- The coarse view of a fault. -/
inductive FaultKind where
  | invalidRemoteId
  | invalidName
  | validationFailed
  | config
  | transport
  | http
  | auth
  | application
  | decode
  | linkUnavailable
  | uploadInit
  | notSupported
  | io
deriving DecidableEq

/-- What a message of this kind starts with. -/
def FaultKind.label : FaultKind → String
  | .invalidRemoteId => "Invalid remote ID: "
  | .invalidName => "Invalid object name: "
  | .validationFailed => "Validation failed: "
  | .config => "Configuration error: "
  | .transport => "Network error: "
  | .http => "HTTP "
  | .auth => "Authentication failed: "
  | .application => "API error: "
  | .decode => "Invalid response: "
  | .linkUnavailable => "No download link in response"
  | .uploadInit => "Upload initialisation failed: "
  | .notSupported => "Not supported: "
  | .io => "I/O error: "

/-- The operations that a storage may offer and this one does not. -/
inductive Unsupported where
  | archiveMeta
  | listArchive
  | extract
  | archiveDecompress
  | details
deriving DecidableEq

def Unsupported.name : Unsupported → String
  | .archiveMeta => "get_archive_meta"
  | .listArchive => "list_archive"
  | .extract => "extract"
  | .archiveDecompress => "archive_decompress"
  | .details => "get_details"

/-- A cause of failure. -/
inductive Fault where
  | badId (why : IdFault)
  | badName (why : NameFault)
  | badConfig (problems : List Config.Problem)
  /-- The key or the secret is blank, so there is nothing to authenticate with. -/
  | noCredentials
  /-- The request could not be made; with the URL where that is known to be the reason. -/
  | notBuilt (url : Option String)
  /-- The request got no answer. -/
  | notAnswered (url : String)
  /-- The answer's body broke off. -/
  | bodyCut
  | http (status : Nat) (body : String)
  | noRefreshToken
  | authenticationFailed (cause : Fault)
  | authenticationRejected (code : Option Int) (message : String)
  | authenticationIncomplete
  | refreshFailed (cause : Fault)
  /-- The refresh was refused in words that say the refresh token cannot be used any more. -/
  | refreshTokenRejected (message : String)
  | refreshRejected (message : String)
  | refreshIncomplete
  /-- The tokens in an accepted answer could not be read. -/
  | unreadableTokens (cause : Fault)
  | noAccessToken
  | application (code : Int) (message : String)
  | malformedJson
  | notAnObject
  | unexpectedData
  | linkUnavailable
  | noCsrfToken
  | noFileKey
  | unsupported (operation : Unsupported)
  /-- A fault that is known by its words alone, such as a host's report that its stream broke. -/
  | stated (kind : FaultKind) (detail : String)
deriving DecidableEq

namespace Fault

def kind : Fault → FaultKind
  | .badId _ => .invalidRemoteId
  | .badName _ => .invalidName
  | .badConfig _ => .validationFailed
  | .noCredentials => .config
  | .notBuilt _ => .transport
  | .notAnswered _ => .transport
  | .bodyCut => .transport
  | .http _ _ => .http
  | .noRefreshToken => .auth
  | .authenticationFailed _ => .auth
  | .authenticationRejected _ _ => .auth
  | .authenticationIncomplete => .auth
  | .refreshFailed _ => .auth
  | .refreshTokenRejected _ => .auth
  | .refreshRejected _ => .auth
  | .refreshIncomplete => .auth
  | .unreadableTokens _ => .auth
  | .noAccessToken => .auth
  | .application _ _ => .application
  | .malformedJson => .decode
  | .notAnObject => .decode
  | .unexpectedData => .decode
  | .linkUnavailable => .linkUnavailable
  | .noCsrfToken => .uploadInit
  | .noFileKey => .uploadInit
  | .unsupported _ => .notSupported
  | .stated kind _ => kind

/-- What a message says after its label. -/
def detail : Fault → String
  | .badId why => why.reason
  | .badName why => why.reason
  | .badConfig problems => String.intercalate "; " (problems.map Config.Problem.display)
  | .noCredentials => "api_key and api_secret are required"
  | .notBuilt none => "builder error"
  | .notBuilt (some url) => "builder error for url (" ++ url ++ ")"
  | .notAnswered url => "error sending request for url (" ++ url ++ ")"
  | .bodyCut => "error decoding response body"
  | .http status body => Decimal.nat status ++ ": " ++ body
  | .noRefreshToken => "no refresh token available"
  | .authenticationFailed cause =>
    "authentication request failed: " ++ cause.kind.label ++ cause.detail
  | .authenticationRejected code message =>
    "status=" ++ code.elim "none" Decimal.int ++ ", message=" ++ message
  | .authenticationIncomplete => "authentication response is missing a token"
  | .refreshFailed cause => "refresh request failed: " ++ cause.kind.label ++ cause.detail
  | .refreshTokenRejected message => "refresh token is likely invalid or expired: " ++ message
  | .refreshRejected message => "refresh rejected: " ++ message
  | .refreshIncomplete => "refresh response is missing an access token"
  | .unreadableTokens cause => cause.kind.label ++ cause.detail
  | .noAccessToken => "no access token after authentication"
  | .application code message => "code=" ++ Decimal.int code ++ ", message=" ++ message
  | .malformedJson => "malformed JSON"
  | .notAnObject => "response body is not a JSON object"
  | .unexpectedData => "unexpected data payload"
  | .linkUnavailable => ""
  | .noCsrfToken => "response has no csrf_token"
  | .noFileKey => "response has no file_key"
  | .unsupported operation => operation.name
  | .stated _ detail => detail

def message (f : Fault) : String := f.kind.label ++ f.detail

end Fault

/-- An operation that a fault came through. -/
inductive Context where
  | configuration
  | rootFolder
  | httpClient
  | accessToken
  | authenticating
  | listing (dir : RemoteId)
  | linking (file : RemoteId)
  | creating (name : String) (parent : RemoteId)
  | moving (id : String) (target : RemoteId)
  | renaming (id name : String)
  | deleting (id : String)
  | reading (name : String)
  | uploading (name : String) (target : RemoteId)
deriving DecidableEq

def Context.line : Context → String
  | .configuration => "invalid driver configuration"
  | .rootFolder => "invalid root_id"
  | .httpClient => "failed to build HTTP client"
  | .accessToken => "failed to obtain a valid access token"
  | .authenticating => "failed to authenticate"
  | .listing dir => "failed to list folder " ++ dir.text
  | .linking file => "failed to get download link for " ++ file.text
  | .creating name parent => "failed to create folder '" ++ name ++ "' in " ++ parent.text
  | .moving id target => "failed to move " ++ id ++ " to " ++ target.text
  | .renaming id name => "failed to rename " ++ id ++ " to '" ++ name ++ "'"
  | .deleting id => "failed to delete " ++ id
  | .reading name => "failed to read '" ++ name ++ "' for upload"
  | .uploading name target => "failed to upload '" ++ name ++ "' to " ++ target.text

/-- A fault and the operations it came through, the outermost first. -/
structure Failure where
  contexts : List Context
  fault : Fault
deriving DecidableEq

namespace Failure

def ofFault (f : Fault) : Failure := ⟨[], f⟩

/-- The failure seen from one operation further out. -/
def within (c : Context) (f : Failure) : Failure := { f with contexts := c :: f.contexts }

/-- All lines, the outermost first. -/
def message (f : Failure) : String :=
  String.intercalate ": " (f.contexts.map Context.line ++ [f.fault.message])

end Failure

end RemoteDrive
