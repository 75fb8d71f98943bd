import RemoteDrive.Http.Client

/-!
# The session

A session exchanges the client's credentials for tokens and keeps the access token valid. It has no
clock of its own: whether a token has ended is looked at when one is asked for (`ensureValid`).
What it holds is then one of three things (`SessionState`):

* no tokens, and they have to be got with the credentials (`authenticate`);
* tokens that have not ended, and nothing has to be done;
* tokens that have ended, and new ones can be got for the refresh token (`refresh`).

`ensureValid` tries the cheaper way first: it refreshes, and if that fails for whatever reason it
authenticates. A failed refresh is reported and otherwise forgotten.

Both ways read the whole reply before they change the tokens, so a failure leaves them as they
were. There is one exception: where the new tokens would end outside the calendar, a refresh has
given up the old ones already.
-/

set_option autoImplicit false

namespace RemoteDrive

/-- What a session holds at a moment. -/
inductive SessionState where
  | unauthenticated
  | authenticated
  | expired
deriving DecidableEq

namespace SessionState

def name : SessionState → String
  | .unauthenticated => "Unauthenticated"
  | .authenticated => "Authenticated"
  | .expired => "Expired"

/-- The state of a session that holds `tokens`. -/
def ofTokens (now : Instant) : Option Tokens → SessionState
  | none => .unauthenticated
  | some t => if t.isExpired now then .expired else .authenticated

end SessionState

/-- The client of a session and the credentials it shows. -/
structure Session where
  client : Client
  credentials : Credentials
deriving DecidableEq

/-! ## What the service grants -/

/-- A text of an answer that may be missing, which is the same as null. -/
def Slot.text {δ : Type} [RichDocument δ] : Slot δ → Option (Option String) :=
  Slot.orElse none fun d =>
    if RichDocument.isNull d then some none else (Document.text? d).map some

/-- What an answer to the credentials grants. -/
structure AuthGrant where
  accessToken : String
  refreshToken : String
  /-- For how many seconds. -/
  lifetime : Int64
  tokenType : Option String
deriving DecidableEq

namespace AuthGrant

/-- Nothing. -/
def empty : AuthGrant := ⟨"", "", 0, none⟩

def read? {δ : Type} [RichDocument δ] (d : δ) : Option AuthGrant := do
  match ← Document.slots? ["access_token", "refresh_token", "expires_in", "token_type"] d with
  | [access, refresh, lifetime, tokenType] =>
    return {
      accessToken := ← access.orElse "" Document.text?
      refreshToken := ← refresh.orElse "" Document.text?
      lifetime := ← lifetime.orElse 0 RichDocument.integer?
      tokenType := ← tokenType.text }
  | _ => none

end AuthGrant

/-- What an answer to a refresh token grants. -/
structure RefreshGrant where
  accessToken : String
  /-- For how many seconds. -/
  lifetime : Int64
  refreshToken : Option String
deriving DecidableEq

namespace RefreshGrant

/-- Nothing. -/
def empty : RefreshGrant := ⟨"", 0, none⟩

def read? {δ : Type} [RichDocument δ] (d : δ) : Option RefreshGrant := do
  match ← Document.slots? ["access_token", "expires_in", "refresh_token"] d with
  | [access, lifetime, refresh] =>
    return {
      accessToken := ← access.orElse "" Document.text?
      lifetime := ← lifetime.orElse 0 RichDocument.integer?
      refreshToken := ← refresh.text }
  | _ => none

end RefreshGrant

namespace Session

/-! ## Authentication -/

def authenticatePath : String := "/authenticate"

def refreshPath : String := "/refresh_token"

/-- The words with which the service accepts credentials, sometimes under another code. -/
def acceptedMessage : String := "认证成功"

/-- The words that say that a refresh token cannot be used any more. -/
def refreshRejections : List String := ["需要提供刷新令牌", "无效或过期的刷新令牌"]

/-- The credentials are worth showing. -/
def hasCredentials (s : Session) : Bool :=
  !Text.blank s.credentials.apiKey && !Text.blank s.credentials.apiSecret

/-- The request that shows the credentials. -/
def authenticateRequest (s : Session) : Except Fault Request := do
  let r ← s.client.request .get authenticatePath .standard
  let r ← r.withHeader "x-api-key" s.credentials.apiKey
  r.withHeader "x-api-secret" s.credentials.apiSecret

/-- The service has accepted the credentials. -/
def isAccepted (e : Envelope) : Bool :=
  e.code == some successCode || e.message == some acceptedMessage

/-- The grant in an answer to the credentials. -/
def authGrant (e : Envelope) : Except Fault AuthGrant := do
  if isAccepted e then
    let grant ← (e.dataAs .empty AuthGrant.read?).mapError .unreadableTokens
    if grant.accessToken = "" ∨ grant.refreshToken = "" then .error .authenticationIncomplete
    else .ok grant
  else .error (.authenticationRejected e.code e.errorMessage)

/-- Gets new tokens for the credentials. -/
def authenticate (s : Session) : Act Fault Unit := do
  if s.hasCredentials then
    Act.log (.info "Authenticating with API key" [])
    let e ← (Client.fetch s.authenticateRequest .service).mapFailure .authenticationFailed
    let grant ← Act.ofExcept (authGrant e)
    Act.log (.debug "Authentication succeeded" [
      ("access_token", masked grant.accessToken),
      ("token_type", grant.tokenType.getD "unknown"),
      ("expires_in", Decimal.int grant.lifetime.toInt)])
    let expiresAt ← Act.secondsFromNow grant.lifetime.toInt
    Act.setTokens (some ⟨grant.accessToken, some grant.refreshToken, expiresAt⟩)
  else Act.fail .noCredentials

/-! ## Refreshing -/

/-- The request that shows a refresh token. -/
def refreshRequest (s : Session) (token : String) : Except Fault Request := do
  let r ← s.client.request .post refreshPath .standard
  return r.withForm [("refresh_token", token)]

/-- The service has accepted the refresh token. -/
def isRefreshed (e : Envelope) : Bool := e.success == some true && e.code == some successCode

/-- Why a refresh token was rejected. -/
def refreshRejection (e : Envelope) : Fault :=
  if e.message.any refreshRejections.contains then .refreshTokenRejected e.errorMessage
  else .refreshRejected e.errorMessage

/-- The grant in an answer to a refresh token. -/
def refreshGrant (e : Envelope) : Except Fault RefreshGrant := do
  if isRefreshed e then
    let grant ← (e.dataAs .empty RefreshGrant.read?).mapError .unreadableTokens
    if grant.accessToken = "" then .error .refreshIncomplete else .ok grant
  else .error (refreshRejection e)

/-- The new refresh token, if there is one that can be used, and otherwise the old one. -/
def keptRefresh (grant : RefreshGrant) (old : Option Tokens) : Option String :=
  (grant.refreshToken.filter (· ≠ "")).or (old.bind Tokens.refreshToken)

/-- Gets new tokens for the refresh token. -/
def refresh (s : Session) : Act Fault Unit := do
  match (← Act.tokens).bind Tokens.usableRefresh? with
  | none => Act.fail .noRefreshToken
  | some token =>
    Act.log (.debug "Refreshing access token" [("refresh_token", masked token)])
    let e ← (Client.fetch (s.refreshRequest token) .service).mapFailure .refreshFailed
    let grant ← Act.ofExcept (refreshGrant e)
    let old ← Act.tokens
    Act.setTokens none
    let expiresAt ← Act.secondsFromNow grant.lifetime.toInt
    Act.setTokens (some ⟨grant.accessToken, keptRefresh grant old, expiresAt⟩)
    Act.log (.info "Access token refreshed" [("expires_in", Decimal.int grant.lifetime.toInt)])

/-! ## Use -/

/-- The state of the session now. -/
def state {ε : Type} : Act ε SessionState := do
  return .ofTokens (← Act.now) (← Act.tokens)

/-- Gets new tokens in the cheaper of the two ways that works. -/
def renew (s : Session) : Act Fault Unit :=
  s.refresh.recover fun why => do
    Act.log (.warn "Token refresh failed, re-authenticating" [("error", why.message)])
    s.authenticate

/-- An access token that has not ended, new if need be. -/
def ensureValid (s : Session) : Act Fault String := do
  let state ← state
  if state ≠ .authenticated then
    Act.log (.debug "Access token missing or expired, refreshing" [("state", state.name)])
    s.renew
  match ← Act.tokens with
  | some t => return t.accessToken
  | none => Act.fail .noAccessToken

/-- Gives up the tokens. -/
def invalidate {ε : Type} : Act ε Unit := do
  if (← Act.tokens).isSome then
    Act.setTokens none
    Act.log (.debug "Session invalidated" [])

/-- The session as it is shown to a person. -/
def display (s : Session) (tokens : Option Tokens) : String :=
  "SessionManager \x7b base_url: " ++ Text.quoted s.client.baseUrl ++ ", credentials: " ++
    s.credentials.display ++ ", tokens: " ++ Tokens.displayOptional tokens ++ " \x7d"

end Session

end RemoteDrive
