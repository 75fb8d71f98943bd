import RemoteDrive.Config.Basic

/-!
# The configuration as a document

A configuration document mentions what differs from the defaults. `Config.read?` is one reader for
every notation of `Document`, and every field of it has a default, so a field that a document
leaves out keeps the standard value and an empty document is the standard configuration. A field
that is there must have its kind: a section that is a text is an error and not an empty section.
-/

set_option autoImplicit false

namespace RemoteDrive

variable {δ : Type} [Document δ]

def Credentials.read? (d : δ) : Option Credentials := do
  match ← Document.slots? ["api_key", "api_secret"] d with
  | [key, secret] =>
    return { apiKey := ← key.orElse Credentials.standard.apiKey Document.text?
             apiSecret := ← secret.orElse Credentials.standard.apiSecret Document.text? }
  | _ => none

def HttpSettings.read? (d : δ) : Option HttpSettings := do
  match ← Document.slots?
      ["base_url", "user_agent", "request_timeout_secs", "upload_timeout_secs"] d with
  | [url, agent, request, upload] =>
    let standard := HttpSettings.standard
    return { baseUrl := ← url.orElse standard.baseUrl Document.text?
             userAgent := ← agent.orElse standard.userAgent Document.text?
             requestTimeout := ← request.orElse standard.requestTimeout Document.word?
             uploadTimeout := ← upload.orElse standard.uploadTimeout Document.word? }
  | _ => none

/-- Reads a configuration from a document. -/
def Config.read? (d : δ) : Option Config := do
  match ← Document.slots? ["credentials", "root_id", "http"] d with
  | [credentials, rootId, http] =>
    return { credentials := ← credentials.orElse .standard Credentials.read?
             rootId := ← rootId.orElse Config.standard.rootId Document.text?
             http := ← http.orElse .standard HttpSettings.read? }
  | _ => none

/-! ## Writing -/

def Credentials.toJson (c : Credentials) : Json := .object [
  ("api_key", .text c.apiKey),
  ("api_secret", .text c.apiSecret)]

def HttpSettings.toJson (h : HttpSettings) : Json := .object [
  ("base_url", .text h.baseUrl),
  ("user_agent", .text h.userAgent),
  ("request_timeout_secs", .number (.natural h.requestTimeout)),
  ("upload_timeout_secs", .number (.natural h.uploadTimeout))]

def Config.toJson (c : Config) : Json := .object [
  ("credentials", c.credentials.toJson),
  ("root_id", .text c.rootId),
  ("http", c.http.toJson)]

/-! ## Display

A configuration may be shown in a log, so the secret is not part of what is shown.
-/

/-- What is shown in place of a secret. -/
def redacted : String := "<redacted>"

def Credentials.display (c : Credentials) : String :=
  "CredentialsConfig \x7b api_key: " ++ Text.quoted c.apiKey ++ ", api_secret: " ++
    Text.quoted redacted ++ " \x7d"

def HttpSettings.display (h : HttpSettings) : String :=
  "HttpConfig \x7b base_url: " ++ Text.quoted h.baseUrl ++ ", user_agent: " ++
    Text.quoted h.userAgent ++ ", request_timeout_secs: " ++ Decimal.nat h.requestTimeout.toNat ++
    ", upload_timeout_secs: " ++ Decimal.nat h.uploadTimeout.toNat ++ " \x7d"

def Config.display (c : Config) : String :=
  "DriverConfig \x7b credentials: " ++ c.credentials.display ++ ", root_id: " ++
    Text.quoted c.rootId ++ ", http: " ++ c.http.display ++ " \x7d"

end RemoteDrive
