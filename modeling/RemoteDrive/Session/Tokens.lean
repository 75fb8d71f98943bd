import RemoteDrive.Object
import RemoteDrive.Config.Record

/-!
# Tokens

What a session holds once the service has let it in: the token that goes with every request, the
moment at which it ends, and perhaps a second token by which a new one can be had. A token whose
end is now has ended.
-/

set_option autoImplicit false

namespace RemoteDrive

structure Tokens where
  accessToken : String
  refreshToken : Option String
  expiresAt : Instant
deriving DecidableEq

namespace Tokens

/-- The access token has ended at `now`. -/
def isExpired (now : Instant) (t : Tokens) : Bool := t.expiresAt.le now

/-- The refresh token, if there is one that can be used. -/
def usableRefresh? (t : Tokens) : Option String := t.refreshToken.filter (· ≠ "")

/-- Reads the record of a pair of tokens. -/
def read? {δ : Type} [RichDocument δ] (d : δ) : Option Tokens := do
  match ← Document.slots? ["access_token", "refresh_token", "expires_at"] d with
  | [access, refresh, expires] =>
    return {
      accessToken := ← access.required Document.text?
      refreshToken := ← refresh.optional RichDocument.isNull Document.text?
      expiresAt := ← expires.required RemoteObject.readInstant? }
  | _ => none

def toJson (t : Tokens) : Json := .object [
  ("access_token", .text t.accessToken),
  ("refresh_token", t.refreshToken.elim .null .text),
  ("expires_at", .text (Timestamp.document t.expiresAt))]

/-- The tokens as they are shown to a person, which is without the tokens. -/
def display (t : Tokens) : String :=
  let hidden := Text.quoted redacted
  "Tokens \x7b access_token: " ++ hidden ++ ", refresh_token: " ++
    t.refreshToken.elim "None" (fun _ => "Some(" ++ hidden ++ ")") ++ ", expires_at: " ++
    Timestamp.document t.expiresAt ++ " \x7d"

/-- Tokens that may not be there. -/
def displayOptional (t : Option Tokens) : String :=
  t.elim "None" fun t => "Some(" ++ t.display ++ ")"

end Tokens

end RemoteDrive
