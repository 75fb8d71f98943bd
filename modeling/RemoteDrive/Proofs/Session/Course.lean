import RemoteDrive.Session.Basic
import RemoteDrive.Proofs.Exchange

/-!
# The courses of the session's calls

Each call of the session is followed once, here, through all of its early ends, and everything it
can do is written down as an inductive proposition: one constructor for each way in which the call
can end, with the result and the situation that this way leaves behind. What the session keeps,
sends or hands out is read off these three lists (`AuthCourse`, `RefreshCourse`, `EnsureCourse`),
and no later proof opens the calls again.

A course keeps what decides it: which request reaches the peer, and what the next reply is to the
caller (`authOutcome`, `refreshOutcome`). Both are functions of the reply alone, so that a course
can be told from the tokens and the peer.
-/

set_option autoImplicit false

namespace RemoteDrive
namespace Session

open Client (reaching)

variable {s : Session} {now : Instant} {l l' : Live}

/-! ## Asking for a grant -/

/-- What a reply grants: `wrap` is how a failed call is seen by the session, and `read` how an
envelope is. -/
def grantIn {γ : Type} (wrap : Fault → Fault) (read : Envelope → Except Fault γ) (r : Request)
    (reply : Reply) : Except Fault γ :=
  ((Client.outcome .service r reply).mapError wrap).bind read

/-- The part that both ways to new tokens have in common. -/
theorem exec_grant {γ α : Type} {wrap : Fault → Fault} {read : Envelope → Except Fault γ}
    {request : Except Fault Request} (next : γ → Act Fault α) :
    (do
      let e ← (Client.fetch request .service).mapFailure wrap
      let g ← Act.ofExcept (read e)
      next g).exec now l =
      match reaching l.peer.accepts request with
      | .error why => (.error (.failed (wrap why)), l)
      | .ok r =>
        match grantIn wrap read r l.nextReply with
        | .error why => (.error (.failed why), l.heard r)
        | .ok g => (next g).exec now (l.heard r) := by
  rw [Act.exec_bind, Act.exec_mapFailure]
  cases hr : reaching l.peer.accepts request with
  | error why => rw [Client.exec_fetch_error hr]
  | ok r =>
    simp only [Client.exec_fetch_ok hr, grantIn]
    cases Client.outcome .service r l.nextReply with
    | error why => rfl
    | ok e =>
      simp only [mapError_ok, Except.bind, Act.exec_bind, Act.exec_ofExcept]
      cases read e <;> rfl

/-! ## Showing the credentials -/

def authStarted : Event := .info "Authenticating with API key" []

def authReport (g : AuthGrant) : Event :=
  .debug "Authentication succeeded" [
    ("access_token", masked g.accessToken),
    ("token_type", g.tokenType.getD "unknown"),
    ("expires_in", Decimal.int g.lifetime.toInt)]

/-- What the reply to the credentials grants. -/
def authOutcome : Request → Reply → Except Fault AuthGrant :=
  grantIn .authenticationFailed authGrant

/-- Every way in which showing the credentials can end. -/
inductive AuthCourse (s : Session) (now : Instant) (l : Live) :
    Except (Stop Fault) Unit → Live → Prop
  | noCredentials (hc : s.hasCredentials = false) :
    AuthCourse s now l (.error (.failed .noCredentials)) l
  | unsent {why : Fault} (hc : s.hasCredentials = true)
    (hr : reaching l.peer.accepts s.authenticateRequest = .error why) :
    AuthCourse s now l (.error (.failed (.authenticationFailed why))) (l.add (.logged authStarted))
  | refused {r : Request} {why : Fault} (hc : s.hasCredentials = true)
    (hr : reaching l.peer.accepts s.authenticateRequest = .ok r)
    (hg : authOutcome r l.nextReply = .error why) :
    AuthCourse s now l (.error (.failed why)) ((l.add (.logged authStarted)).heard r)
  | outside {r : Request} {g : AuthGrant} (hc : s.hasCredentials = true)
    (hr : reaching l.peer.accepts s.authenticateRequest = .ok r)
    (hg : authOutcome r l.nextReply = .ok g) (ht : now.addSeconds? g.lifetime.toInt = none) :
    AuthCourse s now l (.error .outsideCalendar)
      (((l.add (.logged authStarted)).heard r).add (.logged (authReport g)))
  | granted {r : Request} {g : AuthGrant} {t : Instant} (hc : s.hasCredentials = true)
    (hr : reaching l.peer.accepts s.authenticateRequest = .ok r)
    (hg : authOutcome r l.nextReply = .ok g) (ht : now.addSeconds? g.lifetime.toInt = some t) :
    AuthCourse s now l (.ok ())
      ((((l.add (.logged authStarted)).heard r).add (.logged (authReport g))).withTokens
        (some ⟨g.accessToken, some g.refreshToken, t⟩))

theorem authenticate_course {result : Except (Stop Fault) Unit}
    (h : s.authenticate.exec now l = (result, l')) : AuthCourse s now l result l' := by
  cases hc : s.hasCredentials with
  | false =>
    simp only [authenticate, hc, Bool.false_eq_true, if_false, Act.exec_fail] at h
    cases h
    exact .noCredentials hc
  | true =>
    simp only [authenticate, hc, if_true] at h
    rw [Act.exec_bind_ok (Act.exec_log _), exec_grant] at h
    cases hr : reaching l.peer.accepts s.authenticateRequest with
    | error why =>
      simp only [Live.peer_add, hr] at h
      cases h
      exact .unsent hc hr
    | ok r =>
      simp only [Live.peer_add, hr, Live.nextReply_add] at h
      cases hg : authOutcome r l.nextReply with
      | error why =>
        simp only [show grantIn _ _ _ _ = _ from hg] at h
        cases h
        exact .refused hc hr hg
      | ok g =>
        simp only [show grantIn _ _ _ _ = _ from hg, Act.exec_bind, Act.exec_log,
          Act.exec_secondsFromNow, Act.exec_setTokens] at h
        cases ht : now.addSeconds? g.lifetime.toInt with
        | none =>
          rw [ht] at h
          cases h
          exact .outside hc hr hg ht
        | some t =>
          rw [ht] at h
          cases h
          exact .granted hc hr hg ht

/-! ## Showing the refresh token -/

def refreshStarted (token : String) : Event :=
  .debug "Refreshing access token" [("refresh_token", masked token)]

def refreshReport (g : RefreshGrant) : Event :=
  .info "Access token refreshed" [("expires_in", Decimal.int g.lifetime.toInt)]

/-- What the reply to a refresh token grants. -/
def refreshOutcome : Request → Reply → Except Fault RefreshGrant :=
  grantIn .refreshFailed refreshGrant

/-- The refresh token that would be shown. -/
def shownToken (l : Live) : Option String := l.tokens.bind Tokens.usableRefresh?

/-- Every way in which a refresh can end. In one of them the tokens are lost: the service has
granted new ones, and their end lies outside the calendar. -/
inductive RefreshCourse (s : Session) (now : Instant) (l : Live) :
    Except (Stop Fault) Unit → Live → Prop
  | noToken (hk : shownToken l = none) : RefreshCourse s now l (.error (.failed .noRefreshToken)) l
  | unsent {token : String} {why : Fault} (hk : shownToken l = some token)
    (hr : reaching l.peer.accepts (s.refreshRequest token) = .error why) :
    RefreshCourse s now l (.error (.failed (.refreshFailed why)))
      (l.add (.logged (refreshStarted token)))
  | refused {token : String} {r : Request} {why : Fault} (hk : shownToken l = some token)
    (hr : reaching l.peer.accepts (s.refreshRequest token) = .ok r)
    (hg : refreshOutcome r l.nextReply = .error why) :
    RefreshCourse s now l (.error (.failed why)) ((l.add (.logged (refreshStarted token))).heard r)
  | outside {token : String} {r : Request} {g : RefreshGrant} (hk : shownToken l = some token)
    (hr : reaching l.peer.accepts (s.refreshRequest token) = .ok r)
    (hg : refreshOutcome r l.nextReply = .ok g) (ht : now.addSeconds? g.lifetime.toInt = none) :
    RefreshCourse s now l (.error .outsideCalendar)
      (((l.add (.logged (refreshStarted token))).heard r).withTokens none)
  | granted {token : String} {r : Request} {g : RefreshGrant} {t : Instant}
    (hk : shownToken l = some token) (hr : reaching l.peer.accepts (s.refreshRequest token) = .ok r)
    (hg : refreshOutcome r l.nextReply = .ok g) (ht : now.addSeconds? g.lifetime.toInt = some t) :
    RefreshCourse s now l (.ok ())
      ((((l.add (.logged (refreshStarted token))).heard r).withTokens
        (some ⟨g.accessToken, keptRefresh g l.tokens, t⟩)).add (.logged (refreshReport g)))

theorem refresh_course {result : Except (Stop Fault) Unit}
    (h : s.refresh.exec now l = (result, l')) : RefreshCourse s now l result l' := by
  rw [refresh, Act.exec_bind_ok Act.exec_tokens] at h
  cases hk : shownToken l with
  | none =>
    simp only [show l.tokens.bind Tokens.usableRefresh? = _ from hk, Act.exec_fail] at h
    cases h
    exact .noToken hk
  | some token =>
    simp only [show l.tokens.bind Tokens.usableRefresh? = _ from hk] at h
    rw [Act.exec_bind_ok (Act.exec_log _), exec_grant] at h
    cases hr : reaching l.peer.accepts (s.refreshRequest token) with
    | error why =>
      simp only [Live.peer_add, hr] at h
      cases h
      exact .unsent hk hr
    | ok r =>
      simp only [Live.peer_add, hr, Live.nextReply_add] at h
      cases hg : refreshOutcome r l.nextReply with
      | error why =>
        simp only [show grantIn _ _ _ _ = _ from hg] at h
        cases h
        exact .refused hk hr hg
      | ok g =>
        simp only [show grantIn _ _ _ _ = _ from hg, Act.exec_bind, Act.exec_tokens, Act.exec_log,
          Act.exec_secondsFromNow, Act.exec_setTokens] at h
        cases ht : now.addSeconds? g.lifetime.toInt with
        | none =>
          rw [ht] at h
          cases h
          exact .outside hk hr hg ht
        | some t =>
          rw [ht] at h
          cases h
          exact .granted hk hr hg ht

/-! ## Handing out a token -/

def renewStarted (state : SessionState) : Event :=
  .debug "Access token missing or expired, refreshing" [("state", state.name)]

def refreshGivenUp (why : Fault) : Event :=
  .warn "Token refresh failed, re-authenticating" [("error", why.message)]

/-- What is held has not ended. -/
def holdsValid (now : Instant) (l : Live) : Prop :=
  SessionState.ofTokens now l.tokens = .authenticated

/-- The situation in which a renewal starts. -/
def renewing (now : Instant) (l : Live) : Live :=
  l.add (.logged (renewStarted (.ofTokens now l.tokens)))

/-- Every way in which the session can be asked for a token. `l₁` is the situation after the
refresh, `l'` the one at the end. -/
inductive EnsureCourse (s : Session) (now : Instant) (l : Live) :
    Except (Stop Fault) String → Live → Prop
  | held {t : Tokens} (hv : holdsValid now l) (hl : l.tokens = some t) :
    EnsureCourse s now l (.ok t.accessToken) l
  | refreshed {t : Tokens} {l' : Live} (hv : ¬ holdsValid now l)
    (hr : s.refresh.exec now (renewing now l) = (.ok (), l')) (hl : l'.tokens = some t) :
    EnsureCourse s now l (.ok t.accessToken) l'
  | lost {l' : Live} (hv : ¬ holdsValid now l)
    (hr : s.refresh.exec now (renewing now l) = (.error .outsideCalendar, l')) :
    EnsureCourse s now l (.error .outsideCalendar) l'
  | authenticated {why : Fault} {t : Tokens} {l₁ l' : Live} (hv : ¬ holdsValid now l)
    (hr : s.refresh.exec now (renewing now l) = (.error (.failed why), l₁))
    (ha : s.authenticate.exec now (l₁.add (.logged (refreshGivenUp why))) = (.ok (), l'))
    (hl : l'.tokens = some t) :
    EnsureCourse s now l (.ok t.accessToken) l'
  | refused {why : Fault} {stop : Stop Fault} {l₁ l' : Live} (hv : ¬ holdsValid now l)
    (hr : s.refresh.exec now (renewing now l) = (.error (.failed why), l₁))
    (ha : s.authenticate.exec now (l₁.add (.logged (refreshGivenUp why))) = (.error stop, l')) :
    EnsureCourse s now l (.error stop) l'

/-- New tokens are there once they have been got. -/
theorem tokens_of_refresh (h : s.refresh.exec now l = (.ok (), l')) : ∃ t, l'.tokens = some t := by
  cases refresh_course h with
  | granted => exact ⟨_, rfl⟩

theorem tokens_of_authenticate (h : s.authenticate.exec now l = (.ok (), l')) :
    ∃ t, l'.tokens = some t := by
  cases authenticate_course h with
  | granted => exact ⟨_, rfl⟩

theorem exec_renew_ok (h : s.refresh.exec now l = (.ok (), l')) :
    s.renew.exec now l = (.ok (), l') := by
  rw [renew, Act.exec_recover, h]

theorem exec_renew_lost (h : s.refresh.exec now l = (.error .outsideCalendar, l')) :
    s.renew.exec now l = (.error .outsideCalendar, l') := by
  rw [renew, Act.exec_recover, h]

/-- Of a refresh that has failed nothing but a warning goes on. -/
theorem exec_renew_failed {why : Fault} {l₁ : Live}
    (h : s.refresh.exec now l = (.error (.failed why), l₁)) :
    s.renew.exec now l = s.authenticate.exec now (l₁.add (.logged (refreshGivenUp why))) := by
  rw [renew, Act.exec_recover, h]
  exact Act.exec_bind_ok (Act.exec_log _)

/-- The last thing a request for a token does. -/
def handOut : Act Fault String := do
  match ← Act.tokens with
  | some t => return t.accessToken
  | none => Act.fail .noAccessToken

theorem exec_handOut {t : Tokens} (h : l.tokens = some t) :
    handOut.exec now l = (.ok t.accessToken, l) := by
  rw [handOut, Act.exec_bind_ok Act.exec_tokens, h]
  rfl

theorem exec_state {ε : Type} :
    (state : Act ε SessionState).exec now l = (.ok (.ofTokens now l.tokens), l) := rfl

theorem exec_ensureValid_held (h : holdsValid now l) :
    s.ensureValid.exec now l = handOut.exec now l := by
  rw [ensureValid, Act.exec_bind_ok exec_state]
  simp only [show SessionState.ofTokens now l.tokens = .authenticated from h, ne_eq,
    not_true_eq_false, if_false]
  rfl

theorem exec_ensureValid_renewing (h : ¬ holdsValid now l) :
    s.ensureValid.exec now l = (s.renew >>= fun _ => handOut).exec now (renewing now l) := by
  rw [ensureValid, Act.exec_bind_ok exec_state]
  simp only [ne_eq, show ¬ SessionState.ofTokens now l.tokens = .authenticated from h,
    not_false_eq_true, if_true]
  rw [Act.exec_bind_ok (Act.exec_log _)]
  rfl

theorem ensureValid_course {result : Except (Stop Fault) String}
    (h : s.ensureValid.exec now l = (result, l')) : EnsureCourse s now l result l' := by
  by_cases hv : holdsValid now l
  · rw [exec_ensureValid_held hv] at h
    cases hl : l.tokens with
    | none =>
      rw [holdsValid, hl] at hv
      cases hv
    | some t =>
      rw [exec_handOut hl] at h
      cases h
      exact .held hv hl
  · rw [exec_ensureValid_renewing hv] at h
    rcases hr : s.refresh.exec now (renewing now l) with ⟨(why | _) | _, l₁⟩
    · rcases ha : s.authenticate.exec now (l₁.add (.logged (refreshGivenUp why)))
        with ⟨stop | _, l₂⟩
      · rw [Act.exec_bind_error ((exec_renew_failed hr).trans ha)] at h
        cases h
        exact .refused hv hr ha
      · obtain ⟨t, ht⟩ := tokens_of_authenticate ha
        rw [Act.exec_bind_ok ((exec_renew_failed hr).trans ha), exec_handOut ht] at h
        cases h
        exact .authenticated hv hr ha ht
    · rw [Act.exec_bind_error (exec_renew_lost hr)] at h
      cases h
      exact .lost hv hr
    · obtain ⟨t, ht⟩ := tokens_of_refresh hr
      rw [Act.exec_bind_ok (exec_renew_ok hr), exec_handOut ht] at h
      cases h
      exact .refreshed hv hr ht

/-! ## One session -/

/-- A session of a service at `http://h`. -/
def sample : Session := ⟨⟨"http://h", "agent", 30, 600⟩, ⟨"key", "secret"⟩⟩

/-- An answer of success with this body. -/
def answering (body : String) : Reply := .answer ⟨200, Utf8.encode body.toList, true⟩

/-- An answer to the credentials that does not say for how long. -/
def sampleAccepted : Reply := answering
  "\x7b\"status\":200,\"data\":\x7b\"access_token\":\"a\",\"refresh_token\":\"r\"\x7d\x7d"

/-- An answer to the refresh token, without a new one. -/
def sampleRefreshed : Reply := answering
  ("\x7b\"status\":200,\"success\":true," ++
    "\"data\":\x7b\"access_token\":\"b\",\"expires_in\":60\x7d\x7d")

end Session
end RemoteDrive
