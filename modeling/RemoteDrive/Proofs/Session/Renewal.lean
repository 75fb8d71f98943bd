import Mathlib.Control.Monad.Basic
import RemoteDrive.Proofs.Session.Course

/-!
# What is sent for a token

A session that is asked for a token sends nothing while the one it holds lasts. After that it sends
at most two requests, in one order: the refresh token goes first, if one is held that can be used,
and the credentials follow only where that has failed, if they are worth showing. This file proves
it for the requests themselves, with their method, their address and their form
(`ensureValid_sends`).

The two requests are made and sent by the same client, so that they leave at all is asked of the
client once and for both (`Client.Serves`). Which of the two are sent does not depend on whether the
peer is reached: what is sent to a peer that does not accept connections is lost (`Live.reached`).
-/

set_option autoImplicit false

namespace RemoteDrive

/-- The user's name and password only make a URL longer. -/
theorem Url.isSendable_withoutUser {u : Url} (h : u.isSendable = true) :
    u.withoutUser.isSendable = true := by
  have hlength : u.withoutUser.text.utf8ByteSize ≤ u.text.utf8ByteSize := by
    cases hhost : u.host with
    | none => simp [text, authorityText, pathGuard, withoutUser, hhost]
    | some host =>
      simp only [text, authorityText, pathGuard, withoutUser, hhost, String.utf8ByteSize_append]
      simp
  simp only [isSendable, Bool.and_eq_true, decide_eq_true_eq] at h ⊢
  exact ⟨h.1, Nat.le_trans hlength h.2⟩

namespace Client

variable {c : Client} {path : String}

/-- A request to the path is one that can be sent: base URL and path make a URL, there is somebody
to connect to, and the protocol is the client's. -/
def Serves (c : Client) (path : String) : Prop :=
  ∃ u, Url.parse? (c.baseUrl ++ path) = some u ∧ u.hasHost = true ∧ u.isSendable = true

/-- The request is a call of the path with this form. -/
structure Asks (c : Client) (method : Method) (path : String)
    (form : Option (List (String × String))) (r : Request) : Prop where
  method : r.method = method
  url : ∃ u, Url.parse? (c.baseUrl ++ path) = some u ∧ (r.url = u ∨ r.url = u.withoutUser)
  form : r.form = form

/-- One call of the path has been sent, and nothing else. -/
def Sends (c : Client) (method : Method) (path : String) (form : Option (List (String × String)))
    (sent : List Request) : Prop :=
  ∃ r, sent = [r] ∧ c.Asks method path form r

theorem exists_request (h : c.Serves path) (method : Method) (profile : CallProfile) :
    ∃ r, c.request method path profile = .ok r ∧ c.Asks method path none r ∧
      r.url.isSendable = true := by
  obtain ⟨u, hu, hhost, hsend⟩ := h
  unfold request Request.make
  simp only [hu, hhost, if_true]
  cases u.login? with
  | none => exact ⟨_, rfl, ⟨rfl, ⟨u, hu, .inl rfl⟩, rfl⟩, hsend⟩
  | some login =>
    exact ⟨_, rfl, ⟨rfl, ⟨u, hu, .inr rfl⟩, rfl⟩, Url.isSendable_withoutUser hsend⟩

end Client

namespace Live

/-- What of these requests reaches the peer. -/
def reached (l : Live) (sent : List Request) : List Request :=
  if l.peer.accepts then sent else []

theorem reached_of_error {l : Live} {request : Except Fault Request} {r : Request} {why : Fault}
    (hreq : request = .ok r) (hurl : r.url.isSendable = true)
    (h : Client.reaching l.peer.accepts request = .error why) : l.reached [r] = [] := by
  rw [hreq, Client.reaching, if_pos hurl] at h
  split at h
  · cases h
  · exact if_neg ‹_›

theorem reached_of_ok {l : Live} {request : Except Fault Request} {r r' : Request}
    (hreq : request = .ok r) (h : Client.reaching l.peer.accepts request = .ok r') :
    r = r' ∧ l.reached [r] = [r] := by
  obtain ⟨hr, haccepts⟩ := Client.reaching_eq_ok h
  exact ⟨Except.ok.inj (hreq.symm.trans hr), if_pos haccepts⟩

theorem reached_append (l : Live) (sent sent' : List Request) :
    l.reached (sent ++ sent') = l.reached sent ++ l.reached sent' := by
  unfold reached
  split <;> rfl

theorem reached_congr {l m : Live} (h : l.peer.accepts = m.peer.accepts) (sent : List Request) :
    l.reached sent = m.reached sent := by
  rw [reached, reached, h]

@[simp] theorem requests_heard (l : Live) (r : Request) :
    (l.heard r).requests = l.requests ++ [r] := by
  simp [requests_eq]

end Live

namespace Session

variable {s : Session} {now : Instant} {l l' : Live}

/-! ## The calls do not look back -/

theorem refresh_blind : s.refresh.Blind := by
  refine .bind .tokens fun t => ?_
  split
  · exact .fail _
  · refine .bind (.log _) fun _ => ?_
    refine .bind (.mapFailure _ Client.fetch_blind) fun e => ?_
    refine .bind (.ofExcept _) fun grant => ?_
    refine .bind .tokens fun old => .bind (.setTokens _) fun _ => ?_
    exact .bind (.secondsFromNow _) fun t => .bind (.setTokens _) fun _ => .log _

theorem authenticate_blind : s.authenticate.Blind := by
  unfold authenticate
  split
  · refine .bind (.log _) fun _ => ?_
    refine .bind (.mapFailure _ Client.fetch_blind) fun e => ?_
    refine .bind (.ofExcept _) fun grant => .bind (.log _) fun _ => ?_
    exact .bind (.secondsFromNow _) fun t => .setTokens _
  · exact .fail _

theorem renew_blind : s.renew.Blind :=
  refresh_blind.recover fun _ => .bind (.log _) fun _ => authenticate_blind

theorem ensureValid_blind : s.ensureValid.Blind := by
  have hhandOut : handOut.Blind := by
    refine .bind .tokens fun t => ?_
    split
    · exact .pure _
    · exact .fail _
  refine .bind (.bind .now fun _ => .bind .tokens fun _ => .pure _) fun state => ?_
  split
  · exact .bind (.log _) fun _ => .bind renew_blind fun _ => hhandOut
  · exact hhandOut

/-! ## One request each -/

theorem exists_refreshRequest (h : s.client.Serves refreshPath) (token : String) :
    ∃ r, s.refreshRequest token = .ok r ∧ r.url.isSendable = true ∧
      s.client.Asks .post refreshPath (some [("refresh_token", token)]) r := by
  obtain ⟨r, hr, hasks, hsend⟩ := Client.exists_request h .post .standard
  refine ⟨r.withForm [("refresh_token", token)], ?_, hsend, hasks.method, hasks.url, rfl⟩
  rw [refreshRequest, hr]
  rfl

theorem exists_authenticateRequest (h : s.client.Serves authenticatePath)
    (hkey : isHeaderValue s.credentials.apiKey = true)
    (hsecret : isHeaderValue s.credentials.apiSecret = true) :
    ∃ r, s.authenticateRequest = .ok r ∧ r.url.isSendable = true ∧
      s.client.Asks .get authenticatePath none r := by
  obtain ⟨r, hr, hasks, hsend⟩ := Client.exists_request h .get .standard
  have hreq : s.authenticateRequest = .ok { r with headers :=
      r.headers ++ [("x-api-key", s.credentials.apiKey)] ++
        [("x-api-secret", s.credentials.apiSecret)] } := by
    simp only [authenticateRequest, hr, Request.withHeader, hkey, hsecret, if_true]
    rfl
  exact ⟨_, hreq, hsend, hasks.method, hasks.url, hasks.form⟩

/-- What a refresh sends: the refresh token, if it can be used. -/
def RefreshSends (s : Session) (l : Live) (sent : List Request) : Prop :=
  match shownToken l with
  | none => sent = []
  | some token => s.client.Sends .post refreshPath (some [("refresh_token", token)]) sent

/-- What showing the credentials sends, if they are worth it. -/
def AuthSends (s : Session) (sent : List Request) : Prop :=
  if s.hasCredentials then s.client.Sends .get authenticatePath none sent else sent = []

theorem RefreshSends.one {token : String} {r : Request} (hk : shownToken l = some token)
    (h : s.client.Asks .post refreshPath (some [("refresh_token", token)]) r) :
    s.RefreshSends l [r] := by
  rw [RefreshSends, hk]
  exact ⟨r, rfl, h⟩

theorem AuthSends.one {r : Request} (hc : s.hasCredentials = true)
    (h : s.client.Asks .get authenticatePath none r) : s.AuthSends [r] := by
  rw [AuthSends, if_pos hc]
  exact ⟨r, rfl, h⟩

theorem RefreshSends.length_le {sent : List Request} (h : s.RefreshSends l sent) :
    sent.length ≤ 1 := by
  unfold RefreshSends at h
  split at h
  · simp [h]
  · obtain ⟨r, rfl, -⟩ := h
    simp

theorem AuthSends.length_le {sent : List Request} (h : s.AuthSends sent) : sent.length ≤ 1 := by
  unfold AuthSends at h
  split at h
  · obtain ⟨r, rfl, -⟩ := h
    simp
  · simp [h]

theorem refresh_sends {result : Except (Stop Fault) Unit} (hs : s.client.Serves refreshPath)
    (h : s.refresh.exec now l = (result, l')) :
    l'.peer.accepts = l.peer.accepts ∧
      ∃ sent, l'.requests = l.requests ++ l.reached sent ∧ s.RefreshSends l sent := by
  cases refresh_course h with
  | noToken hk =>
    refine ⟨rfl, [], by simp [Live.reached], ?_⟩
    rw [RefreshSends, hk]
  | unsent hk hr =>
    obtain ⟨r, hreq, hsend, hasks⟩ := exists_refreshRequest hs _
    have hlost := Live.reached_of_error hreq hsend hr
    exact ⟨rfl, [r], by simp [hlost], .one hk hasks⟩
  | refused hk hr | outside hk hr | granted hk hr =>
    obtain ⟨r, hreq, -, hasks⟩ := exists_refreshRequest hs _
    obtain ⟨rfl, hreached⟩ := Live.reached_of_ok hreq hr
    exact ⟨rfl, [r], by simp [hreached], .one hk hasks⟩

theorem authenticate_sends {result : Except (Stop Fault) Unit}
    (hs : s.client.Serves authenticatePath) (hkey : isHeaderValue s.credentials.apiKey = true)
    (hsecret : isHeaderValue s.credentials.apiSecret = true)
    (h : s.authenticate.exec now l = (result, l')) :
    l'.peer.accepts = l.peer.accepts ∧
      ∃ sent, l'.requests = l.requests ++ l.reached sent ∧ s.AuthSends sent := by
  obtain ⟨r, hreq, hsend, hasks⟩ := exists_authenticateRequest hs hkey hsecret
  cases authenticate_course h with
  | noCredentials hc =>
    refine ⟨rfl, [], by simp [Live.reached], ?_⟩
    rw [AuthSends, if_neg (by simp [hc])]
  | unsent hc hr =>
    have hlost := Live.reached_of_error hreq hsend hr
    exact ⟨rfl, [r], by simp [hlost], .one hc hasks⟩
  | refused hc hr | outside hc hr | granted hc hr =>
    obtain ⟨rfl, hreached⟩ := Live.reached_of_ok hreq hr
    exact ⟨rfl, [r], by simp [hreached], .one hc hasks⟩

/-! ## The whole call

How `ensureValid` ends is told from what the two calls do in the situation in which it starts. That
it has written to the log by then makes no difference to them.
-/

theorem alike_renewing (now : Instant) (l : Live) : l.Alike (renewing now l) := .logged l _

section Whole

variable {l₁ l₂ : Live} {t : Tokens} {why : Fault}

theorem exec_ensureValid_refreshed (hv : ¬ holdsValid now l)
    (hr : s.refresh.exec now l = (.ok (), l₁)) (ht : l₁.tokens = some t) :
    ∃ m, s.ensureValid.exec now l = (.ok t.accessToken, m) ∧ l₁.Alike m := by
  obtain ⟨m, hm, halike⟩ := refresh_blind.alike (alike_renewing now l) hr
  refine ⟨m, ?_, halike⟩
  rw [exec_ensureValid_renewing hv, Act.exec_bind_ok (exec_renew_ok hm),
    exec_handOut (halike.tokens ▸ ht)]

theorem exec_ensureValid_lost (hv : ¬ holdsValid now l)
    (hr : s.refresh.exec now l = (.error .outsideCalendar, l₁)) :
    ∃ m, s.ensureValid.exec now l = (.error .outsideCalendar, m) ∧ l₁.Alike m := by
  obtain ⟨m, hm, halike⟩ := refresh_blind.alike (alike_renewing now l) hr
  refine ⟨m, ?_, halike⟩
  rw [exec_ensureValid_renewing hv, Act.exec_bind_error (exec_renew_lost hm)]

theorem exec_ensureValid_authenticated (hv : ¬ holdsValid now l)
    (hr : s.refresh.exec now l = (.error (.failed why), l₁))
    (ha : s.authenticate.exec now l₁ = (.ok (), l₂)) (ht : l₂.tokens = some t) :
    ∃ m, s.ensureValid.exec now l = (.ok t.accessToken, m) ∧ l₂.Alike m := by
  obtain ⟨m₁, hm₁, halike₁⟩ := refresh_blind.alike (alike_renewing now l) hr
  obtain ⟨m, hm, halike⟩ := authenticate_blind.alike (halike₁.trans (.logged m₁ _)) ha
  refine ⟨m, ?_, halike⟩
  rw [exec_ensureValid_renewing hv, Act.exec_bind_ok ((exec_renew_failed hm₁).trans hm),
    exec_handOut (halike.tokens ▸ ht)]

theorem exec_ensureValid_refused {stop : Stop Fault} (hv : ¬ holdsValid now l)
    (hr : s.refresh.exec now l = (.error (.failed why), l₁))
    (ha : s.authenticate.exec now l₁ = (.error stop, l₂)) :
    ∃ m, s.ensureValid.exec now l = (.error stop, m) ∧ l₂.Alike m := by
  obtain ⟨m₁, hm₁, halike₁⟩ := refresh_blind.alike (alike_renewing now l) hr
  obtain ⟨m, hm, halike⟩ := authenticate_blind.alike (halike₁.trans (.logged m₁ _)) ha
  refine ⟨m, ?_, halike⟩
  rw [exec_ensureValid_renewing hv, Act.exec_bind_error ((exec_renew_failed hm₁).trans hm)]

end Whole

/-- **What a session does for a token.** While the one it holds lasts, nothing. After that a refresh
if there is a token for it, and the credentials only if the refresh has failed for a reason that can
be dealt with: then their result is the result. -/
theorem ensureValid_sends (s : Session) (now : Instant) (l : Live)
    (hrefresh : s.client.Serves refreshPath) (hauth : s.client.Serves authenticatePath)
    (hkey : isHeaderValue s.credentials.apiKey = true)
    (hsecret : isHeaderValue s.credentials.apiSecret = true) :
    (∀ t, l.tokens = some t → t.isExpired now = false →
      s.ensureValid.exec now l = (.ok t.accessToken, l)) ∧
    ((∀ t, l.tokens = some t → t.isExpired now = true) →
      ∃ result l' first second, s.ensureValid.exec now l = (result, l') ∧
        l'.requests = l.requests ++ l.reached (first ++ second) ∧
        first.length + second.length ≤ 2 ∧ s.RefreshSends l first ∧
        match s.refresh.exec now l with
        | (.ok (), l₁) =>
          second = [] ∧ l'.tokens = l₁.tokens ∧ ∃ t, l₁.tokens = some t ∧ result = .ok t.accessToken
        | (.error .outsideCalendar, _) => second = [] ∧ result = .error .outsideCalendar
        | (.error (.failed _), l₁) =>
          s.AuthSends second ∧
          match s.authenticate.exec now l₁ with
          | (.ok (), l₂) =>
            l'.tokens = l₂.tokens ∧ ∃ t, l₂.tokens = some t ∧ result = .ok t.accessToken
          | (.error why, l₂) => l'.tokens = l₂.tokens ∧ result = .error why) := by
  refine ⟨fun t ht hexpired => ?_, fun hexpired => ?_⟩
  · have hv : holdsValid now l := by
      simp [holdsValid, SessionState.ofTokens, ht, hexpired]
    rw [exec_ensureValid_held hv, exec_handOut ht]
  · have hv : ¬ holdsValid now l := by
      cases ht : l.tokens with
      | none => simp [holdsValid, SessionState.ofTokens, ht]
      | some t => simp [holdsValid, SessionState.ofTokens, ht, hexpired t ht]
    rcases hr : s.refresh.exec now l with ⟨(why | _) | _, l₁⟩
    · obtain ⟨haccepts, first, hfirst, hfirst'⟩ := refresh_sends hrefresh hr
      rcases ha : s.authenticate.exec now l₁ with ⟨stop | _, l₂⟩
      all_goals
        obtain ⟨-, second, hsecond, hsecond'⟩ := authenticate_sends hauth hkey hsecret ha
        have hsent : l₂.requests = l.requests ++ l.reached (first ++ second) := by
          rw [hsecond, hfirst, Live.reached_append, Live.reached_congr haccepts, List.append_assoc]
        have hlength := Nat.add_le_add hfirst'.length_le hsecond'.length_le
      · obtain ⟨m, hm, halike⟩ := exec_ensureValid_refused hv hr ha
        refine ⟨_, m, first, second, hm, halike.requests ▸ hsent, hlength, hfirst', hsecond', ?_⟩
        rw [ha]
        exact ⟨halike.tokens.symm, rfl⟩
      · obtain ⟨t, ht⟩ := tokens_of_authenticate ha
        obtain ⟨m, hm, halike⟩ := exec_ensureValid_authenticated hv hr ha ht
        refine ⟨_, m, first, second, hm, halike.requests ▸ hsent, hlength, hfirst', hsecond', ?_⟩
        rw [ha]
        exact ⟨halike.tokens.symm, t, ht, rfl⟩
    · obtain ⟨-, first, hfirst, hfirst'⟩ := refresh_sends hrefresh hr
      obtain ⟨m, hm, halike⟩ := exec_ensureValid_lost hv hr
      refine ⟨_, m, first, [], hm, ?_, ?_, hfirst', rfl, rfl⟩
      · rw [← halike.requests, hfirst, List.append_nil]
      · exact Nat.le_succ_of_le hfirst'.length_le
    · obtain ⟨-, first, hfirst, hfirst'⟩ := refresh_sends hrefresh hr
      obtain ⟨t, ht⟩ := tokens_of_refresh hr
      obtain ⟨m, hm, halike⟩ := exec_ensureValid_refreshed hv hr ht
      refine ⟨_, m, first, [], hm, ?_, ?_, hfirst', rfl, halike.tokens.symm, t, ht, rfl⟩
      · rw [← halike.requests, hfirst, List.append_nil]
      · exact Nat.le_succ_of_le hfirst'.length_le

theorem sample_serves_refresh : sample.client.Serves refreshPath :=
  ⟨⟨"http", "", none, some "h", none, "/refresh_token", none, none⟩, by decide +kernel, by decide,
    by decide +kernel⟩

theorem sample_serves_authenticate : sample.client.Serves authenticatePath :=
  ⟨⟨"http", "", none, some "h", none, "/authenticate", none, none⟩, by decide +kernel, by decide,
    by decide +kernel⟩

/-- Tokens that have ended, and a peer that answers nothing. -/
def sampleEnded : Live := ⟨some ⟨"old", some "again", .epoch⟩, ⟨true, []⟩, []⟩

theorem ensureValid_sends_both : ∃ result l' first second,
    sample.ensureValid.exec .epoch sampleEnded = (result, l') ∧ l'.requests = first ++ second ∧
      sample.client.Sends .post refreshPath (some [("refresh_token", "again")]) first ∧
      sample.client.Sends .get authenticatePath none second ∧
      result = .error (.failed (.authenticationFailed (.notAnswered "http://h/authenticate"))) := by
  have hended : ∀ t, sampleEnded.tokens = some t → t.isExpired .epoch = true := by
    intro t ht
    cases ht
    decide
  obtain ⟨result, l', first, second, hexec, hsent, -, hfirst, hrest⟩ :=
    (ensureValid_sends sample .epoch sampleEnded sample_serves_refresh sample_serves_authenticate
      (by decide) (by decide)).2 hended
  have hr : (sample.refresh.exec .epoch sampleEnded).1 =
      .error (.failed (.refreshFailed (.notAnswered "http://h/refresh_token"))) := by
    decide +kernel
  have ha : (sample.authenticate.exec .epoch (sample.refresh.exec .epoch sampleEnded).2).1 =
      .error (.failed (.authenticationFailed (.notAnswered "http://h/authenticate"))) := by
    decide +kernel
  refine ⟨result, l', first, second, hexec, hsent, hfirst, ?_⟩
  generalize sample.refresh.exec .epoch sampleEnded = out at hr ha hrest
  obtain ⟨_, l₁⟩ := out
  cases hr
  obtain ⟨hsecond, hrest⟩ := hrest
  generalize sample.authenticate.exec .epoch l₁ = out at ha hrest
  obtain ⟨_, l₂⟩ := out
  cases ha
  exact ⟨hsecond, hrest.2⟩

end Session
end RemoteDrive
