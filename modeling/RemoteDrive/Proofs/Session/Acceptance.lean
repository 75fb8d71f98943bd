import RemoteDrive.Proofs.Session.Overrun
import RemoteDrive.Proofs.Session.Reply

/-!
# Which replies are accepted

Showing the credentials and showing the refresh token come to the same few ends (`Judged`): what
comes back grants nothing, and the call has failed; it grants tokens that would end outside the
calendar, and the call stops; or it grants tokens, and these are held. So which replies let the
session in, and what it holds then, is settled by what a reply grants (`authenticate_accepts`,
`refresh_accepts`).

A call that does not reach the peer fails like one whose connection is closed, and both are one case
here (`Live.replyTo`). A refresh that has failed has one thing more to say: where the service has
refused the token in certain words (`Reply.Disowns`), the text tells the host that it cannot be used
any more.
-/

set_option autoImplicit false

namespace RemoteDrive

open Json (FirstUnder)

/-! ## What the text of a failure says -/

/-- The message is one of the two that say what is wrong with a refresh token. -/
def Session.SaysUnusable (fields : List (String × Json)) : Prop :=
  ∃ words ∈ ["需要提供刷新令牌", "无效或过期的刷新令牌"],
    FirstUnder Json.text? ["message", "msg"] (.object fields) words

/-- The reply does not accept the refresh token, and says what is wrong with it. -/
def Reply.Disowns (reply : Reply) : Prop :=
  ∃ fields, reply.Brings fields ∧ ¬ Session.SaysRefreshed fields ∧ Session.SaysUnusable fields

/-- The text says that the refresh token cannot be used any more. -/
def Fault.FlagsToken (f : Fault) : Prop :=
  ∃ words, f.message =
    "Authentication failed: refresh token is likely invalid or expired: " ++ words

namespace Fault

theorem flagText_eq : "Authentication failed: refresh token is likely invalid or expired: " =
    FaultKind.auth.label ++ "refresh token is likely invalid or expired: " := by
  decide +kernel

theorem flagsToken_rejected (words : String) : (refreshTokenRejected words).FlagsToken := by
  refine ⟨words, ?_⟩
  rw [flagText_eq, String.append_assoc]
  rfl

theorem take_toList_append {text rest : String} (h : 9 ≤ text.toList.length) :
    (text ++ rest).toList.take 9 = text.toList.take 9 := by
  rw [String.toList_append, List.take_append_of_le_length h]

/-- Of the other texts about a refresh none begins in this way; nine characters tell them apart. -/
theorem not_flagsToken {f : Fault} (hkind : f.kind = .auth)
    (hdetail : f.detail.toList.take 9 ≠ "refresh t".toList) : ¬ f.FlagsToken := by
  rintro ⟨words, h⟩
  rw [message, hkind, flagText_eq, String.append_assoc] at h
  have hsame : f.detail.toList =
      ("refresh token is likely invalid or expired: " ++ words).toList := by
    have hlist := congrArg String.toList h
    rw [String.toList_append, String.toList_append] at hlist
    exact List.append_cancel_left hlist
  refine hdetail ?_
  rw [hsame, take_toList_append (by decide +kernel)]
  decide +kernel

theorem not_flagsToken_refreshFailed (cause : Fault) : ¬ (refreshFailed cause).FlagsToken := by
  refine not_flagsToken rfl ?_
  change ("refresh request failed: " ++ cause.kind.label ++ cause.detail).toList.take 9 ≠ _
  rw [String.append_assoc, take_toList_append (by decide +kernel)]
  decide +kernel

theorem not_flagsToken_refreshRejected (words : String) :
    ¬ (refreshRejected words).FlagsToken := by
  refine not_flagsToken rfl ?_
  change ("refresh rejected: " ++ words).toList.take 9 ≠ _
  rw [take_toList_append (by decide +kernel)]
  decide +kernel

end Fault

namespace Session

variable {r : Request} {reply : Reply} {why : Fault}

theorem refreshGrant_eq_error {e : Envelope} (h : refreshGrant e = .error why) :
    isRefreshed e = false ∧ why = refreshRejection e ∨
      isRefreshed e = true ∧
        (why = .unreadableTokens .unexpectedData ∨ why = .refreshIncomplete) := by
  cases hrefreshed : isRefreshed e with
  | false =>
    rw [refreshGrant, hrefreshed] at h
    cases h
    exact .inl ⟨rfl, rfl⟩
  | true =>
    refine .inr ⟨rfl, ?_⟩
    rw [refreshGrant, if_pos hrefreshed] at h
    rcases bind_eq_error h with h | ⟨grant, -, h⟩
    · cases hread : e.dataAs .empty RefreshGrant.read? with
      | ok grant => simp [hread] at h
      | error cause =>
        rw [hread] at h
        cases h
        rw [Envelope.dataAs_eq_error hread]
        exact .inl rfl
    · split at h
      · cases h
        exact .inr rfl
      · cases h

theorem kind_of_refreshGrant {e : Envelope} (h : refreshGrant e = .error why) :
    why.kind = .auth := by
  rcases refreshGrant_eq_error h with ⟨-, rfl⟩ | ⟨-, rfl | rfl⟩
  · unfold refreshRejection
    split <;> rfl
  · rfl
  · rfl

theorem kind_of_refreshOutcome (h : refreshOutcome r reply = .error why) : why.kind = .auth :=
  kind_of_grantIn (fun _ => rfl) (fun _ _ => kind_of_refreshGrant) h

theorem flagsToken_rejection_iff {fields : List (String × Json)} :
    (refreshRejection (.ofObject .service (.object fields))).FlagsToken ↔
      SaysUnusable fields := by
  simp only [SaysUnusable, ← Json.firstOf_eq_some_iff]
  unfold refreshRejection
  have hmessage : (Envelope.ofObject .service (.object fields)).message =
      (Json.object fields).firstOf Json.text? ["message", "msg"] := rfl
  rw [hmessage]
  cases hfirst : (Json.object fields).firstOf Json.text? ["message", "msg"] with
  | none =>
    simp [Fault.not_flagsToken_refreshRejected]
  | some words =>
    simp only [Option.any_some, List.contains_eq_mem, decide_eq_true_eq, Option.some.injEq]
    -- the words alone decide which of the two texts it is
    split
    · rename_i hmem
      exact iff_of_true (Fault.flagsToken_rejected _) ⟨words, hmem, rfl⟩
    · rename_i hmem
      refine iff_of_false (Fault.not_flagsToken_refreshRejected _) ?_
      rintro ⟨_, hmem', rfl⟩
      exact hmem hmem'

theorem disowns_iff {fields : List (String × Json)} (h : reply.Brings fields) :
    reply.Disowns ↔ ¬ SaysRefreshed fields ∧ SaysUnusable fields := by
  constructor
  · rintro ⟨_, h', hrest⟩
    cases h.unique h'
    exact hrest
  · intro hrest
    exact ⟨fields, h, hrest⟩

/-- The text of a failed refresh says that the token cannot be used exactly if the reply does. -/
theorem flagsToken_iff_disowns (h : refreshOutcome r reply = .error why) :
    why.FlagsToken ↔ reply.Disowns := by
  rcases bind_eq_error h with h | ⟨e, he, h⟩
  · cases hreply : Client.outcome .service r reply with
    | ok e => simp [hreply] at h
    | error cause =>
      rw [hreply] at h
      cases h
      refine iff_of_false (Fault.not_flagsToken_refreshFailed cause) ?_
      rintro ⟨fields, hbrings, -⟩
      cases hreply.symm.trans (Client.outcome_eq_ok_iff.mpr ⟨fields, hbrings, rfl⟩)
  · obtain ⟨fields, hbrings, rfl⟩ := Client.outcome_eq_ok_iff.mp (mapError_eq_ok_iff.mp he)
    rw [disowns_iff hbrings, ← isRefreshed_iff, ← flagsToken_rejection_iff]
    rcases refreshGrant_eq_error h with ⟨hrefreshed, rfl⟩ | ⟨hrefreshed, rfl | rfl⟩
    · simp [hrefreshed]
    all_goals
      refine iff_of_false (Fault.not_flagsToken rfl (by decide +kernel)) ?_
      exact fun hrest => hrest.1 hrefreshed

end Session

/-! ## The calls -/

/-- What comes back to a request: the peer's next reply if it is reached, and otherwise no more than
if it had closed the connection. -/
def Live.replyTo (l : Live) (request : Except Fault Request) : Reply :=
  match Client.reaching l.peer.accepts request with
  | .ok _ => l.nextReply
  | .error _ => .closed

namespace Live

variable {l : Live} {request : Except Fault Request} {r : Request}

theorem replyTo_of_ok (h : Client.reaching l.peer.accepts request = .ok r) :
    l.replyTo request = l.nextReply := by
  rw [replyTo, h]

theorem replyTo_of_error {why : Fault} (h : Client.reaching l.peer.accepts request = .error why) :
    l.replyTo request = .closed := by
  rw [replyTo, h]

theorem replyTo_of_sendable (hr : request = .ok r) (hurl : r.url.isSendable = true)
    (haccepts : l.peer.accepts = true) : l.replyTo request = l.nextReply := by
  refine replyTo_of_ok (r := r) ?_
  rw [hr, haccepts, Client.reaching_of_sendable hurl]

end Live

namespace Session

/-- How a call ends that goes by what comes back to it. `grants` says what that grants, and `made`
which tokens are made of a grant. -/
structure Judged {γ : Type} (now : Instant) (grants : γ → Prop) (lifetime : γ → Int64)
    (made : γ → Instant → Tokens) (result : Except (Stop Fault) Unit) (l' : Live) : Prop where
  succeeds : result = .ok () ↔ ∃ g, grants g ∧ ¬ now.Overruns (lifetime g).toInt
  tokens : ∀ g t, grants g → now.addSeconds? (lifetime g).toInt = some t →
    l'.tokens = some (made g t)
  overruns : ∀ g, grants g → now.Overruns (lifetime g).toInt → result = .error .outsideCalendar
  refused : (∀ g, ¬ grants g) → ∃ why, result = .error (.failed why) ∧ why.kind = .auth

namespace Judged

variable {γ : Type} {now : Instant} {grants : γ → Prop} {lifetime : γ → Int64}
  {made : γ → Instant → Tokens} {l' : Live} {g : γ}

theorem of_none {why : Fault} (hnone : ∀ g, ¬ grants g) (hkind : why.kind = .auth) :
    Judged now grants lifetime made (.error (.failed why)) l' where
  succeeds := by
    refine iff_of_false (by simp) ?_
    rintro ⟨g, hg, -⟩
    exact hnone g hg
  tokens g t hg := absurd hg (hnone g)
  overruns g hg := absurd hg (hnone g)
  refused _ := ⟨why, rfl, hkind⟩

theorem of_outside (hg : ∀ g', grants g' ↔ g' = g)
    (ht : now.addSeconds? (lifetime g).toInt = none) :
    Judged now grants lifetime made (.error .outsideCalendar) l' where
  succeeds := by
    refine iff_of_false (by simp) ?_
    rintro ⟨g', hg', hwithin⟩
    obtain rfl := (hg g').mp hg'
    exact hwithin ((Instant.addSeconds?_eq_none_iff _ _).mp ht)
  tokens g' t hg' ht' := by
    obtain rfl := (hg g').mp hg'
    cases ht.symm.trans ht'
  overruns _ _ _ := rfl
  refused hnone := absurd ((hg g).mpr rfl) (hnone g)

theorem of_granted {t : Instant} (hg : ∀ g', grants g' ↔ g' = g)
    (ht : now.addSeconds? (lifetime g).toInt = some t) (hl : l'.tokens = some (made g t)) :
    Judged now grants lifetime made (.ok ()) l' where
  succeeds := by
    refine iff_of_true rfl ⟨g, (hg g).mpr rfl, fun hover => ?_⟩
    cases ht.symm.trans ((Instant.addSeconds?_eq_none_iff _ _).mpr hover)
  tokens g' t' hg' ht' := by
    obtain rfl := (hg g').mp hg'
    cases ht.symm.trans ht'
    exact hl
  overruns g' hg' hover := by
    obtain rfl := (hg g').mp hg'
    cases ht.symm.trans ((Instant.addSeconds?_eq_none_iff _ _).mpr hover)
  refused hnone := absurd ((hg g).mpr rfl) (hnone g)

end Judged

variable {s : Session} {now : Instant} {l : Live}

/-! ### The credentials -/

theorem authenticate_judged (hc : s.hasCredentials = true) {result : Except (Stop Fault) Unit}
    {l' : Live} (h : s.authenticate.exec now l = (result, l')) :
    Judged now (l.replyTo s.authenticateRequest).Admits AuthGrant.lifetime
      (fun g t => ⟨g.accessToken, some g.refreshToken, t⟩) result l' := by
  cases authenticate_course h with
  | noCredentials hc' =>
    rw [hc] at hc'
    cases hc'
  | unsent _ hr =>
    rw [Live.replyTo_of_error hr]
    refine .of_none (fun g hadmits => ?_) rfl
    obtain ⟨fields, hbrings, -⟩ := hadmits
    exact Reply.not_brings_closed fields hbrings
  | refused _ hr hg =>
    rw [Live.replyTo_of_ok hr]
    exact .of_none (not_admits hg) (kind_of_authOutcome hg)
  | outside _ hr hg ht =>
    rw [Live.replyTo_of_ok hr]
    exact .of_outside (fun _ => admits_iff_eq hg) ht
  | granted _ hr hg ht =>
    rw [Live.replyTo_of_ok hr]
    exact .of_granted (fun _ => admits_iff_eq hg) ht rfl

/-- **A session is let in by exactly the replies that admit it.** Without credentials that are worth
showing it sends nothing, and its configuration is at fault. With them it succeeds if what comes
back grants tokens whose end the calendar has, and then it holds just these. Whatever else comes
back, it was not let in. -/
theorem authenticate_accepts (s : Session) (now : Instant) (l : Live) :
    (s.hasCredentials = false →
      ∃ why, s.authenticate.exec now l = (.error (.failed why), l) ∧ why.kind = .config) ∧
    (s.hasCredentials = true → ∃ result l', s.authenticate.exec now l = (result, l') ∧
      Judged now (l.replyTo s.authenticateRequest).Admits AuthGrant.lifetime
        (fun g t => ⟨g.accessToken, some g.refreshToken, t⟩) result l') ∧
    (s.client.Serves authenticatePath → isHeaderValue s.credentials.apiKey = true →
      isHeaderValue s.credentials.apiSecret = true → l.peer.accepts = true →
      l.replyTo s.authenticateRequest = l.nextReply) := by
  refine ⟨fun hc => ?_, fun hc => ⟨_, _, rfl, authenticate_judged hc rfl⟩, ?_⟩
  · rcases h : s.authenticate.exec now l with ⟨result, l'⟩
    cases authenticate_course h with
    | noCredentials => exact ⟨_, rfl, rfl⟩
    | unsent hc' | refused hc' | outside hc' | granted hc' =>
      rw [hc] at hc'
      cases hc'
  · intro hs hkey hsecret haccepts
    obtain ⟨r, hr, hsend, -⟩ := exists_authenticateRequest hs hkey hsecret
    exact Live.replyTo_of_sendable hr hsend haccepts

/-- An answer that is accepted for its words, with a payload that lists its values. -/
def sampleListed : Reply := answering
  "\x7b\"status\":500.5,\"message\":\"认证成功\",\"data\":[\"a\",\"r\",60]\x7d"

theorem sampleListed_admits : sampleListed.Admits ⟨"a", "r", 60, none⟩ :=
  (authOutcome_eq_ok_iff (r := Client.sampleRequest)).mp (by decide +kernel)

/-- Nothing is held, and the peer will accept the credentials in those words. -/
def sampleOutside : Live := ⟨none, ⟨true, [sampleListed]⟩, []⟩

theorem sample_minute :
    ∃ t, Instant.epoch.addSeconds? 60 = some t ∧ ¬ Instant.epoch.Overruns 60 := by
  have hne : Instant.epoch.addSeconds? 60 ≠ none := by decide
  obtain ⟨t, ht⟩ := Option.ne_none_iff_exists'.mp hne
  exact ⟨t, ht, mt (Instant.addSeconds?_eq_none_iff _ _).mpr hne⟩

/-- A session without a secret that is worth showing. -/
def sampleBlank : Session := ⟨sample.client, ⟨"key", " "⟩⟩

theorem authenticate_accepts_listed :
    (∃ why, sampleBlank.authenticate.exec .epoch sampleOutside =
      (.error (.failed why), sampleOutside) ∧ why.kind = .config) ∧
    ∃ l' t, sample.authenticate.exec .epoch sampleOutside = (.ok (), l') ∧
      Instant.epoch.addSeconds? 60 = some t ∧ l'.tokens = some ⟨"a", some "r", t⟩ := by
  refine ⟨(authenticate_accepts sampleBlank .epoch sampleOutside).1 (by decide +kernel), ?_⟩
  obtain ⟨-, hjudged, hreply⟩ := authenticate_accepts sample .epoch sampleOutside
  obtain ⟨result, l', hexec, hjudged⟩ := hjudged (by decide)
  have hadmits : (sampleOutside.replyTo sample.authenticateRequest).Admits
      ⟨"a", "r", 60, none⟩ := by
    rw [hreply sample_serves_authenticate (by decide) (by decide) rfl]
    exact sampleListed_admits
  obtain ⟨t, ht, hwithin⟩ := sample_minute
  obtain rfl : result = .ok () := hjudged.succeeds.mpr ⟨_, hadmits, hwithin⟩
  exact ⟨l', t, hexec, ht, hjudged.tokens _ t hadmits ht⟩

/-! ### The refresh token -/

theorem shownToken_eq_some_iff {token : String} :
    shownToken l = some token ↔
      ∃ t, l.tokens = some t ∧ t.refreshToken = some token ∧ token ≠ "" := by
  simp only [shownToken, Tokens.usableRefresh?, Option.bind_eq_some_iff, Option.filter_eq_some_iff,
    decide_eq_true_eq]

/-- A refresh keeps the token that it has shown, unless it is granted another. -/
theorem keptRefresh_of_shown {token : String} (hk : shownToken l = some token) (g : RefreshGrant) :
    keptRefresh g l.tokens = some ((g.refreshToken.filter (· ≠ "")).getD token) := by
  obtain ⟨t, ht, hrefresh, -⟩ := shownToken_eq_some_iff.mp hk
  rw [keptRefresh, ht, Option.bind_some, hrefresh]
  cases g.refreshToken.filter (· ≠ "") <;> rfl

theorem refresh_judged {token : String} (hk : shownToken l = some token)
    {result : Except (Stop Fault) Unit} {l' : Live} (h : s.refresh.exec now l = (result, l')) :
    Judged now (l.replyTo (s.refreshRequest token)).Renews RefreshGrant.lifetime
      (fun g t => ⟨g.accessToken, some ((g.refreshToken.filter (· ≠ "")).getD token), t⟩)
      result l' ∧
    ∀ why, result = .error (.failed why) →
      (why.FlagsToken ↔ (l.replyTo (s.refreshRequest token)).Disowns) := by
  cases refresh_course h with
  | noToken hk' =>
    rw [hk] at hk'
    cases hk'
  | unsent hk' hr =>
    -- each case has a token of its own that was shown, which is this one
    cases hk.symm.trans hk'
    rw [Live.replyTo_of_error hr]
    refine ⟨.of_none (fun g hrenews => ?_) rfl, fun why hwhy => ?_⟩
    · obtain ⟨fields, hbrings, -⟩ := hrenews
      exact Reply.not_brings_closed fields hbrings
    · cases hwhy
      refine iff_of_false (Fault.not_flagsToken_refreshFailed _) ?_
      rintro ⟨fields, hbrings, -⟩
      exact Reply.not_brings_closed fields hbrings
  | refused hk' hr hg =>
    cases hk.symm.trans hk'
    rw [Live.replyTo_of_ok hr]
    refine ⟨.of_none (not_renews hg) (kind_of_refreshOutcome hg), fun why hwhy => ?_⟩
    cases hwhy
    exact flagsToken_iff_disowns hg
  | outside hk' hr hg ht =>
    cases hk.symm.trans hk'
    rw [Live.replyTo_of_ok hr]
    exact ⟨.of_outside (fun _ => renews_iff_eq hg) ht, fun why hwhy => by cases hwhy⟩
  | granted hk' hr hg ht =>
    cases hk.symm.trans hk'
    rw [Live.replyTo_of_ok hr]
    refine ⟨.of_granted (fun _ => renews_iff_eq hg) ht ?_, fun why hwhy => by cases hwhy⟩
    rw [← keptRefresh_of_shown hk]
    rfl

/-- **A session is refreshed by exactly the replies that renew its tokens.** Without a refresh token
that can be used it sends nothing. With one it sends one request, and succeeds if what comes back
grants an access token whose end the calendar has; the refresh token stays if no other is granted.
Whatever else comes back, the refresh was refused, and the text says that the token cannot be used
any more exactly if the service has said so. -/
theorem refresh_accepts (s : Session) (now : Instant) (l : Live) :
    (shownToken l = none →
      ∃ why, s.refresh.exec now l = (.error (.failed why), l) ∧ why.kind = .auth) ∧
    ∀ token, shownToken l = some token →
      ∃ result l', s.refresh.exec now l = (result, l') ∧
        Judged now (l.replyTo (s.refreshRequest token)).Renews RefreshGrant.lifetime
          (fun g t => ⟨g.accessToken, some ((g.refreshToken.filter (· ≠ "")).getD token), t⟩)
          result l' ∧
        (∀ why, result = .error (.failed why) →
          (why.FlagsToken ↔ (l.replyTo (s.refreshRequest token)).Disowns)) ∧
        (s.client.Serves refreshPath → l.peer.accepts = true →
          l.replyTo (s.refreshRequest token) = l.nextReply ∧
          ∃ r, s.client.Asks .post refreshPath (some [("refresh_token", token)]) r ∧
            l'.requests = l.requests ++ [r]) := by
  refine ⟨fun hk => ?_, fun token hk => ?_⟩
  · rcases h : s.refresh.exec now l with ⟨result, l'⟩
    cases refresh_course h with
    | noToken => exact ⟨_, rfl, rfl⟩
    | unsent hk' | refused hk' | outside hk' | granted hk' =>
      rw [hk] at hk'
      cases hk'
  · rcases h : s.refresh.exec now l with ⟨result, l'⟩
    obtain ⟨hjudged, hflags⟩ := refresh_judged hk h
    refine ⟨result, l', rfl, hjudged, hflags, fun hs haccepts => ⟨?_, ?_⟩⟩
    · obtain ⟨r, hr, hsend, -⟩ := exists_refreshRequest hs token
      exact Live.replyTo_of_sendable hr hsend haccepts
    · obtain ⟨-, sent, hsent, hshown⟩ := refresh_sends hs h
      rw [RefreshSends, hk] at hshown
      obtain ⟨r, rfl, hasks⟩ := hshown
      refine ⟨r, hasks, ?_⟩
      rw [hsent, Live.reached, if_pos haccepts]

/-- Tokens with a refresh token, and a peer that will answer this. -/
def sampleBefore (reply : Reply) : Live := ⟨some ⟨"old", some "again", .epoch⟩, ⟨true, [reply]⟩, []⟩

/-- The refresh token is refused, in words that say why, under a status of success. -/
def sampleDisowned : Reply := answering
  "\x7b\"status\":200,\"success\":false,\"message\":\"无效或过期的刷新令牌\"\x7d"

theorem sampleRefreshed_renews : sampleRefreshed.Renews ⟨"b", 60, none⟩ :=
  (refreshOutcome_eq_ok_iff (r := Client.sampleRequest)).mp (by decide +kernel)

theorem sampleDisowned_outcome : refreshOutcome Client.sampleRequest sampleDisowned =
    .error (.refreshTokenRejected "无效或过期的刷新令牌") := by
  decide +kernel

/-- One reply renews the access token and leaves the refresh token; the other disowns it. Without a
refresh token there is no reply. -/
theorem refresh_accepts_both :
    (∃ why, sample.refresh.exec .epoch sampleOutside = (.error (.failed why), sampleOutside) ∧
      why.kind = .auth) ∧
    (∃ l' t, sample.refresh.exec .epoch (sampleBefore sampleRefreshed) = (.ok (), l') ∧
      Instant.epoch.addSeconds? 60 = some t ∧ l'.tokens = some ⟨"b", some "again", t⟩ ∧
      l'.requests.length = 1) ∧
    ∃ l' why, sample.refresh.exec .epoch (sampleBefore sampleDisowned) =
      (.error (.failed why), l') ∧ why.kind = .auth ∧ why.FlagsToken := by
  refine ⟨(refresh_accepts sample .epoch sampleOutside).1 rfl, ?_, ?_⟩
  · obtain ⟨result, l', hexec, hjudged, -, hsends⟩ :=
      (refresh_accepts sample .epoch (sampleBefore sampleRefreshed)).2 "again" rfl
    obtain ⟨hreply, r, -, hsent⟩ := hsends sample_serves_refresh rfl
    have hrenews : ((sampleBefore sampleRefreshed).replyTo (sample.refreshRequest "again")).Renews
        ⟨"b", 60, none⟩ := by
      rw [hreply]
      exact sampleRefreshed_renews
    obtain ⟨t, ht, hwithin⟩ := sample_minute
    obtain rfl : result = .ok () := hjudged.succeeds.mpr ⟨_, hrenews, hwithin⟩
    exact ⟨l', t, hexec, ht, hjudged.tokens _ t hrenews ht, by rw [hsent]; rfl⟩
  · obtain ⟨result, l', hexec, hjudged, hflags, hsends⟩ :=
      (refresh_accepts sample .epoch (sampleBefore sampleDisowned)).2 "again" rfl
    obtain ⟨hreply, -⟩ := hsends sample_serves_refresh rfl
    have hnone : ∀ g, ¬ ((sampleBefore sampleDisowned).replyTo
        (sample.refreshRequest "again")).Renews g := by
      rw [hreply]
      exact not_renews sampleDisowned_outcome
    have hdisowns : ((sampleBefore sampleDisowned).replyTo
        (sample.refreshRequest "again")).Disowns := by
      rw [hreply]
      exact (flagsToken_iff_disowns sampleDisowned_outcome).mp (Fault.flagsToken_rejected _)
    obtain ⟨why, rfl, hkind⟩ := hjudged.refused hnone
    exact ⟨l', why, hexec, hkind, (hflags why rfl).mpr hdisowns⟩

end Session

end RemoteDrive
