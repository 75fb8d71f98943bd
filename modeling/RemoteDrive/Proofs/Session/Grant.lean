import RemoteDrive.Proofs.Session.Course

/-!
# What the calls leave behind

A call of the session either fails, and then it has kept the tokens, or it gives new ones that were
in the last reply. This file reads the first off the courses for each of the calls (`Live.Steady`)
and states the second for all of them at once, as `Renewed`. What has passed with the peer by then
is at most one refresh and one show of the credentials, in this order (`exchanges_of_ensureValid`).

What a reply grants is read here from the reply alone (`Grant.ofExchange?`), without a look at what
the session makes of it: a grant has an access token, perhaps a refresh token, and a number of
seconds. It does not matter whether a refresh token is absent, null or empty. The two kinds of
answer list their fields in different orders, so the request says how its answer is to be read.
-/

set_option autoImplicit false

namespace RemoteDrive

/-- What the answer to either request grants. -/
structure Grant where
  accessToken : String
  refreshToken : Option String
  /-- For how many seconds. -/
  lifetime : Int64
  /-- A refresh token that cannot be used is none. -/
  refresh_usable : refreshToken ≠ some ""
deriving DecidableEq

namespace Grant

def ofAuth (g : AuthGrant) : Grant where
  accessToken := g.accessToken
  refreshToken := (some g.refreshToken).filter (· ≠ "")
  lifetime := g.lifetime
  refresh_usable h := by simpa using (Option.filter_eq_some_iff.mp h).2

def ofRefresh (g : RefreshGrant) : Grant where
  accessToken := g.accessToken
  refreshToken := g.refreshToken.filter (· ≠ "")
  lifetime := g.lifetime
  refresh_usable h := by simpa using (Option.filter_eq_some_iff.mp h).2

theorem refreshToken_ofAuth {g : AuthGrant} (h : g.refreshToken ≠ "") :
    (ofAuth g).refreshToken = some g.refreshToken := by
  show (some g.refreshToken).filter (· ≠ "") = some g.refreshToken
  rw [Option.filter_some, if_pos (decide_eq_true h)]

/-- The payload of an answer as a record, `default` where it is null. -/
def payload? {γ : Type} (default : γ) (read : Json → Option γ) : Reply → Option γ
  | .closed => none
  | .answer a => (Envelope.decode .service a.body >>= fun e => e.dataAs default read).toOption

/-- What an exchange has granted. A refresh token is shown in a form, the credentials are not. -/
def ofExchange? (x : Request × Reply) : Option Grant :=
  match x.1.form with
  | none => (payload? .empty AuthGrant.read? x.2).map ofAuth
  | some _ => (payload? .empty RefreshGrant.read? x.2).map ofRefresh

end Grant

namespace Session

open Client (reaching)

variable {s : Session} {now : Instant} {l l' : Live}

/-! ## Reading a grant -/

theorem form_authenticateRequest {r : Request} (h : s.authenticateRequest = .ok r) :
    r.form = none := by
  obtain ⟨r₁, h₁, h⟩ := bind_eq_ok h
  obtain ⟨r₂, h₂, h⟩ := bind_eq_ok h
  have hform : r₁.form = none := Request.form_of_make h₁
  rw [(Request.withHeader_eq_ok h).2, (Request.withHeader_eq_ok h₂).2]
  exact hform

theorem form_refreshRequest {token : String} {r : Request} (h : s.refreshRequest token = .ok r) :
    r.form = some [("refresh_token", token)] := by
  obtain ⟨r₁, -, h⟩ := bind_eq_ok h
  cases h
  rfl

/-- Whatever is granted was read from the payload of the reply. -/
theorem grantIn_eq_ok {γ : Type} {wrap : Fault → Fault} {read : Envelope → Except Fault γ}
    {r : Request} {reply : Reply} {g : γ} (h : grantIn wrap read r reply = .ok g) :
    ∃ e, read e = .ok g ∧ ∀ {default : γ} {record : Json → Option γ},
      e.dataAs default record = .ok g → Grant.payload? default record reply = some g := by
  unfold grantIn at h
  cases hout : Client.outcome .service r reply with
  | error why =>
    rw [hout] at h
    cases h
  | ok e =>
    rw [hout] at h
    obtain ⟨a, rfl, -, -, hdecode⟩ := Client.outcome_eq_ok hout
    refine ⟨e, h, fun {default record} hdata => ?_⟩
    simp only [Grant.payload?, hdecode]
    show (e.dataAs default record).toOption = some g
    rw [hdata]
    rfl

theorem authGrant_eq_ok {e : Envelope} {g : AuthGrant} (h : authGrant e = .ok g) :
    e.dataAs .empty AuthGrant.read? = .ok g ∧ g.accessToken ≠ "" ∧ g.refreshToken ≠ "" := by
  unfold authGrant at h
  split at h
  · cases hdata : e.dataAs .empty AuthGrant.read? with
    | error why =>
      rw [hdata] at h
      cases h
    | ok g' =>
      simp only [hdata, mapError_ok, bind, Except.bind] at h
      split at h
      · cases h
      · cases h
        simpa [not_or] using ‹¬ (_ ∨ _)›
  · cases h

theorem refreshGrant_eq_ok {e : Envelope} {g : RefreshGrant} (h : refreshGrant e = .ok g) :
    e.dataAs .empty RefreshGrant.read? = .ok g ∧ g.accessToken ≠ "" := by
  unfold refreshGrant at h
  split at h
  · cases hdata : e.dataAs .empty RefreshGrant.read? with
    | error why =>
      rw [hdata] at h
      cases h
    | ok g' =>
      simp only [hdata, mapError_ok, bind, Except.bind] at h
      split at h
      · cases h
      · cases h
        exact ⟨rfl, ‹_›⟩
  · cases h

theorem authOutcome_eq_ok {r : Request} {reply : Reply} {g : AuthGrant}
    (h : authOutcome r reply = .ok g) :
    Grant.payload? .empty AuthGrant.read? reply = some g ∧ g.accessToken ≠ "" ∧
      g.refreshToken ≠ "" := by
  obtain ⟨e, he, hpayload⟩ := grantIn_eq_ok h
  obtain ⟨hdata, hne⟩ := authGrant_eq_ok he
  exact ⟨hpayload hdata, hne⟩

theorem refreshOutcome_eq_ok {r : Request} {reply : Reply} {g : RefreshGrant}
    (h : refreshOutcome r reply = .ok g) :
    Grant.payload? .empty RefreshGrant.read? reply = some g ∧ g.accessToken ≠ "" := by
  obtain ⟨e, he, hpayload⟩ := grantIn_eq_ok h
  obtain ⟨hdata, hne⟩ := refreshGrant_eq_ok he
  exact ⟨hpayload hdata, hne⟩

/-! ## Sending -/

/-- The request is one that the session makes for itself. -/
def Own (s : Session) (r : Request) : Prop :=
  s.authenticateRequest = .ok r ∨ ∃ token, s.refreshRequest token = .ok r

theorem steady_heard_authenticate {r : Request}
    (hr : reaching l.peer.accepts s.authenticateRequest = .ok r) :
    l.Steady s.Own ((l.add (.logged authStarted)).heard r) :=
  (Live.Steady.logged l _).trans (.heard _ r (.inl (Client.reaching_eq_ok hr).1))

theorem steady_heard_refresh {token : String} {r : Request}
    (hr : reaching l.peer.accepts (s.refreshRequest token) = .ok r) :
    l.Steady s.Own ((l.add (.logged (refreshStarted token))).heard r) :=
  (Live.Steady.logged l _).trans (.heard _ r (.inr ⟨token, (Client.reaching_eq_ok hr).1⟩))

/-- However a call ends, it has sent nothing but the session's own requests. -/
theorem extends_of_authenticate {result : Except (Stop Fault) Unit}
    (h : s.authenticate.exec now l = (result, l')) : l.Extends s.Own l' := by
  cases authenticate_course h with
  | noCredentials => exact .refl l
  | unsent => exact .logged l _
  | refused hc hr => exact (steady_heard_authenticate hr).toExtends
  | outside hc hr => exact ((steady_heard_authenticate hr).trans (.logged _ _)).toExtends
  | granted hc hr =>
    exact ((steady_heard_authenticate hr).trans (.logged _ _)).toExtends.withTokens _

theorem extends_of_refresh {result : Except (Stop Fault) Unit}
    (h : s.refresh.exec now l = (result, l')) : l.Extends s.Own l' := by
  cases refresh_course h with
  | noToken => exact .refl l
  | unsent => exact .logged l _
  | refused hk hr => exact (steady_heard_refresh hr).toExtends
  | outside hk hr => exact (steady_heard_refresh hr).toExtends.withTokens _
  | granted hk hr => exact ((steady_heard_refresh hr).toExtends.withTokens _).trans (.logged _ _)

theorem extends_of_ensureValid {result : Except (Stop Fault) String}
    (h : s.ensureValid.exec now l = (result, l')) : l.Extends s.Own l' := by
  have hrenewing : l.Extends s.Own (renewing now l) := .logged l _
  cases ensureValid_course h with
  | held => exact .refl l
  | refreshed hv hr | lost hv hr => exact hrenewing.trans (extends_of_refresh hr)
  | authenticated hv hr ha | refused hv hr ha =>
    have hrefresh := hrenewing.trans (extends_of_refresh hr)
    exact (hrefresh.trans (.logged _ _)).trans (extends_of_authenticate ha)

theorem exchanges_of_authenticate {result : Except (Stop Fault) Unit}
    (h : s.authenticate.exec now l = (result, l')) :
    ∃ xs, l'.exchanges = l.exchanges ++ xs ∧ xs.length ≤ 1 ∧
      ∀ x ∈ xs, s.authenticateRequest = .ok x.1 := by
  cases authenticate_course h with
  | noCredentials => exact ⟨[], by simp, by simp, by simp⟩
  | unsent => exact ⟨[], by simp, by simp, by simp⟩
  | @refused r _ _ hr | @outside r _ _ hr | @granted r _ _ _ hr =>
    refine ⟨[(r, l.nextReply)], by simp, by simp, fun x hx => ?_⟩
    rw [List.mem_singleton.mp hx]
    exact (Client.reaching_eq_ok hr).1

theorem exchanges_of_refresh {result : Except (Stop Fault) Unit}
    (h : s.refresh.exec now l = (result, l')) :
    ∃ xs, l'.exchanges = l.exchanges ++ xs ∧ xs.length ≤ 1 ∧
      ∀ x ∈ xs, ∃ token, shownToken l = some token ∧ s.refreshRequest token = .ok x.1 := by
  cases refresh_course h with
  | noToken => exact ⟨[], by simp, by simp, by simp⟩
  | unsent => exact ⟨[], by simp, by simp, by simp⟩
  | @refused token r _ hk hr | @outside token r _ hk hr | @granted token r _ _ hk hr =>
    refine ⟨[(r, l.nextReply)], by simp, by simp, fun x hx => ?_⟩
    rw [List.mem_singleton.mp hx]
    exact ⟨token, hk, (Client.reaching_eq_ok hr).1⟩

/-- `x` is what a refresh in `k` sends: it shows the refresh token that is held there. -/
def Refreshes (s : Session) (now : Instant) (k : Live) (x : Request × Reply) : Prop :=
  (s.refresh.exec now k).2.exchanges = k.exchanges ++ [x] ∧
    ∃ token, shownToken k = some token ∧ s.refreshRequest token = .ok x.1

/-- **What is sent for a token**: at most one refresh, and after that the credentials at most
once. -/
theorem exchanges_of_ensureValid {result : Except (Stop Fault) String}
    (h : s.ensureValid.exec now l = (result, l')) :
    ∃ first second, l'.exchanges = l.exchanges ++ (first ++ second) ∧
      first.length ≤ 1 ∧ second.length ≤ 1 ∧
      (∀ x ∈ first, s.Refreshes now (renewing now l) x) ∧
      ∀ x ∈ second, s.authenticateRequest = .ok x.1 := by
  have hrefresh : ∀ {result : Except (Stop Fault) Unit} {l₁ : Live},
      s.refresh.exec now (renewing now l) = (result, l₁) →
        ∃ first, l₁.exchanges = l.exchanges ++ first ∧ first.length ≤ 1 ∧
          ∀ x ∈ first, s.Refreshes now (renewing now l) x := by
    intro result l₁ hr
    obtain ⟨first, hfirst, hlength, hshows⟩ := exchanges_of_refresh hr
    refine ⟨first, by simpa [renewing] using hfirst, hlength, fun x hx => ⟨?_, hshows x hx⟩⟩
    obtain ⟨y, rfl⟩ :=
      List.length_eq_one_iff.mp (Nat.le_antisymm hlength (List.length_pos_of_mem hx))
    rw [List.mem_singleton.mp hx, hr]
    exact hfirst
  cases ensureValid_course h with
  | held => exact ⟨[], [], by simp, by simp, by simp, by simp, by simp⟩
  | refreshed hv hr | lost hv hr =>
    obtain ⟨first, hfirst, hlength, hshows⟩ := hrefresh hr
    exact ⟨first, [], by simpa using hfirst, hlength, by simp, hshows, by simp⟩
  | authenticated hv hr ha | refused hv hr ha =>
    obtain ⟨first, hfirst, hlength, hshows⟩ := hrefresh hr
    obtain ⟨second, hsecond, hlength', hshows'⟩ := exchanges_of_authenticate ha
    refine ⟨first, second, ?_, hlength, hlength', hshows, hshows'⟩
    rw [hsecond, Live.exchanges_logged, hfirst, List.append_assoc]

/-! ## Failing -/

/-- Showing the credentials changes the tokens last of all. -/
theorem steady_of_authenticate_error {stop : Stop Fault}
    (h : s.authenticate.exec now l = (.error stop, l')) : l.Steady s.Own l' := by
  refine ⟨extends_of_authenticate h, ?_⟩
  cases authenticate_course h with
  | noCredentials | unsent | refused | outside => rfl

/-- A refresh that fails has not touched the tokens yet. -/
theorem steady_of_refresh_failed {why : Fault}
    (h : s.refresh.exec now l = (.error (.failed why), l')) : l.Steady s.Own l' := by
  refine ⟨extends_of_refresh h, ?_⟩
  cases refresh_course h with
  | noToken | unsent | refused => rfl

/-- A refresh that stops at the end of the calendar has given the tokens up. -/
theorem tokens_of_refresh_lost (h : s.refresh.exec now l = (.error .outsideCalendar, l')) :
    l'.tokens = none := by
  cases refresh_course h with
  | outside => rfl

theorem steady_renewing (now : Instant) (l : Live) : l.Steady s.Own (renewing now l) :=
  .logged l _

/-- The situation in which the credentials are shown after a refresh has failed. -/
theorem steady_givenUp {why : Fault} {l₁ : Live}
    (h : s.refresh.exec now (renewing now l) = (.error (.failed why), l₁)) :
    l.Steady s.Own (l₁.add (.logged (refreshGivenUp why))) :=
  ((steady_renewing now l).trans (steady_of_refresh_failed h)).trans (.logged _ _)

theorem steady_of_ensureValid_failed {why : Fault}
    (h : s.ensureValid.exec now l = (.error (.failed why), l')) : l.Steady s.Own l' := by
  cases ensureValid_course h with
  | refused hv hr ha =>
    exact (steady_givenUp hr).trans (steady_of_authenticate_error ha)

theorem tokens_of_refresh_error {stop : Stop Fault}
    (h : s.refresh.exec now l = (.error stop, l')) : l'.tokens = l.tokens ∨ l'.tokens = none := by
  cases stop with
  | failed why => exact .inl (steady_of_refresh_failed h).tokens
  | outsideCalendar => exact .inr (tokens_of_refresh_lost h)

theorem tokens_of_ensureValid_error {stop : Stop Fault}
    (h : s.ensureValid.exec now l = (.error stop, l')) :
    l'.tokens = l.tokens ∨ l'.tokens = none := by
  cases ensureValid_course h with
  | lost hv hr => exact .inr (tokens_of_refresh_lost hr)
  | refused hv hr ha =>
    exact .inl ((steady_givenUp hr).trans (steady_of_authenticate_error ha)).tokens

/-! A fault of either call is one of the session's own, whatever it was to the client. -/

section Kinds

variable {why : Fault}

theorem kind_of_grantIn {γ : Type} {wrap : Fault → Fault} {read : Envelope → Except Fault γ}
    {r : Request} {reply : Reply} (hwrap : ∀ cause, (wrap cause).kind = .auth)
    (hread : ∀ e why, read e = .error why → why.kind = .auth)
    (h : grantIn wrap read r reply = .error why) : why.kind = .auth := by
  rcases bind_eq_error h with h | ⟨e, -, h⟩
  · cases hreply : Client.outcome .service r reply with
    | ok e => simp [hreply] at h
    | error cause =>
      rw [hreply] at h
      cases h
      exact hwrap cause
  · exact hread e why h

theorem kind_of_authGrant {e : Envelope} (h : authGrant e = .error why) : why.kind = .auth := by
  unfold authGrant at h
  split at h
  · rcases bind_eq_error h with h | ⟨grant, -, h⟩
    · cases hread : e.dataAs .empty AuthGrant.read? with
      | ok grant => simp [hread] at h
      | error cause =>
        rw [hread] at h
        cases h
        rfl
    · split at h
      · cases h
        rfl
      · cases h
  · cases h
    rfl

theorem kind_of_authOutcome {r : Request} {reply : Reply} (h : authOutcome r reply = .error why) :
    why.kind = .auth :=
  kind_of_grantIn (fun _ => rfl) (fun _ _ => kind_of_authGrant) h

/-- What the session fails with is that it was refused, or that it has nothing to show. -/
theorem kind_of_authenticate (h : s.authenticate.exec now l = (.error (.failed why), l')) :
    why.kind = .auth ∨ why.kind = .config ∧ s.hasCredentials = false := by
  cases authenticate_course h with
  | noCredentials hc => exact .inr ⟨rfl, hc⟩
  | unsent => exact .inl rfl
  | refused hc hr hg => exact .inl (kind_of_authOutcome hg)

theorem kind_of_ensureValid (h : s.ensureValid.exec now l = (.error (.failed why), l')) :
    why.kind = .auth ∨ why.kind = .config ∧ s.hasCredentials = false := by
  cases ensureValid_course h with
  | refused hv hr ha => exact kind_of_authenticate ha

end Kinds

/-! ## Succeeding -/

/-- The tokens of `l'` are new. They were granted by the last exchange `x`, and the grant `g` is all
that they depend on, but for the old refresh token that stands in where none was granted. -/
structure Renewed (s : Session) (now : Instant) (l l' : Live) (x : Request × Reply) (g : Grant) :
    Prop extends l.Extends s.Own l' where
  exchanges : ∃ xs, l'.exchanges = l.exchanges ++ (xs ++ [x])
  grant : Grant.ofExchange? x = some g
  access : g.accessToken ≠ ""
  tokens : ∃ t, now.addSeconds? g.lifetime.toInt = some t ∧
    l'.tokens = some ⟨g.accessToken, g.refreshToken.or (l.tokens.bind Tokens.refreshToken), t⟩
  refresh : g.refreshToken.isSome ∨ (shownToken l).isSome

theorem renewed_of_authenticate (h : s.authenticate.exec now l = (.ok (), l')) :
    ∃ x g, s.Renewed now l l' x g := by
  cases authenticate_course h with
  | @granted r g t hc hr hg ht =>
    obtain ⟨hpayload, haccess, hrefresh⟩ := authOutcome_eq_ok hg
    have hform := form_authenticateRequest (Client.reaching_eq_ok hr).1
    refine ⟨(r, l.nextReply), .ofAuth g, ?_⟩
    exact
      { toExtends := extends_of_authenticate h
        exchanges := ⟨[], by simp⟩
        grant := by simp [Grant.ofExchange?, hform, hpayload]
        access := haccess
        tokens := ⟨t, ht, by rw [Grant.refreshToken_ofAuth hrefresh]; rfl⟩
        refresh := .inl (by rw [Grant.refreshToken_ofAuth hrefresh]; rfl) }

theorem renewed_of_refresh (h : s.refresh.exec now l = (.ok (), l')) :
    ∃ x g, s.Renewed now l l' x g := by
  cases refresh_course h with
  | @granted token r g t hk hr hg ht =>
    obtain ⟨hpayload, haccess⟩ := refreshOutcome_eq_ok hg
    have hform := form_refreshRequest (Client.reaching_eq_ok hr).1
    refine ⟨(r, l.nextReply), .ofRefresh g, ?_⟩
    exact
      { toExtends := extends_of_refresh h
        exchanges := ⟨[], by simp⟩
        grant := by simp [Grant.ofExchange?, hform, hpayload]
        access := haccess
        tokens := ⟨t, ht, rfl⟩
        refresh := .inr (by simp [hk]) }

/-- What was kept on the way to the renewal does not matter. -/
theorem Renewed.after {l₁ : Live} {x : Request × Reply} {g : Grant} (h : s.Renewed now l₁ l' x g)
    (hl : l.Steady s.Own l₁) : s.Renewed now l l' x g := by
  obtain ⟨xs, hxs, -⟩ := hl.toExtends.exchanges
  obtain ⟨ys, hys⟩ := h.exchanges
  exact
    { toExtends := hl.toExtends.trans h.toExtends
      exchanges := ⟨xs ++ ys, by rw [hys, hxs]; simp⟩
      grant := h.grant
      access := h.access
      tokens := by rw [← hl.tokens]; exact h.tokens
      refresh := by rw [shownToken, ← hl.tokens]; exact h.refresh }

/-- A token that is handed out was held, or it is new. -/
theorem ensureValid_eq_ok {token : String} (h : s.ensureValid.exec now l = (.ok token, l')) :
    (∃ t, l'.tokens = some t ∧ t.accessToken = token) ∧
      (l' = l ∧ holdsValid now l ∨
        ¬ holdsValid now l ∧ ∃ x g, s.Renewed now l l' x g ∧ g.accessToken = token) := by
  cases ensureValid_course h with
  | @held t hv hl => exact ⟨⟨t, hl, rfl⟩, .inl ⟨rfl, hv⟩⟩
  | @refreshed t _ hv hr hl =>
    obtain ⟨x, g, hg⟩ := renewed_of_refresh hr
    refine ⟨⟨t, hl, rfl⟩, .inr ⟨hv, x, g, hg.after (steady_renewing now l), ?_⟩⟩
    obtain ⟨_, -, ht⟩ := hg.tokens
    cases hl.symm.trans ht
    rfl
  | @authenticated why t l₁ _ hv hr ha hl =>
    obtain ⟨x, g, hg⟩ := renewed_of_authenticate ha
    refine ⟨⟨t, hl, rfl⟩, .inr ⟨hv, x, g, hg.after (steady_givenUp hr), ?_⟩⟩
    obtain ⟨_, -, ht⟩ := hg.tokens
    cases hl.symm.trans ht
    rfl

end Session
end RemoteDrive
