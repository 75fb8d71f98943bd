import RemoteDrive.Session.Run
import RemoteDrive.Proofs.Session.Grant

/-!
# Where the tokens come from

A session that was never handed tokens from outside holds what the service has granted it. To say
so of a run, the run is given a ledger (`Session.ledger`): a list of the exchanges that the session
has accepted, the latest first, each with the moment of its turn. It is kept by a rule that does not
look at the tokens. A turn that succeeds and has sent anything adds its last exchange, one that
gives up the tokens starts a new ledger, and no other turn changes it.

`Backed` says what the tokens have to do with the ledger. The access token and its end come from the
latest entry alone; the refresh token may be older, since a refresh need not grant one. That a
refresh needs a token to begin with is what keeps an old one in the ledger (`Renewed.refresh`).
-/

set_option autoImplicit false

namespace RemoteDrive
namespace Session

variable {s : Session} {now : Instant} {l l' : Live}

/-! ## The ledger -/

/-- An accepted exchange and the moment at which it was accepted. -/
structure Entry where
  time : Instant
  exchange : Request × Reply

namespace Entry

def grant? (e : Entry) : Option Grant := Grant.ofExchange? e.exchange

def refreshToken? (e : Entry) : Option String := e.grant?.bind Grant.refreshToken

end Entry

/-- What was sent last between two situations, with the reply to it. -/
def lastExchange? (l l' : Live) : Option (Request × Reply) :=
  (l'.exchanges.drop l.exchanges.length).getLast?

/-- The ledger after a turn that has led from `l` to `l'`. -/
def book (t : Turn Step) (l : Live) (result : Except (Stop Fault) (Option String)) (l' : Live)
    (es : List Entry) : List Entry :=
  match t.step, result with
  | .invalidate, _ => []
  | _, .error _ => es
  | _, .ok _ => ((lastExchange? l l').map (Entry.mk t.now)).toList ++ es

/-- The ledger after several turns. -/
def ledger (s : Session) : List (Turn Step) → Live → List Entry → List Entry
  | [], _, es => es
  | t :: ts, l, es =>
    let (result, l') := s.turn t l
    s.ledger ts l' (book t l result l' es)

/-! ## What it says of the tokens -/

/-- The tokens are those of the ledger. -/
structure Backed (k : Tokens) (es : List Entry) : Prop where
  last : ∃ e older g, es = e :: older ∧ e.grant? = some g ∧ k.accessToken = g.accessToken ∧
    e.time.addSeconds? g.lifetime.toInt = some k.expiresAt
  access : k.accessToken ≠ ""
  refresh : k.refreshToken = es.findSome? Entry.refreshToken?
  usable : ∃ token, k.refreshToken = some token ∧ token ≠ ""

/-- Whatever is held is backed. -/
def Sound (l : Live) (es : List Entry) : Prop := ∀ k, l.tokens = some k → Backed k es

theorem sound_of_tokens {es : List Entry} (h : Sound l es)
    (hl : l'.tokens = l.tokens ∨ l'.tokens = none) : Sound l' es := by
  intro k hk
  rcases hl with hl | hl
  · exact h k (hl ▸ hk)
  · rw [hl] at hk
    cases hk

/-- A renewal puts its entry on top. -/
theorem sound_of_renewed {es : List Entry} {x : Request × Reply} {g : Grant} (h : Sound l es)
    (hg : s.Renewed now l l' x g) : Sound l' (⟨now, x⟩ :: es) := by
  obtain ⟨t, ht, hl'⟩ := hg.tokens
  intro k hk
  cases hl'.symm.trans hk
  have hentry : Entry.refreshToken? ⟨now, x⟩ = g.refreshToken := by
    simp [Entry.refreshToken?, Entry.grant?, hg.grant]
  have hlast : ∃ e older g', (⟨now, x⟩ :: es : List Entry) = e :: older ∧ e.grant? = some g' ∧
      g.accessToken = g'.accessToken ∧ e.time.addSeconds? g'.lifetime.toInt = some t :=
    ⟨⟨now, x⟩, es, g, rfl, hg.grant, rfl, ht⟩
  cases hr : g.refreshToken with
  | some token =>
    -- the grant has its own refresh token, and what was held before does not matter
    exact
      { last := hlast
        access := hg.access
        refresh := by simp [hentry, hr]
        usable := ⟨token, by simp, fun hempty => g.refresh_usable (hempty ▸ hr)⟩ }
  | none =>
    -- so one was shown, which was held and is backed by an older entry
    have hshown := hg.refresh
    rw [hr] at hshown
    obtain ⟨token, hshown⟩ := Option.isSome_iff_exists.mp (hshown.resolve_left (by simp))
    obtain ⟨k, hk, husable⟩ := Option.bind_eq_some_iff.mp hshown
    obtain ⟨hheld, hne⟩ := Option.filter_eq_some_iff.mp husable
    exact
      { last := hlast
        access := hg.access
        refresh := by simpa [hentry, hr, hk] using (h k hk).refresh
        usable := ⟨token, by simp [hk, hheld], by simpa using hne⟩ }

theorem lastExchange_of_renewed {x : Request × Reply} {g : Grant}
    (hg : s.Renewed now l l' x g) : lastExchange? l l' = some x := by
  obtain ⟨xs, hxs⟩ := hg.exchanges
  simp [lastExchange?, hxs]

theorem lastExchange_self (l : Live) : lastExchange? l l = none := by
  simp [lastExchange?]

/-! ## One turn -/

/-- What a call that asks the service for something does to the tokens: a failure keeps them or gives
them up, and a success keeps everything or renews them. -/
def Settled {α : Type} (s : Session) (now : Instant) (l : Live) (result : Except (Stop Fault) α)
    (l' : Live) : Prop :=
  match result with
  | .error _ => l'.tokens = l.tokens ∨ l'.tokens = none
  | .ok _ => l' = l ∨ ∃ x g, s.Renewed now l l' x g

theorem authenticate_settled {result : Except (Stop Fault) Unit}
    (h : s.authenticate.exec now l = (result, l')) : s.Settled now l result l' := by
  cases result with
  | error stop => exact .inl (steady_of_authenticate_error h).tokens
  | ok _ => exact .inr (renewed_of_authenticate h)

theorem refresh_settled {result : Except (Stop Fault) Unit}
    (h : s.refresh.exec now l = (result, l')) : s.Settled now l result l' := by
  cases result with
  | error stop => exact tokens_of_refresh_error h
  | ok _ => exact .inr (renewed_of_refresh h)

theorem ensureValid_settled {result : Except (Stop Fault) String}
    (h : s.ensureValid.exec now l = (result, l')) : s.Settled now l result l' := by
  cases result with
  | error stop => exact tokens_of_ensureValid_error h
  | ok token =>
    rcases (ensureValid_eq_ok h).2 with ⟨hsame, -⟩ | ⟨-, x, g, hg, -⟩
    · exact .inl hsame
    · exact .inr ⟨x, g, hg⟩

/-- What a step makes of the result of its call does not matter. -/
theorem Settled.giving {α β : Type} {act : Act Fault α} {give : α → β}
    {result : Except (Stop Fault) β}
    (hact : ∀ {result l'}, act.exec now l = (result, l') → s.Settled now l result l')
    (h : (act >>= fun a => pure (give a)).exec now l = (result, l')) :
    s.Settled now l result l' := by
  rcases ha : act.exec now l with ⟨stop | a, l₁⟩
  · rw [Act.exec_bind_error ha] at h
    cases h
    exact hact ha
  · rw [Act.exec_bind_ok ha] at h
    cases h
    exact hact ha

theorem perform_settled {step : Step} {result : Except (Stop Fault) (Option String)}
    (hstep : step = .authenticate ∨ step = .refresh ∨ step = .ensureValid)
    (h : (s.perform step).exec now l = (result, l')) : s.Settled now l result l' := by
  rcases hstep with rfl | rfl | rfl
  · exact Settled.giving authenticate_settled h
  · exact Settled.giving refresh_settled h
  · exact Settled.giving ensureValid_settled h

theorem exec_invalidate {ε : Type} (now : Instant) (l : Live) :
    ∃ l', (invalidate : Act ε Unit).exec now l = (.ok (), l') ∧ l'.tokens = none ∧
      l'.exchanges = l.exchanges := by
  rw [invalidate, Act.exec_bind_ok Act.exec_tokens]
  cases ht : l.tokens with
  | none => exact ⟨l, rfl, ht, rfl⟩
  | some k =>
    exact ⟨(l.withTokens none).add (.logged (.debug "Session invalidated" [])), rfl, rfl, by simp⟩

/-- **A turn keeps the ledger sound**, unless it is the one that hands tokens in. -/
theorem turn_sound {t : Turn Step} {es : List Entry} {result : Except (Stop Fault) (Option String)}
    (hstep : ∀ k, t.step ≠ .hold k) (h : Sound l es) (hturn : s.turn t l = (result, l')) :
    Sound l' (book t l result l' es) := by
  obtain ⟨step, now, replies⟩ := t
  have hawaiting : Sound (l.awaiting replies) es := h
  -- the three steps that ask the service for something differ in nothing that matters here
  have hasking : step = .authenticate ∨ step = .refresh ∨ step = .ensureValid →
      Sound l' (book ⟨step, now, replies⟩ l result l' es) := by
    intro hasks
    have hout := perform_settled hasks hturn
    cases result with
    | error stop =>
      have hbook : book ⟨step, now, replies⟩ l (.error stop) l' es = es := by
        rcases hasks with rfl | rfl | rfl <;> rfl
      rw [hbook]
      exact sound_of_tokens hawaiting hout
    | ok token =>
      have hbook : book ⟨step, now, replies⟩ l (.ok token) l' es =
          ((lastExchange? l l').map (Entry.mk now)).toList ++ es := by
        rcases hasks with rfl | rfl | rfl <;> rfl
      rw [hbook]
      rcases hout with rfl | ⟨x, g, hg⟩
      · rw [show lastExchange? l (l.awaiting replies) = none from lastExchange_self l]
        exact hawaiting
      · have hlast : lastExchange? l l' = some x :=
          lastExchange_of_renewed (l := l.awaiting replies) hg
        rw [hlast]
        exact sound_of_renewed hawaiting hg
  cases step with
  | authenticate => exact hasking (.inl rfl)
  | refresh => exact hasking (.inr (.inl rfl))
  | ensureValid => exact hasking (.inr (.inr rfl))
  | invalidate =>
    obtain ⟨l₁, hexec, hnone, -⟩ := exec_invalidate (ε := Fault) now (l.awaiting replies)
    rw [turn, perform, Act.exec_bind_ok hexec] at hturn
    cases hturn
    intro k hk
    rw [hnone] at hk
    cases hk
  | hold k => exact absurd rfl (hstep k)

theorem run_sound {ts : List (Turn Step)} {es : List Entry}
    (hsteps : ∀ t ∈ ts, ∀ k, t.step ≠ .hold k) (h : Sound l es) :
    Sound (s.run ts l).2 (s.ledger ts l es) := by
  -- the ledger grows with the situation, so both are general
  induction ts generalizing l es with
  | nil => exact h
  | cons t ts ih =>
    have ht := turn_sound (s := s) (l := l) (hsteps t List.mem_cons_self) h rfl
    exact ih (fun t' ht' => hsteps t' (List.mem_cons_of_mem t ht')) ht

/-- **Whatever a session holds comes from the replies that it has accepted**, if it started with
nothing and was never handed anything. -/
theorem run_backed (s : Session) (ts : List (Turn Step)) (accepts : Bool) (k : Tokens)
    (hsteps : ∀ t ∈ ts, ∀ k, t.step ≠ .hold k)
    (hk : (s.run ts (.start none accepts)).2.tokens = some k) :
    Backed k (s.ledger ts (.start none accepts) []) := by
  have hstart : Sound (.start none accepts) [] := by
    intro k hk
    cases hk
  exact run_sound hsteps hstart k hk

/-- The credentials, and then a refresh that grants no new refresh token. -/
def sampleTurns : List (Turn Step) :=
  [⟨.authenticate, .epoch, [sampleAccepted]⟩, ⟨.ensureValid, .epoch, [sampleRefreshed]⟩]

theorem run_backed_kept : ∃ k, k.accessToken = "b" ∧ k.refreshToken = some "r" ∧
    k.expiresAt.seconds = 60 ∧ Backed k (sample.ledger sampleTurns (.start none true) []) := by
  have hsteps : ∀ t ∈ sampleTurns, ∀ k, t.step ≠ .hold k := by
    simp [sampleTurns]
  have hk : (sample.run sampleTurns (.start none true)).2.tokens =
      some ⟨"b", some "r", ⟨60, 0, by decide, by decide, by decide, by decide⟩⟩ := by
    decide +kernel
  exact ⟨_, rfl, rfl, rfl, run_backed sample sampleTurns true _ hsteps hk⟩

end Session
end RemoteDrive
