import Mathlib.Control.Monad.Basic
import RemoteDrive.Proofs.Drive.Operation
import RemoteDrive.Proofs.Session.Provenance

/-!
# What a step does to the tokens

A step of the drive changes the tokens only by way of the session, and the session changes them only
where it has got new ones. So a step that fails leaves either the old tokens or new ones, and never
anything between (`tokens_of_failure`): a service that refuses an operation after it has renewed
the tokens does not take them back, and a session that fails has changed nothing.
-/

set_option autoImplicit false

namespace RemoteDrive

namespace Session

variable {s : Session} {now : Instant} {l l' : Live}

/-- Somewhere between `l` and `l'` the session has got the tokens that are held in `l'`. -/
def Installed (s : Session) (now : Instant) (l l' : Live) : Prop :=
  ∃ l₁ l₂, l.history <+: l₁.history ∧ l₁.tokens = l.tokens ∧
    (s.refresh.exec now l₁ = (.ok (), l₂) ∨ s.authenticate.exec now l₁ = (.ok (), l₂)) ∧
    l₂.history <+: l'.history ∧ l'.tokens = l₂.tokens

theorem Installed.within {P Q : Request → Prop} {l₁ l₂ : Live} (hl : l.Steady P l₁)
    (h : s.Installed now l₁ l₂) (hl' : l₂.Steady Q l') : s.Installed now l l' := by
  obtain ⟨k₁, k₂, hbefore, htokens, hgot, hafter, hkept⟩ := h
  exact ⟨k₁, k₂, hl.history_prefix.trans hbefore, htokens.trans hl.tokens, hgot,
    hafter.trans hl'.history_prefix, hl'.tokens.trans hkept⟩

theorem installed_of_ensureValid {token : String}
    (h : s.ensureValid.exec now l = (.ok token, l')) : l' = l ∨ s.Installed now l l' := by
  cases ensureValid_course h with
  | held => exact .inl rfl
  | refreshed hv hr =>
    have hl := steady_renewing (s := s) now l
    exact .inr ⟨_, _, hl.history_prefix, hl.tokens, .inl hr, List.prefix_refl _, rfl⟩
  | authenticated hv hr ha =>
    have hl := steady_givenUp hr
    exact .inr ⟨_, _, hl.history_prefix, hl.tokens, .inr ha, List.prefix_refl _, rfl⟩

end Session

namespace Drive

variable {d : Drive} {now : Instant} {l l' : Live}

/-! ## The two steps that are about the session itself -/

theorem exec_init :
    (d.perform .init).exec now l =
      match d.session.authenticate.exec now l with
      | (.ok (), l') => (.ok .done,
          l'.add (.logged (.info "CZK storage initialised" [("root", d.root.text)])))
      | (.error (.failed why), l') => (.error (.failed ⟨[.authenticating], why⟩), l')
      | (.error .outsideCalendar, l') => (.error .outsideCalendar, l') := by
  simp only [perform, init, inside, lift, Act.exec_bind, Act.exec_mapFailure]
  rcases d.session.authenticate.exec now l with ⟨(_ | _) | _, _⟩ <;> rfl

/-! ## Failing -/

theorem installed_of_failure {step : Step} {why : Failure}
    (h : (d.perform step).exec now l = (.error (.failed why), l')) :
    l'.tokens = l.tokens ∨ d.session.Installed now l l' := by
  by_cases hinit : step = .init
  · subst hinit
    rw [exec_init] at h
    rcases ha : d.session.authenticate.exec now l with ⟨(fault | _) | _, l₁⟩
    all_goals
      rw [ha] at h
      cases h
    exact .inl (Session.steady_of_authenticate_error ha).tokens
  by_cases hshutdown : step = .shutdown
  · subst hshutdown
    obtain ⟨l₁, hexec, -⟩ := Session.exec_invalidate (ε := Failure) now l
    rw [perform, shutdown, Act.exec_bind_ok hexec] at h
    cases h
  cases perform_guarded hinit hshutdown _ _ _ _ h with
  | stopped hl => exact .inl hl.tokens
  | refused hl he =>
    exact .inl ((Session.steady_of_ensureValid_failed he).tokens.trans hl.tokens)
  | served hl he hl' =>
    rcases Session.installed_of_ensureValid he with rfl | hnew
    · exact .inl (hl'.tokens.trans hl.tokens)
    · exact .inr (hnew.within hl hl')

/-- **A failure leaves the tokens as they were, or as a renewal that had succeeded by then has made
them.** The calls of the session themselves leave them as they were. -/
theorem tokens_of_failure (s : Session) (root : RemoteId) (now : Instant) (l l' : Live) :
    (∀ why, s.authenticate.exec now l = (.error (.failed why), l') → l'.tokens = l.tokens) ∧
    (∀ why, s.refresh.exec now l = (.error (.failed why), l') → l'.tokens = l.tokens) ∧
    (∀ why, s.ensureValid.exec now l = (.error (.failed why), l') → l'.tokens = l.tokens) ∧
    ∀ step why, (Drive.perform ⟨s, root⟩ step).exec now l = (.error (.failed why), l') →
      l'.tokens = l.tokens ∨ s.Installed now l l' :=
  ⟨fun _ h => (Session.steady_of_authenticate_error h).tokens,
    fun _ h => (Session.steady_of_refresh_failed h).tokens,
    fun _ h => (Session.steady_of_ensureValid_failed h).tokens,
    fun _ _ h => installed_of_failure (d := ⟨s, root⟩) h⟩

/-- Tokens that have ended, and a peer that renews them and then ends the connection. -/
def sampleRenewing : Live := ⟨some ⟨"old", some "r", .epoch⟩, ⟨true, [Session.sampleRefreshed]⟩, []⟩

theorem tokens_of_failure_renewed : ∃ l',
    (Drive.perform ⟨.sample, .root⟩ (.list .root)).exec .epoch sampleRenewing =
      (.error (.failed ⟨[.listing .root], .notAnswered "http://h/list_files?folder_id=0"⟩), l') ∧
      l'.tokens ≠ sampleRenewing.tokens ∧ Session.sample.Installed .epoch sampleRenewing l' := by
  have hfacts : ((Drive.perform ⟨.sample, .root⟩ (.list .root)).exec .epoch sampleRenewing).1 =
      .error (.failed ⟨[.listing .root], .notAnswered "http://h/list_files?folder_id=0"⟩) ∧
      ((Drive.perform ⟨.sample, .root⟩ (.list .root)).exec .epoch sampleRenewing).2.tokens ≠
        sampleRenewing.tokens := by
    decide +kernel
  rcases hexec : (Drive.perform ⟨.sample, .root⟩ (.list .root)).exec .epoch sampleRenewing
    with ⟨result, l'⟩
  rw [hexec] at hfacts
  obtain ⟨rfl, hnew⟩ := hfacts
  obtain ⟨-, -, -, hfailure⟩ := tokens_of_failure .sample .root .epoch sampleRenewing l'
  exact ⟨l', rfl, hnew, (hfailure (.list .root) _ hexec).resolve_left hnew⟩

end Drive
end RemoteDrive
