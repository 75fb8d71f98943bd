import RemoteDrive.Proofs.Session.Grant
import RemoteDrive.Proofs.Session.Renewal

/-!
# Tokens that would end outside the calendar

A grant says for how many seconds its tokens last, and that number is any signed word. The calendar
is shorter than that, so some grants have no end that could be written down, and a call that
accepts one stops with nobody to deal with it. This file says exactly when that happens: the reply
was accepted, and the second at which its tokens would end is not one of the calendar's
(`stops_iff_overrun`). Every other reply is dealt with, whatever it says.

What such a grant costs depends on the call. Showing the credentials has not touched the tokens by
then. A refresh has given up the old ones, and as it has not failed but stopped, the credentials are
not shown either: `ensureValid_overrun` is a session that held tokens before a peer that would have
let it in again, and it ends with nothing.
-/

set_option autoImplicit false

namespace RemoteDrive

namespace Instant

/-- The number of the second that comes `n` seconds after `t`. A leap second has the number of the
second before it, so that the first step back out of it changes nothing. -/
def secondAfter (t : Instant) (n : Int) : Int :=
  if t.isLeap ∧ n < 0 then t.seconds + 1 + n else t.seconds + n

/-- No second of the calendar comes `n` seconds after `t`. -/
def Overruns (t : Instant) (n : Int) : Prop :=
  t.secondAfter n < -8334601228800 ∨ 8210266876799 < t.secondAfter n

theorem make?_eq_none_iff {seconds : Int} {nanos : Nat} (hnanos : nanos < nanosPerSecond) :
    make? seconds nanos = none ↔ seconds < -8334601228800 ∨ 8210266876799 < seconds := by
  have hleap : nanos < 2 * nanosPerSecond ∧ (nanosPerSecond ≤ nanos → seconds % 60 = 59) := by
    omega
  unfold make?
  split
  · simp only [reduceCtorEq, false_iff]
    omega
  · simp only [true_iff]
    omega

/-- **A step fails exactly if it leads out of the calendar**, also out of a leap second. -/
theorem addSeconds?_eq_none_iff (t : Instant) (n : Int) :
    t.addSeconds? n = none ↔ t.Overruns n := by
  have hge := t.seconds_ge
  have hle := t.seconds_le
  have hlt := t.nanos_lt
  unfold addSeconds? Overruns secondAfter
  by_cases hleap : t.isLeap = true
  · have hnanos : t.nanos - nanosPerSecond < nanosPerSecond := by omega
    simp only [hleap, if_true, true_and]
    by_cases hahead : 0 < n
    · rw [if_pos hahead, if_neg (by omega), make?_eq_none_iff hnanos]
    · rw [if_neg hahead]
      by_cases hback : n < 0
      · rw [if_pos hback, if_pos hback, make?_eq_none_iff hnanos]
      · rw [if_neg hback, if_neg hback]
        simp only [reduceCtorEq, false_iff]
        omega
  · have hnanos : t.nanos < nanosPerSecond := by
      simpa [isLeap] using hleap
    simp only [hleap, Bool.false_eq_true, if_false, false_and]
    exact make?_eq_none_iff hnanos

end Instant

namespace Session

open Client (reaching)

variable {s : Session} {now : Instant} {l l' l₁ : Live}

/-! ## Replies whose tokens would end outside the calendar -/

/-- The credentials would be accepted, for tokens that end outside the calendar. -/
def AuthOverrun (s : Session) (now : Instant) (l : Live) : Prop :=
  s.hasCredentials = true ∧ ∃ r g, reaching l.peer.accepts s.authenticateRequest = .ok r ∧
    authOutcome r l.nextReply = .ok g ∧ now.Overruns g.lifetime.toInt

/-- The refresh token would be accepted, for tokens that end outside the calendar. -/
def RefreshOverrun (s : Session) (now : Instant) (l : Live) : Prop :=
  ∃ token r g, shownToken l = some token ∧
    reaching l.peer.accepts (s.refreshRequest token) = .ok r ∧
    refreshOutcome r l.nextReply = .ok g ∧ now.Overruns g.lifetime.toInt

theorem authenticate_stops_iff :
    (s.authenticate.exec now l).1 = .error .outsideCalendar ↔ s.AuthOverrun now l := by
  rcases h : s.authenticate.exec now l with ⟨result, l'⟩
  constructor
  · rintro rfl
    cases authenticate_course h with
    | outside hc hr hg ht =>
      exact ⟨hc, _, _, hr, hg, (Instant.addSeconds?_eq_none_iff _ _).mp ht⟩
  · rintro ⟨hc, r, g, hr, hg, hover⟩
    have hnone := (Instant.addSeconds?_eq_none_iff _ _).mpr hover
    cases authenticate_course h with
    | outside => rfl
    | noCredentials hc' => simp [hc] at hc'
    | unsent _ hr' => simp [hr] at hr'
    | refused _ hr' hg' =>
      cases hr.symm.trans hr'
      cases hg.symm.trans hg'
    | granted _ hr' hg' ht =>
      cases hr.symm.trans hr'
      cases hg.symm.trans hg'
      cases hnone.symm.trans ht

theorem refresh_stops_iff :
    (s.refresh.exec now l).1 = .error .outsideCalendar ↔ s.RefreshOverrun now l := by
  rcases h : s.refresh.exec now l with ⟨result, l'⟩
  constructor
  · rintro rfl
    cases refresh_course h with
    | outside hk hr hg ht =>
      exact ⟨_, _, _, hk, hr, hg, (Instant.addSeconds?_eq_none_iff _ _).mp ht⟩
  · rintro ⟨token, r, g, hk, hr, hg, hover⟩
    have hnone := (Instant.addSeconds?_eq_none_iff _ _).mpr hover
    cases refresh_course h with
    | outside => rfl
    | noToken hk' => simp [hk] at hk'
    | unsent hk' hr' =>
      cases hk.symm.trans hk'
      simp [hr] at hr'
    | refused hk' hr' hg' =>
      cases hk.symm.trans hk'
      cases hr.symm.trans hr'
      cases hg.symm.trans hg'
    | granted hk' hr' hg' ht =>
      cases hk.symm.trans hk'
      cases hr.symm.trans hr'
      cases hg.symm.trans hg'
      cases hnone.symm.trans ht

/-! ## The whole call -/

/-- A refresh that has failed hands over to the credentials, with the tokens as they were. -/
theorem ensureValid_after_failure {why : Fault} (hv : ¬ holdsValid now l)
    (hr : s.refresh.exec now l = (.error (.failed why), l₁)) (stop : Stop Fault) :
    (s.ensureValid.exec now l).1 = .error stop ↔ (s.authenticate.exec now l₁).1 = .error stop := by
  rcases ha : s.authenticate.exec now l₁ with ⟨stop' | _, l₂⟩
  · obtain ⟨m, hm, -⟩ := exec_ensureValid_refused hv hr ha
    rw [hm]
    simp
  · obtain ⟨t, ht⟩ := tokens_of_authenticate ha
    obtain ⟨m, hm, -⟩ := exec_ensureValid_authenticated hv hr ha ht
    rw [hm]
    simp

theorem ensureValid_stops_iff :
    (s.ensureValid.exec now l).1 = .error .outsideCalendar ↔
      ¬ holdsValid now l ∧ (s.RefreshOverrun now l ∨
        ∃ why l₁, s.refresh.exec now l = (.error (.failed why), l₁) ∧ s.AuthOverrun now l₁) := by
  by_cases hv : holdsValid now l
  · have hheld : (s.ensureValid.exec now l).1 ≠ .error .outsideCalendar := by
      rw [exec_ensureValid_held hv, handOut, Act.exec_bind_ok Act.exec_tokens]
      cases l.tokens <;> simp
    simp [hv, hheld]
  · rw [← refresh_stops_iff]
    rcases hr : s.refresh.exec now l with ⟨(why | _) | _, l₁⟩
    · rw [ensureValid_after_failure hv hr, authenticate_stops_iff]
      constructor
      · exact fun hover => ⟨hv, .inr ⟨why, l₁, rfl, hover⟩⟩
      · rintro ⟨-, hstop | ⟨_, _, hsame, hover⟩⟩
        · simp at hstop
        · cases hsame
          exact hover
    · obtain ⟨m, hm, -⟩ := exec_ensureValid_lost hv hr
      simp [hm, hv]
    · obtain ⟨t, ht⟩ := tokens_of_refresh hr
      obtain ⟨m, hm, -⟩ := exec_ensureValid_refreshed hv hr ht
      simp [hm]

/-- A session that stops without an answer either still has its tokens or has lost them in a
refresh. -/
theorem tokens_of_ensureValid_stopped {stop : Stop Fault}
    (h : s.ensureValid.exec now l = (.error stop, l')) :
    l'.tokens = l.tokens ∨ l'.tokens = none ∧ s.RefreshOverrun now l := by
  by_cases hlost : s.RefreshOverrun now l
  · rcases tokens_of_ensureValid_error h with hsame | hnone
    · exact .inl hsame
    · exact .inr ⟨hnone, hlost⟩
  · left
    cases ensureValid_course h with
    | lost hv hr =>
      -- the refresh started behind a line of the log, which changes none of what decides it
      exact absurd (refresh_stops_iff.mp (congrArg Prod.fst hr)) hlost
    | refused hv hr ha => exact ((steady_givenUp hr).trans (steady_of_authenticate_error ha)).tokens

/-- **A call stops exactly where it accepts a grant whose tokens would end outside the calendar**,
and whatever else the peer replies it succeeds or fails. A failure keeps the tokens, and one of the
refresh leaves the rest to the credentials; a refresh that stops has given the tokens up. -/
theorem stops_iff_overrun (s : Session) (now : Instant) (l : Live) :
    ((s.authenticate.exec now l).1 = .error .outsideCalendar ↔ s.AuthOverrun now l) ∧
    ((s.refresh.exec now l).1 = .error .outsideCalendar ↔ s.RefreshOverrun now l) ∧
    ((s.ensureValid.exec now l).1 = .error .outsideCalendar ↔
      ¬ holdsValid now l ∧ (s.RefreshOverrun now l ∨
        ∃ why l₁, s.refresh.exec now l = (.error (.failed why), l₁) ∧ s.AuthOverrun now l₁)) ∧
    (∀ stop l', s.authenticate.exec now l = (.error stop, l') → l'.tokens = l.tokens) ∧
    (∀ stop l', s.refresh.exec now l = (.error stop, l') →
      l'.tokens = if stop = .outsideCalendar then none else l.tokens) ∧
    (∀ stop l', s.ensureValid.exec now l = (.error stop, l') →
      l'.tokens = l.tokens ∨ l'.tokens = none ∧ s.RefreshOverrun now l) ∧
    ∀ why l₁, ¬ holdsValid now l → s.refresh.exec now l = (.error (.failed why), l₁) →
      ∀ stop, (s.ensureValid.exec now l).1 = .error stop ↔
        (s.authenticate.exec now l₁).1 = .error stop := by
  refine ⟨authenticate_stops_iff, refresh_stops_iff, ensureValid_stops_iff,
    fun _ _ h => (steady_of_authenticate_error h).tokens, fun stop l' h => ?_,
    fun _ _ h => tokens_of_ensureValid_stopped h, fun _ _ hv hr => ensureValid_after_failure hv hr⟩
  cases stop with
  | failed why => exact (steady_of_refresh_failed h).tokens
  | outsideCalendar => exact tokens_of_refresh_lost h

/-- An answer to the refresh token that grants the longest lifetime there is. -/
def sampleEndless : Reply := answering
  ("\x7b\"status\":200,\"success\":true," ++
    "\"data\":\x7b\"access_token\":\"b\",\"expires_in\":9223372036854775807\x7d\x7d")

/-- Tokens that have ended, and a peer that refreshes them for ever and would accept the credentials
after that. -/
def sampleOverrunning : Live :=
  ⟨some ⟨"old", some "again", .epoch⟩, ⟨true, [sampleEndless, sampleAccepted]⟩, []⟩

theorem sample_refreshOverrun : sample.RefreshOverrun .epoch sampleOverrunning :=
  refresh_stops_iff.mp (by decide +kernel)

/-- The general statement at a session that is stopped in its refresh. -/
theorem stops_iff_overrun_refreshing :
    (sample.ensureValid.exec .epoch sampleOverrunning).1 = .error .outsideCalendar := by
  obtain ⟨-, -, hstops, -⟩ := stops_iff_overrun sample .epoch sampleOverrunning
  exact hstops.mpr ⟨by unfold holdsValid; decide, .inl sample_refreshOverrun⟩

/-- **One reply can cost a session its tokens**: it stops without an answer, holds nothing, and has
not shown its credentials, which the peer would have accepted. -/
theorem ensureValid_overrun : ∃ l',
    sample.ensureValid.exec .epoch sampleOverrunning = (.error .outsideCalendar, l') ∧
      sampleOverrunning.tokens.isSome ∧ l'.tokens = none ∧ l'.requests.length = 1 ∧
      (sample.authenticate.exec .epoch l').1 = .ok () := by
  have hfacts : (sample.ensureValid.exec .epoch sampleOverrunning).1 = .error .outsideCalendar ∧
      (sample.ensureValid.exec .epoch sampleOverrunning).2.tokens = none ∧
      (sample.ensureValid.exec .epoch sampleOverrunning).2.requests.length = 1 ∧
      (sample.authenticate.exec .epoch
        (sample.ensureValid.exec .epoch sampleOverrunning).2).1 = .ok () := by
    decide +kernel
  exact ⟨_, Prod.ext hfacts.1 rfl, rfl, hfacts.2⟩

end Session
end RemoteDrive
