import RemoteDrive.Proofs.Drive.Course
import RemoteDrive.Proofs.Session.Validity

/-!
# The tokens that a drive shows

An operation on objects asks the session for a token before it sends anything of its own, and it
asks no second time. All its own requests show that token, and it is the one which the session hands
out when it is asked at the start of the step: what has been noted before makes no difference to the
session, and behind it nothing touches the tokens any more.

So what is known of a token that is handed out is known of the one that is shown
(`token_handed_out`). It is held from then on to the end of the step. But it may have ended already
when it is obtained: the service says how long it lasts, and it may say that it lasts for no time.
-/

set_option autoImplicit false

namespace RemoteDrive
namespace Drive

variable {d : Drive} {now : Instant} {l m l' : Live} {step : Step} {token : String}
  {own : List (Request × Reply)}

theorem Supplied.bears (h : d.Supplied now l m l' step token own) :
    ∀ x ∈ own, x.1.Bears token := by
  intro x hx
  obtain ⟨job, -, hsent⟩ := h.requests
  have hkinds := hsent.mono (job.kinds_of_requests d.client token)
  obtain ⟨kind, hkind, hr⟩ := hkinds.exists_kind hx
  obtain ⟨e, -, rfl⟩ := List.mem_map.mp hkind
  exact bears_of_objectRequest hr

/-- **A token that is handed out is held, and it lasts from now on exactly if it did before or was
granted for a positive time.** As long as it lasts it is handed out again for nothing. And what a
step sends besides the requests of the session shows such a token: the one that is handed out at its
start, which is still held at its end. -/
theorem token_handed_out (s : Session) (root : RemoteId) (now : Instant) (l : Live) :
    (∀ token m, s.ensureValid.exec now l = (.ok token, m) → s.HandedOut now l m token) ∧
    ∀ step result l', (Drive.perform ⟨s, root⟩ step).exec now l = (result, l') →
      ∃ session own, l'.exchanges = l.exchanges ++ (session ++ own) ∧
        (∀ x ∈ session, s.Own x.1) ∧
        (own = [] ∨ ∃ token m, s.ensureValid.exec now l = (.ok token, m) ∧
          m.exchanges = l.exchanges ++ session ∧ s.HandedOut now l m token ∧
          l'.tokens = m.tokens ∧ ∀ x ∈ own, x.1.Bears token) := by
  refine ⟨fun _ _ => Session.handedOut_of_ensureValid, fun step result l' h => ?_⟩
  obtain ⟨session, own, hsent, hsession, hown⟩ := exchanges_of_perform h
  refine ⟨session, own, hsent, hsession, hown.imp_right ?_⟩
  rintro ⟨token, m, hbefore, hsupplied⟩
  have hhanded := Session.handedOut_of_ensureValid hsupplied.handed
  exact ⟨token, m, hsupplied.handed, hbefore, hhanded, hsupplied.kept, hsupplied.bears⟩

/-- Tokens that were granted for a time last, and the listing that they were asked for shows
them. -/
theorem token_handed_out_lasting : ∃ m own,
    Session.sample.ensureValid.exec .epoch sampleRenewing = (.ok "b", m) ∧
      Session.holdsValid .epoch m ∧ Session.sample.ensureValid.exec .epoch m = (.ok "b", m) ∧
      ((Drive.perform ⟨.sample, .root⟩ (.list .root)).exec .epoch sampleRenewing).2.exchanges =
        m.exchanges ++ own ∧ own ≠ [] ∧ ∀ x ∈ own, x.1.Bears "b" := by
  have hfacts : (Session.sample.ensureValid.exec .epoch sampleRenewing).1 = .ok "b" ∧
      SessionState.ofTokens .epoch
        (Session.sample.ensureValid.exec .epoch sampleRenewing).2.tokens = .authenticated := by
    decide +kernel
  have hbearing : ∃ x ∈ ((Drive.perform ⟨.sample, .root⟩ (.list .root)).exec .epoch
      sampleRenewing).2.exchanges, ("authorization", "Bearer b") ∈ x.1.headers := by
    decide +kernel
  rcases hasked : Session.sample.ensureValid.exec .epoch sampleRenewing with ⟨answer, m⟩
  rcases hlisted : (Drive.perform ⟨.sample, .root⟩ (.list .root)).exec .epoch sampleRenewing with
    ⟨result, l'⟩
  rw [hasked] at hfacts
  rw [hlisted] at hbearing
  obtain ⟨rfl, hvalid⟩ := hfacts
  obtain ⟨x, hx, hbears⟩ : ∃ x ∈ l'.exchanges, x.1.Bears "b" := hbearing
  obtain ⟨hhanded, hsteps⟩ := token_handed_out .sample .root .epoch sampleRenewing
  obtain ⟨session, own, hsent, hsession, hown⟩ := hsteps (.list .root) result l' hlisted
  have hsome : own ≠ [] := by
    -- what bears a token is no request of the session
    rintro rfl
    rw [hsent, List.append_nil] at hx
    exact not_own_of_bears hbears (hsession x hx)
  obtain ⟨token, m', hasked', hbefore, -, -, hall⟩ := hown.resolve_left hsome
  obtain ⟨⟨rfl⟩, rfl⟩ := Prod.mk.inj (hasked.symm.trans hasked')
  refine ⟨m, own, rfl, hvalid, (hhanded "b" m hasked).again hvalid, ?_, hsome, hall⟩
  rw [hsent, hbefore, List.append_assoc]

/-- Nothing is held, and the peer grants tokens without saying for how long. -/
def sampleTimeless : Live := ⟨none, ⟨true, [Session.sampleAccepted]⟩, []⟩

/-- Then a token is handed out that has ended, and the next call goes to the service again. A listing
shows this token. -/
theorem token_handed_out_ended : ∃ m,
    Session.sample.ensureValid.exec .epoch sampleTimeless = (.ok "a", m) ∧
      ¬ Session.holdsValid .epoch m ∧
      Session.sample.ensureValid.exec .epoch m ≠ (.ok "a", m) ∧
      ∃ x ∈ ((Drive.perform ⟨.sample, .root⟩ (.list .root)).exec .epoch sampleTimeless).2.exchanges,
        x.1.Bears "a" := by
  have hfacts : (Session.sample.ensureValid.exec .epoch sampleTimeless).1 = .ok "a" ∧
      SessionState.ofTokens .epoch
        (Session.sample.ensureValid.exec .epoch sampleTimeless).2.tokens ≠ .authenticated ∧
      (Session.sample.ensureValid.exec .epoch
        (Session.sample.ensureValid.exec .epoch sampleTimeless).2).1 ≠ .ok "a" := by
    decide +kernel
  have hsent : ∃ x ∈ ((Drive.perform ⟨.sample, .root⟩ (.list .root)).exec .epoch
      sampleTimeless).2.exchanges, ("authorization", "Bearer a") ∈ x.1.headers := by
    decide +kernel
  rcases hexec : Session.sample.ensureValid.exec .epoch sampleTimeless with ⟨result, m⟩
  rw [hexec] at hfacts
  obtain ⟨rfl, hended, hagain⟩ := hfacts
  exact ⟨m, rfl, hended, fun h => hagain (congrArg Prod.fst h), hsent⟩

end Drive
end RemoteDrive
