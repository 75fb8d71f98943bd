import RemoteDrive.Proofs.Drive.Put
import RemoteDrive.Proofs.Drive.Tokens

/-!
# How an operation can go

An operation on objects ends in one of four ways. It would give a name that may not be given, and
then nothing has happened at all. Or its file breaks off while it is read. Or the session has no
token for it. Or it goes to the service with its token and does there what its plan says.

`Course` lists the four with what the host is told and what is left behind. What an operation does
to the outside, and what its failures say, is read off this list; `perform_course` is the one place
where the operations are followed through their preparation for it.

The other steps of a drive go to the session alone, or nowhere (`Aside`). With both lists what any
step sends is known request by request (`exchanges_of_perform`).
-/

set_option autoImplicit false

namespace RemoteDrive
namespace Drive

variable {d : Drive} {step : Step} {now : Instant} {l l' : Live}

/-- The name that a step gives to an object. -/
def Step.name? : Step → Option String
  | .makeDir _ name => some name
  | .rename _ name => some name
  | .put _ stream _ => some stream.name
  | _ => none

inductive Course (d : Drive) (now : Instant) (l : Live) :
    Step → Except (Stop Failure) Outcome → Live → Prop
  | misnamed {step : Step} {name : String} {why : NameFault} (hname : step.name? = some name)
    (hwhy : Name.fault? name = some why) :
    Course d now l step (.error (.failed ⟨[], .badName why⟩)) l
  | unread {target : RemoteId} {stream : FileStream} {watched : Bool} {text : String} {l' : Live}
    (hname : Name.fault? stream.name = none) (hbroken : stream.broken? = some text)
    (hl : l.Alike l') :
    Course d now l (.put target stream watched)
      (.error (.failed ⟨[.reading stream.name], .stated .io text⟩)) l'
  | tokenless {step : Step} {job : Job} {stop : Stop Fault} {m l' : Live}
    (hjob : step.job? = some job) (hasked : d.session.ensureValid.exec now l = (.error stop, m))
    (hl : m.Alike l') :
    Course d now l step (.error (unserved job stop)) l'
  | served {step : Step} {job : Job} {token : String} {m l' : Live}
    (hjob : step.job? = some job) (hasked : d.session.ensureValid.exec now l = (.ok token, m))
    (hl : ((d.plan token now job).run m).2.Alike l') :
    Course d now l step (((d.plan token now job).run m).1.mapError (.failed ∘ job.tells)) l'

/-! ## The two early ends -/

theorem exec_misnamed {name : String} {why : NameFault} (hname : step.name? = some name)
    (hwhy : Name.fault? name = some why) :
    (d.perform step).exec now l = (.error (.failed ⟨[], .badName why⟩), l) := by
  have hcheck : checkName name = Act.fail (.ofFault (.badName why)) := by
    rw [checkName, hwhy]
  cases step with
  | makeDir | rename | put =>
    cases hname
    simp only [perform, makeDir, rename, put, hcheck]
    rfl
  | init | shutdown | list | link | move | remove => cases hname
  | archiveMeta | listArchive | extract | decompress | details => cases hname

theorem exec_unread {target : RemoteId} {stream : FileStream} {watched : Bool} {text : String}
    (hname : Name.fault? stream.name = none) (hbroken : stream.broken? = some text) :
    ∃ l', l.Alike l' ∧ (d.perform (.put target stream watched)).exec now l =
      (.error (.failed ⟨[.reading stream.name], .stated .io text⟩), l') := by
  obtain ⟨first, hfirst⟩ : ∃ first, prepare? (.put target stream watched) = some first := ⟨_, rfl⟩
  obtain ⟨k, hprepare, -⟩ := exec_prepare_put hfirst hname now l
  obtain ⟨ready, os, hos, hnotes⟩ := prepare_notes hfirst now
  obtain ⟨-, rfl⟩ := Prod.mk.inj (hprepare.symm.trans (hnotes l))
  rw [hbroken] at hprepare
  refine ⟨_, Live.Alike.noted l hos, ?_⟩
  rw [perform_eq hfirst]
  exact Act.exec_bind_error hprepare

/-- What keeps an operation from becoming a job. -/
theorem fault_of_no_job {first : Act Failure Job} (hfirst : prepare? step = some first)
    (hjob : step.job? = none) :
    (∃ name why, step.name? = some name ∧ Name.fault? name = some why) ∨
      ∃ target stream watched text, step = .put target stream watched ∧
        Name.fault? stream.name = none ∧ stream.broken? = some text := by
  cases step with
  | list | link | move | remove => cases hjob
  | makeDir parent name | rename o name =>
    simp only [Step.job?] at hjob
    split at hjob
    · cases hjob
    · obtain ⟨why, hwhy⟩ := Option.ne_none_iff_exists'.mp ‹_›
      exact .inl ⟨name, why, rfl, hwhy⟩
  | put target stream watched =>
    simp only [Step.job?] at hjob
    cases hname : Name.fault? stream.name with
    | some why => exact .inl ⟨stream.name, why, rfl, hname⟩
    | none =>
      cases hbroken : stream.broken? with
      | some text => exact .inr ⟨target, stream, watched, text, rfl, hname, hbroken⟩
      | none =>
        rw [if_pos ⟨hname, hbroken⟩] at hjob
        cases hjob
  | init | shutdown | archiveMeta | listArchive | extract | decompress | details => cases hfirst

theorem perform_course {first : Act Failure Job} {result : Except (Stop Failure) Outcome}
    (hfirst : prepare? step = some first) (h : (d.perform step).exec now l = (result, l')) :
    Course d now l step result l' := by
  cases hjob : step.job? with
  | none =>
    rcases fault_of_no_job hfirst hjob with
      ⟨name, why, hname, hwhy⟩ | ⟨target, stream, watched, text, rfl, hname, hbroken⟩
    · rw [exec_misnamed hname hwhy] at h
      cases h
      exact .misnamed hname hwhy
    · obtain ⟨k, hk, hexec⟩ : ∃ k, l.Alike k ∧
          (d.perform (.put target stream watched)).exec now l =
            (.error (.failed ⟨[.reading stream.name], .stated .io text⟩), k) :=
        exec_unread hname hbroken
      rw [hexec] at h
      cases h
      exact .unread hname hbroken hk
  | some job =>
    rcases hasked : d.session.ensureValid.exec now l with ⟨answer, m⟩
    obtain ⟨k, hk, hexec⟩ := exec_perform hjob hasked
    rw [hexec] at h
    cases answer with
    | error stop =>
      cases h
      exact .tokenless hjob hasked hk
    | ok token =>
      -- the plan goes the same way from `k` as from what the session has left
      obtain ⟨hresult, hafter⟩ := (d.plan token now job).run_alike hk
      cases h
      rw [hresult]
      exact .served hjob hasked hafter

/-! ## The other steps -/

/-- How a step that is no operation on objects can go. -/
inductive Aside (d : Drive) (now : Instant) (l : Live) :
    Step → Except (Stop Failure) Outcome → Live → Prop
  | entered {l' : Live} (ha : d.session.authenticate.exec now l = (.ok (), l')) :
    Aside d now l .init (.ok .done)
      (l'.add (.logged (.info "CZK storage initialised" [("root", d.root.text)])))
  | refused {why : Fault} {l' : Live}
    (ha : d.session.authenticate.exec now l = (.error (.failed why), l')) :
    Aside d now l .init (.error (.failed ⟨[.authenticating], why⟩)) l'
  | outside {l' : Live} (ha : d.session.authenticate.exec now l = (.error .outsideCalendar, l')) :
    Aside d now l .init (.error .outsideCalendar) l'
  | left {l' : Live} (hsame : l'.exchanges = l.exchanges) : Aside d now l .shutdown (.ok .done) l'
  | unknown {step : Step} (operation : Unsupported) :
    Aside d now l step (.error (.failed ⟨[], .unsupported operation⟩)) l

theorem perform_aside {result : Except (Stop Failure) Outcome} (hfirst : prepare? step = none)
    (h : (d.perform step).exec now l = (result, l')) : Aside d now l step result l' := by
  cases step with
  | init =>
    rw [exec_init] at h
    rcases ha : d.session.authenticate.exec now l with ⟨(why | _) | _, l₁⟩
    all_goals
      rw [ha] at h
      cases h
    · exact .refused ha
    · exact .outside ha
    · exact .entered ha
  | shutdown =>
    obtain ⟨l₁, hexec, -, hsame⟩ := Session.exec_invalidate (ε := Failure) now l
    rw [perform, shutdown, Act.exec_bind_ok hexec] at h
    cases h
    exact .left hsame
  | archiveMeta | listArchive | extract | decompress | details =>
    cases h
    exact .unknown _
  | list | link | makeDir | move | rename | remove | put => cases hfirst

/-! ## What is sent -/

/-- Asked in `l`, the session hands out a token in `m`. From there to `l'` the tokens are kept, and
what is sent are the requests of the step's job, with that token. -/
structure Supplied (d : Drive) (now : Instant) (l m l' : Live) (step : Step) (token : String)
    (own : List (Request × Reply)) : Prop where
  handed : d.session.ensureValid.exec now l = (.ok token, m)
  kept : l'.tokens = m.tokens
  requests : ∃ job, step.job? = some job ∧ Plan.Sent (job.requests d.client token) own

theorem Course.exchanges {result : Except (Stop Failure) Outcome}
    (h : Course d now l step result l') :
    ∃ session own, l'.exchanges = l.exchanges ++ (session ++ own) ∧
      (∀ x ∈ session, d.session.Own x.1) ∧
      (own = [] ∨ ∃ token m, m.exchanges = l.exchanges ++ session ∧
        d.Supplied now l m l' step token own) := by
  cases h with
  | misnamed => exact ⟨[], [], by simp, by simp, .inl rfl⟩
  | unread hname hbroken hl => exact ⟨[], [], by simp [hl.exchanges], by simp, .inl rfl⟩
  | tokenless hjob hasked hl =>
    obtain ⟨session, hsession, hown⟩ := (Session.extends_of_ensureValid hasked).exchanges
    refine ⟨session, [], ?_, hown, .inl rfl⟩
    rw [← hl.exchanges, hsession, List.append_nil]
  | @served _ job token m _ hjob hasked hl =>
    obtain ⟨session, hsession, hown⟩ := (Session.extends_of_ensureValid hasked).exchanges
    obtain ⟨own, hsent, hkinds⟩ := (d.plan_sends_requests token now job).exchanges_run m
    have hkept : l'.tokens = m.tokens := by rw [← hl.tokens, Plan.run_tokens]
    refine ⟨session, own, ?_, hown, .inr ⟨token, m, hsession, hasked, hkept, job, hjob, hkinds⟩⟩
    rw [← hl.exchanges, hsent, hsession, List.append_assoc]

/-- A step that is no operation on objects shows the credentials at most. -/
theorem Aside.exchanges {result : Except (Stop Failure) Outcome}
    (h : Aside d now l step result l') :
    ∃ xs, l'.exchanges = l.exchanges ++ xs ∧
      ∀ x ∈ xs, d.session.authenticateRequest = .ok x.1 := by
  cases h with
  | entered ha | refused ha | outside ha =>
    obtain ⟨xs, hxs, -, hshows⟩ := Session.exchanges_of_authenticate ha
    exact ⟨xs, by simpa using hxs, hshows⟩
  | left hsame => exact ⟨[], by simp [hsame], by simp⟩
  | unknown => exact ⟨[], by simp, by simp⟩

/-- **What a step sends**: requests of the session, and then, with the token that it has handed out
by these, the requests of its job. -/
theorem exchanges_of_perform {result : Except (Stop Failure) Outcome}
    (h : (d.perform step).exec now l = (result, l')) :
    ∃ session own, l'.exchanges = l.exchanges ++ (session ++ own) ∧
      (∀ x ∈ session, d.session.Own x.1) ∧
      (own = [] ∨ ∃ token m, m.exchanges = l.exchanges ++ session ∧
        d.Supplied now l m l' step token own) := by
  cases hfirst : prepare? step with
  | some first => exact (perform_course hfirst h).exchanges
  | none =>
    obtain ⟨xs, hxs, hshows⟩ := (perform_aside hfirst h).exchanges
    exact ⟨xs, [], by simpa using hxs, fun x hx => .inl (hshows x hx), .inl rfl⟩

end Drive
end RemoteDrive
