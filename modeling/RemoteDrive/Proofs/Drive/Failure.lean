import RemoteDrive.Proofs.Drive.Name

/-!
# What a failure says

A failure says what was wrong, and in front of that which operation it happened to. What was wrong
is a fault of the session, or one that was held against an answer, or one that an operation finds
in an answer of its own: the three are kept apart by their kinds.

The line in front is the operation's own, with one exception. A listing, a link and an upload ask
for their token before they say what they are about, and the other operations after
(`Job.asksFirst`). So where the session refuses, the host of a listing is told that there is no
token, and not that it was a listing that had none.
-/

set_option autoImplicit false

namespace RemoteDrive

/-! ## What is wrong -/

namespace Client

variable {c : Client} {token : String} {e : Endpoint} {why : Fault}

theorem kind_of_question {name value : String} (h : c.question token e name value = .error why) :
    why.kind = .transport :=
  Request.kind_of_withBearer (f := (·.withPair name value)) (fun _ => Request.kind_of_make) h

theorem kind_of_filled {form : List (String × String)} (h : c.filled token e form = .error why) :
    why.kind = .transport :=
  Request.kind_of_withBearer (f := (·.withForm form)) (fun _ => Request.kind_of_make) h

end Client

namespace Upload

theorem kind_of_formRequest {c : Client} {token path : String} {form : List (String × String)}
    {why : Fault} (h : formRequest c token path form = .error why) : why.kind = .transport :=
  Request.kind_of_withBearer (f := (·.withForm form)) (fun _ => Request.kind_of_make) h

theorem plan_blames (c : Client) (token : String) (d : UploadDescriptor) (now : Instant) :
    (plan c token d now).Blames [.uploadInit] := by
  refine .note (.ask (fun why => kind_of_formRequest) fun e => ?_)
  cases hticket : ticket e with
  | error why =>
    refine .done fun why' h => ?_
    cases h
    exact List.mem_singleton.mpr (kind_of_ticket hticket)
  | ok t =>
    refine .ask (fun why => kind_of_formRequest) fun e' => ?_
    refine .noteAll _ (.note (.done fun why h => ?_))
    cases h

end Upload

/-- What a job may find in an answer that the service calls good. -/
def Job.ownKinds : Job → List FaultKind
  | .link _ => [.linkUnavailable]
  | .put _ _ _ => [.uploadInit]
  | .list _ | .makeDir _ _ | .move _ _ | .rename _ _ | .remove _ => []

theorem Drive.plan_blames (d : Drive) (token : String) (now : Instant) (job : Job) :
    (d.plan token now job).Blames job.ownKinds := by
  cases job with
  | list dir =>
    refine .note (.ask (fun why => Client.kind_of_question) fun e => ?_)
    refine .noteAll _ (.note (.done fun why h => ?_))
    cases h
  | link file =>
    refine .note (.ask (fun why => Client.kind_of_question) fun e => .done fun why h => ?_)
    cases hurl : downloadUrl e with
    | ok url =>
      rw [hurl] at h
      cases h
    | error cause =>
      rw [hurl] at h
      cases h
      unfold downloadUrl at hurl
      split at hurl
      · cases hurl
      · cases hurl
        exact List.mem_singleton_self _
  | makeDir | remove =>
    refine .ask (fun why => Client.kind_of_filled) fun e => .note (.done fun why h => ?_)
    cases h
  | move | rename =>
    refine .ask (fun why => Client.kind_of_filled) fun e => .done fun why h => ?_
    cases h
  | put target name s => exact (Upload.plan_blames _ _ _ _).map _

/-- The kinds of fault that an operation with good arguments can end in. -/
def FaultKind.ofOperations : List FaultKind :=
  [.config, .auth, .transport, .http, .decode, .application, .linkUnavailable, .uploadInit, .io]

theorem Job.ownKinds_subset (job : Job) :
    [.transport, .http, .decode, .application] ++ job.ownKinds ⊆ FaultKind.ofOperations := by
  cases job <;> simp [Job.ownKinds, FaultKind.ofOperations]

/-! ## What it happened to -/

theorem Failure.message_within (c : Context) (f : Failure) :
    (f.within c).message = c.line ++ ": " ++ f.message := by
  obtain ⟨contexts, fault⟩ := f
  cases contexts with
  | nil => exact String.intercalate_cons_cons
  | cons c' contexts => exact String.intercalate_cons_cons

theorem Job.fault_told (job : Job) (f : Failure) : (job.told f).fault = f.fault := by
  cases job <;> rfl

/-- The job asks for its token before it says what it is about. -/
def Job.asksFirst : Job → Bool
  | .list _ | .link _ | .put _ _ _ => true
  | .makeDir _ _ | .move _ _ | .rename _ _ | .remove _ => false

theorem Job.told_of_asksFirst {job : Job} (h : job.asksFirst = true) (f : Failure) :
    job.told f = f := by
  cases job with
  | list | link | put => rfl
  | makeDir | move | rename | remove => cases h

theorem Job.told_of_not_asksFirst {job : Job} (h : job.asksFirst = false) (f : Failure) :
    job.told f = f.within job.context := by
  cases job with
  | list | link | put => cases h
  | makeDir | move | rename | remove => rfl

namespace Drive

variable {d : Drive} {step : Step} {now : Instant} {l l' : Live} {failure : Failure}

/-- How an operation can fail. -/
inductive Failing (d : Drive) (now : Instant) (l : Live) : Step → Failure → Prop
  | misnamed {step : Step} {name : String} {why : NameFault} (hname : step.name? = some name)
    (hwhy : Name.fault? name = some why) : Failing d now l step ⟨[], .badName why⟩
  | unread {target : RemoteId} {stream : FileStream} {watched : Bool} {text : String}
    (hbroken : stream.broken? = some text) :
    Failing d now l (.put target stream watched) ⟨[.reading stream.name], .stated .io text⟩
  | refused {step : Step} {job : Job} {why : Fault} {m : Live} (hjob : step.job? = some job)
    (hasked : d.session.ensureValid.exec now l = (.error (.failed why), m)) :
    Failing d now l step (job.told ⟨[.accessToken], why⟩)
  | served {step : Step} {job : Job} {token : String} {m : Live} {why : Fault}
    (hjob : step.job? = some job) (hasked : d.session.ensureValid.exec now l = (.ok token, m))
    (hrun : ((d.plan token now job).run m).1 = .error why) :
    Failing d now l step ⟨[job.context], why⟩

theorem failing_of_perform {first : Act Failure Job} (hfirst : prepare? step = some first)
    (h : (d.perform step).exec now l = (.error (.failed failure), l')) :
    d.Failing now l step failure := by
  obtain ⟨result, hresult⟩ : ∃ result : Except (Stop Failure) Outcome,
      result = .error (.failed failure) := ⟨_, rfl⟩
  rw [← hresult] at h
  cases perform_course hfirst h with
  | misnamed hname hwhy =>
    cases hresult
    exact .misnamed hname hwhy
  | unread hname hbroken hl =>
    cases hresult
    exact .unread hbroken
  | @tokenless _ job stop m _ hjob hasked hl =>
    cases stop with
    | outsideCalendar => cases hresult
    | failed why =>
      cases hresult
      exact .refused hjob hasked
  | @served _ job token m _ hjob hasked hl =>
    cases hrun : ((d.plan token now job).run m).1 with
    | ok outcome =>
      rw [hrun] at hresult
      cases hresult
    | error why =>
      rw [hrun] at hresult
      cases hresult
      exact .served hjob hasked hrun

/-- The lines under which a step tells its failures; an upload has one for each of its halves. -/
def Step.lines : Step → List Context
  | .list dir => [.listing dir]
  | .link file => [.linking file]
  | .makeDir parent name => [.creating name parent]
  | .move o target => [.moving o.id target]
  | .rename o name => [.renaming o.id name]
  | .remove o => [.deleting o.id]
  | .put target stream _ => [.reading stream.name, .uploading stream.name target]
  | .init => [.authenticating]
  | .shutdown | .archiveMeta _ | .listArchive _ _ | .extract _ _ | .decompress _ _ | .details => []

theorem context_mem_lines {job : Job} (h : step.job? = some job) : job.context ∈ step.lines := by
  cases Step.ready_of_job h with
  | list | link | makeDir | move | rename | remove => exact List.mem_singleton_self _
  | put => exact List.mem_cons_of_mem _ (List.mem_singleton_self _)

/-- The failure is told under a line of the step. -/
def Named (step : Step) (f : Failure) : Prop :=
  ∃ line ∈ step.lines, ∃ inner : Failure, f = inner.within line ∧
    f.message = line.line ++ ": " ++ inner.message

theorem named_of_mem {line : Context} (h : line ∈ step.lines) (inner : Failure) :
    Named step (inner.within line) :=
  ⟨line, h, inner, rfl, Failure.message_within line inner⟩

/-- The session has no token for the step, which asks for one before it says what it is about. -/
def TurnedAway (d : Drive) (now : Instant) (l : Live) (step : Step) (why : Fault) : Prop :=
  ∃ job m, step.job? = some job ∧ job.asksFirst = true ∧
    d.session.ensureValid.exec now l = (.error (.failed why), m)

theorem not_turnedAway_of_no_job {why : Fault} (h : step.job? = none) :
    ¬ d.TurnedAway now l step why := by
  rintro ⟨job, m, hjob, -⟩
  rw [h] at hjob
  cases hjob

theorem not_turnedAway_of_told {job : Job} {why : Fault} (hjob : step.job? = some job)
    (h : job.asksFirst = false) : ¬ d.TurnedAway now l step why := by
  rintro ⟨job', m, hjob', hfirst, -⟩
  cases hjob.symm.trans hjob'
  rw [h] at hfirst
  cases hfirst

theorem not_turnedAway_of_served {token : String} {m : Live} {why : Fault}
    (h : d.session.ensureValid.exec now l = (.ok token, m)) : ¬ d.TurnedAway now l step why := by
  rintro ⟨job, m', -, -, hasked⟩
  rw [h] at hasked
  cases hasked

theorem job_of_unread {target : RemoteId} {stream : FileStream} {watched : Bool} {text : String}
    (h : stream.broken? = some text) : Step.job? (.put target stream watched) = none := by
  refine if_neg fun hgood => ?_
  rw [h] at hgood
  cases hgood.2

/-- **A failed operation tells what it was, unless the session has turned it away**: then it tells
no more than that there is no token, if it is one of those that ask first. -/
theorem failure_told (d : Drive) {step : Step} {first : Act Failure Job}
    (hfirst : prepare? step = some first)
    (hname : ∀ name, step.name? = some name → Name.Usable name) {now : Instant} {l l' : Live}
    {failure : Failure} (h : (d.perform step).exec now l = (.error (.failed failure), l')) :
    failure.fault.kind ∈ FaultKind.ofOperations ∧
      (d.TurnedAway now l step failure.fault ∧ failure = ⟨[.accessToken], failure.fault⟩ ∨
        (∀ why, ¬ d.TurnedAway now l step why) ∧ Named step failure) := by
  cases failing_of_perform hfirst h with
  | misnamed hgiven hwhy =>
    -- the name may be given
    have husable := Name.fault?_eq_none_iff.mpr (hname _ hgiven)
    rw [hwhy] at husable
    cases husable
  | @unread target stream watched text hbroken =>
    refine ⟨by simp [Fault.kind, FaultKind.ofOperations], .inr ⟨fun why => ?_, ?_⟩⟩
    · exact not_turnedAway_of_no_job (job_of_unread hbroken)
    · exact named_of_mem (List.mem_cons_self ..) ⟨[], .stated .io text⟩
  | @refused _ job why m hjob hasked =>
    have hkind : why.kind ∈ FaultKind.ofOperations := by
      rcases Session.kind_of_ensureValid hasked with h | ⟨h, -⟩
      all_goals
        rw [h]
        decide
    rw [job.fault_told]
    refine ⟨hkind, ?_⟩
    -- the one place where the two ways of asking differ
    cases hasks : job.asksFirst with
    | true =>
      rw [Job.told_of_asksFirst hasks]
      exact .inl ⟨⟨job, m, hjob, hasks, hasked⟩, rfl⟩
    | false =>
      rw [Job.told_of_not_asksFirst hasks]
      refine .inr ⟨fun _ => not_turnedAway_of_told hjob hasks, ?_⟩
      exact named_of_mem (context_mem_lines hjob) _
  | @served _ job token m why hjob hasked hrun =>
    refine ⟨?_, .inr ⟨fun _ => not_turnedAway_of_served hasked, ?_⟩⟩
    · exact job.ownKinds_subset ((d.plan_blames token now job).kind_of_run hrun)
    · exact named_of_mem (context_mem_lines hjob) ⟨[], why⟩

/-- A new folder that the peer does not answer is told as one, with the peer's silence behind it. -/
theorem failure_told_creating : ∃ failure l',
    (Drive.perform ⟨.sample, .root⟩ (.makeDir .root "new")).exec .epoch sampleRenewing =
        (.error (.failed failure), l') ∧
      failure.fault.kind ∈ FaultKind.ofOperations ∧ Named (.makeDir .root "new") failure := by
  have hfailed : ((Drive.perform ⟨.sample, .root⟩ (.makeDir .root "new")).exec .epoch
      sampleRenewing).1 = .error (.failed ⟨[.creating "new" .root],
        .notAnswered "http://h/create_folder"⟩) := by
    decide +kernel
  rcases hexec : (Drive.perform ⟨.sample, .root⟩ (.makeDir .root "new")).exec .epoch
    sampleRenewing with ⟨result, l'⟩
  rw [hexec] at hfailed
  cases hfailed
  have husable : ∀ name, Step.name? (.makeDir .root "new") = some name → Name.Usable name := by
    intro name hname
    cases hname
    exact Name.fault?_eq_none_iff.mp (by decide)
  obtain ⟨hkind, ⟨-, hbare⟩ | ⟨-, hnamed⟩⟩ := failure_told ⟨.sample, .root⟩ rfl husable hexec
  · cases hbare
  · exact ⟨_, l', rfl, hkind, hnamed⟩

/-- Nothing is held, and no peer is there. -/
def sampleAlone : Live := ⟨none, ⟨false, []⟩, []⟩

/-- A listing that gets no token does not say that it was one, where a new folder does. -/
theorem failure_told_bare : ∃ failure l' failure' l'',
    (Drive.perform ⟨.sample, .root⟩ (.list .root)).exec .epoch sampleAlone =
        (.error (.failed failure), l') ∧
      failure.message = "failed to obtain a valid access token: Authentication failed: " ++
        "authentication request failed: Network error: error sending request for url " ++
        "(http://h/authenticate)" ∧
      ¬ Named (.list .root) failure ∧
    (Drive.perform ⟨.sample, .root⟩ (.makeDir .root "new")).exec .epoch sampleAlone =
        (.error (.failed failure'), l'') ∧
      failure' = failure.within (.creating "new" .root) := by
  have hfailed : ((Drive.perform ⟨.sample, .root⟩ (.list .root)).exec .epoch sampleAlone).1 =
      .error (.failed ⟨[.accessToken],
        .authenticationFailed (.notAnswered "http://h/authenticate")⟩) := by
    decide +kernel
  have hfailed' : ((Drive.perform ⟨.sample, .root⟩ (.makeDir .root "new")).exec .epoch
      sampleAlone).1 = .error (.failed ⟨[.creating "new" .root, .accessToken],
        .authenticationFailed (.notAnswered "http://h/authenticate")⟩) := by
    decide +kernel
  rcases hexec : (Drive.perform ⟨.sample, .root⟩ (.list .root)).exec .epoch sampleAlone
    with ⟨result, l'⟩
  rcases hexec' : (Drive.perform ⟨.sample, .root⟩ (.makeDir .root "new")).exec .epoch sampleAlone
    with ⟨result', l''⟩
  rw [hexec] at hfailed
  rw [hexec'] at hfailed'
  cases hfailed
  cases hfailed'
  refine ⟨_, l', _, l'', rfl, by decide +kernel, ?_, rfl, rfl⟩
  rintro ⟨line, hline, inner, hinner, -⟩
  rw [List.mem_singleton.mp hline] at hinner
  cases hinner

end Drive
end RemoteDrive
