import RemoteDrive.Proofs.Drive.Operation
import RemoteDrive.Proofs.Upload.Handshake
import RemoteDrive.Proofs.Upload.Spool

/-!
# Operations and their plans

The seven operations on objects are written in three shapes: some build their request themselves,
some share the form that they post, and an upload goes to the client twice. They all come to one
scheme. An operation whose arguments are good is a job (`Step.job?`). For a job the session is asked
for a token, as it would be asked if nothing had gone before, and with the token the job follows a
plan (`work_follows`), in which what is made of an answer is a function of the answer and the clock.

So the parts of an operation can be told apart from outside. `perform_refines` says what the session
leaves, what is sent after it, and what the result is; the tokens are the session's alone, whatever
is answered later.
-/

set_option autoImplicit false

namespace RemoteDrive

/-! ## The plan of a job -/

namespace Client

/-- A question with a token and one parameter. -/
def question (c : Client) (token : String) (e : Endpoint) (name value : String) :
    Except Fault Request := do
  let r ← c.request e.method e.path e.profile
  let r ← r.withBearer token
  return r.withPair name value

/-- A form with a token. -/
def filled (c : Client) (token : String) (e : Endpoint) (form : List (String × String)) :
    Except Fault Request := do
  let r ← c.request e.method e.path e.profile
  let r ← r.withBearer token
  return r.withForm form

end Client

namespace Job

/-- The line under which a job tells its own failures. -/
def context : Job → Context
  | .list dir => .listing dir
  | .link file => .linking file
  | .makeDir parent name => .creating name parent
  | .move o target => .moving o.id target
  | .rename o name => .renaming o.id name
  | .remove o => .deleting o.id
  | .put target name _ => .uploading name target

def tells (job : Job) (why : Fault) : Failure := ⟨[job.context], why⟩

end Job

namespace Drive

variable {d : Drive} {now : Instant} {l l' : Live} {token : String}

/-- What a job does with a token. -/
def plan (d : Drive) (token : String) (now : Instant) : Job → Plan Outcome
  | .list dir =>
    .note (.debug "CzkDriver::list" [("folder", dir.text)]) <|
    .ask (d.client.question token .list "folder_id" dir.text) .operation fun e =>
    .noteAll (Listing.allReports (items e)) <|
    .note (.debug "Listed folder" [("folder", dir.text),
      ("count", Decimal.nat (Listing.objects now (items e)).length)]) <|
    .done (.ok (.objects (Listing.objects now (items e))))
  | .link file =>
    .note (.debug "CzkDriver::link" [("id", file.text)]) <|
    .ask (d.client.question token .link "file_id" file.text) .service fun e =>
    .done ((fun url => .link ⟨url, [("User-Agent", d.client.userAgent)]⟩) <$> downloadUrl e)
  | .makeDir parent name =>
    .ask (d.client.filled token .makeDir [("parent_id", parent.text), ("name", name)])
      .operation fun e =>
    .note (.info "Folder created" [("id", (created name now e).id), ("name", name)]) <|
    .done (.ok (.object (created name now e)))
  | .move o target =>
    .ask (d.client.filled token .move (objectForm o ++ [("target_id", target.text)]))
      .operation fun e =>
    .done (.ok (.object (moved o now e)))
  | .rename o name =>
    .ask (d.client.filled token .rename (objectForm o ++ [("new_name", name)])) .operation fun _ =>
    .done (.ok (.object ((o.withName name).withModified now)))
  | .remove o =>
    .ask (d.client.filled token .remove (objectForm o)) .operation fun _ =>
    .note (.info "Object deleted" [("id", o.id)]) <| .done (.ok .done)
  | .put target name s => (Upload.plan d.client token (.ofSpool name target s) now).map .object

/-- **A job follows its plan.** -/
theorem work_follows (d : Drive) (token : String) (now : Instant) (job : Job) :
    Follows job.tells now (d.work token job) (d.plan token now job) := by
  cases job with
  | list dir =>
    simp only [work, listWith, query, inside, lift, Act.mapFailure_comp, bind_assoc, pure_bind]
    apply Follows.log
    apply Follows.toldExecute
    intro e
    apply Follows.logAll
    apply Follows.atMoment
    apply Follows.log
    exact .pure _
  | link file =>
    simp only [work, linkWith, query, inside, lift, Act.mapFailure_comp, Act.mapFailure_bind,
      bind_assoc]
    apply Follows.log
    apply Follows.toldExecute
    intro e l
    cases downloadUrl e <;> rfl
  | makeDir parent name =>
    simp only [work, makeDirWith, post, inside, lift, Act.mapFailure_comp, Act.mapFailure_bind,
      Act.mapFailure_log, Act.mapFailure_now, Act.mapFailure_pure, bind_assoc, pure_bind]
    apply Follows.toldExecute
    intro e
    apply Follows.atMoment
    apply Follows.log
    exact .pure _
  | move o target =>
    simp only [work, moveWith, post, inside, lift, Act.mapFailure_comp, Act.mapFailure_bind,
      Act.mapFailure_now, Act.mapFailure_pure, bind_assoc, pure_bind]
    apply Follows.toldExecute
    intro e
    apply Follows.atMoment
    exact .pure _
  | rename o name =>
    simp only [work, renameWith, post, inside, lift, Act.mapFailure_comp, Act.mapFailure_bind,
      Act.mapFailure_now, Act.mapFailure_pure, bind_assoc, pure_bind]
    apply Follows.toldExecute
    intro e
    apply Follows.atMoment
    exact .pure _
  | remove o =>
    simp only [work, removeWith, post, inside, lift, Act.mapFailure_comp, Act.mapFailure_bind,
      Act.mapFailure_pure, bind_assoc, pure_bind]
    apply Follows.toldExecute
    intro e
    apply Follows.log
    exact .pure _
  | put target name s =>
    simp only [work, putWith, inside, lift, Act.mapFailure_comp]
    have htransfer := Upload.transfer_follows d.client token (.ofSpool name target s) now
    exact (htransfer.mapFailure _).map Outcome.object

end Drive

/-! ## What a job sends -/

namespace Client

variable {c : Client} {token : String} {e : Endpoint} {r : Request}

theorem objectRequest_of_question {name value : String} (hname : e.parameter? = some name)
    (h : c.question token e name value = .ok r) : c.ObjectRequest token e r :=
  .query name value hname h

theorem objectRequest_of_filled {form : List (String × String)} (hobjects : e.isForObjects = true)
    (hnames : e.form? = some (form.map Prod.fst)) (h : c.filled token e form = .ok r) :
    c.ObjectRequest token e r :=
  .form form hobjects hnames h

end Client

/-- The endpoints that a job is about, in the order in which it calls them. -/
def Job.endpoints : Job → List Endpoint
  | .list _ => [.list]
  | .link _ => [.link]
  | .makeDir _ _ => [.makeDir]
  | .move _ _ => [.move]
  | .rename _ _ => [.rename]
  | .remove _ => [.remove]
  | .put _ _ _ => [.announce, .confirm]

/-- What a job may send, in this order. -/
def Job.kinds (job : Job) (c : Client) (token : String) : List (Request → Prop) :=
  job.endpoints.map (c.ObjectRequest token)

/-- What a job sends, told by all that is in it. Only the second form of an upload is not settled
beforehand, for it bears the ticket. -/
def Job.requests (c : Client) (token : String) : Job → List (Request → Prop)
  | .list dir => [fun r => c.question token .list "folder_id" dir.text = .ok r]
  | .link file => [fun r => c.question token .link "file_id" file.text = .ok r]
  | .makeDir parent name =>
    [fun r => c.filled token .makeDir [("parent_id", parent.text), ("name", name)] = .ok r]
  | .move o target =>
    [fun r => c.filled token .move (Drive.objectForm o ++ [("target_id", target.text)]) = .ok r]
  | .rename o name =>
    [fun r => c.filled token .rename (Drive.objectForm o ++ [("new_name", name)]) = .ok r]
  | .remove o => [fun r => c.filled token .remove (Drive.objectForm o) = .ok r]
  | .put target name s =>
    [Upload.Announces c token (.ofSpool name target s),
      Upload.Confirms c token (.ofSpool name target s)]

theorem Job.kinds_of_requests (job : Job) (c : Client) (token : String) :
    List.Forall₂ (fun kind kind' => ∀ r, kind r → kind' r) (job.requests c token)
      (job.kinds c token) := by
  cases job with
  | list | link =>
    refine .cons ?_ .nil
    intro r hr
    exact Client.objectRequest_of_question rfl hr
  | makeDir | move | rename | remove =>
    refine .cons ?_ .nil
    intro r hr
    exact Client.objectRequest_of_filled rfl rfl hr
  | put target name s =>
    refine .cons ?_ (.cons ?_ .nil)
    · intro r hr
      exact .form _ rfl rfl hr
    · rintro r ⟨t, hr⟩
      exact .form _ rfl rfl hr

namespace Drive

variable {d : Drive} {now : Instant} {l l' : Live} {token : String}

theorem plan_sends_requests (d : Drive) (token : String) (now : Instant) (job : Job) :
    (d.plan token now job).Sends (job.requests d.client token) := by
  cases job with
  | list dir =>
    refine .note (.ask (fun r hr => hr) fun e => ?_)
    exact .noteAll _ (.note (.done _ _))
  | link file => exact .note (.ask (fun r hr => hr) fun e => .done _ _)
  | makeDir parent name => exact .ask (fun r hr => hr) fun e => .note (.done _ _)
  | move o target => exact .ask (fun r hr => hr) fun e => .done _ _
  | rename o name => exact .ask (fun r hr => hr) fun e => .done _ _
  | remove o => exact .ask (fun r hr => hr) fun e => .note (.done _ _)
  | put target name s => exact (Upload.plan_sends _ _ _ _).map _

theorem plan_sends (d : Drive) (token : String) (now : Instant) (job : Job) :
    (d.plan token now job).Sends (job.kinds d.client token) :=
  (d.plan_sends_requests token now job).mono (job.kinds_of_requests d.client token)

/-! ## Before the token -/

/-- What is left to do for a step once it is known that its arguments are good: a name may be given,
and a stream does not break. -/
def Step.job? : Step → Option Job
  | .list dir => some (.list dir)
  | .link file => some (.link file)
  | .makeDir parent name =>
    if Name.fault? name = none then some (.makeDir parent name) else none
  | .move o target => some (.move o target)
  | .rename o name => if Name.fault? name = none then some (.rename o name) else none
  | .remove o => some (.remove o)
  | .put target stream _ =>
    if Name.fault? stream.name = none ∧ stream.broken? = none then
      some (.put target stream.name stream.spooled)
    else none
  | _ => none

/-- The steps that leave a job, with what is known of their arguments then. -/
inductive Step.Ready : Step → Job → Prop
  | list {dir : RemoteId} : Ready (.list dir) (.list dir)
  | link {file : RemoteId} : Ready (.link file) (.link file)
  | makeDir {parent : RemoteId} {name : String} (hname : Name.fault? name = none) :
    Ready (.makeDir parent name) (.makeDir parent name)
  | move {o : RemoteObject} {target : RemoteId} : Ready (.move o target) (.move o target)
  | rename {o : RemoteObject} {name : String} (hname : Name.fault? name = none) :
    Ready (.rename o name) (.rename o name)
  | remove {o : RemoteObject} : Ready (.remove o) (.remove o)
  | put {target : RemoteId} {stream : FileStream} {watched : Bool}
    (hname : Name.fault? stream.name = none) (hbroken : stream.broken? = none) :
    Ready (.put target stream watched) (.put target stream.name stream.spooled)

theorem Step.ready_of_job {step : Step} {job : Job} (h : step.job? = some job) :
    step.Ready job := by
  cases step with
  | list | link | move | remove =>
    cases h
    constructor
  | makeDir | rename =>
    simp only [Step.job?] at h
    split at h
    · cases h
      constructor
      assumption
    · cases h
  | put =>
    simp only [Step.job?] at h
    split at h
    · rename_i hgood
      cases h
      exact .put hgood.1 hgood.2
    · cases h
  | init | shutdown | archiveMeta | listArchive | extract | decompress | details => cases h

theorem checkName_of_valid {name : String} (h : Name.fault? name = none) :
    checkName name = pure () := by
  rw [checkName, h]

theorem exec_spool (stream : FileStream) (watched : Bool) (now : Instant) (l : Live) :
    ∃ l', (spool stream watched).exec now l =
        (stream.broken?.elim (.ok stream.spooled)
          fun text => .error (.failed ⟨[.reading stream.name], .stated .io text⟩), l') ∧
      l'.reads = l.reads ++ stream.made := by
  obtain ⟨l', hexec, hreads⟩ := Spool.exec_ofStream stream watched now l
  refine ⟨l', ?_, hreads⟩
  rw [spool, inside, lift, Act.mapFailure_comp, Act.exec_mapFailure, hexec]
  cases stream.broken? <;> rfl

/-- A file is read before the session is called. -/
theorem exec_prepare_put {target : RemoteId} {stream : FileStream} {watched : Bool}
    {first : Act Failure Job} (hfirst : prepare? (.put target stream watched) = some first)
    (hname : Name.fault? stream.name = none) (now : Instant) (l : Live) :
    ∃ l', first.exec now l =
        (stream.broken?.elim (.ok (.put target stream.name stream.spooled))
          fun text => .error (.failed ⟨[.reading stream.name], .stated .io text⟩), l') ∧
      l'.reads = l.reads ++ stream.made := by
  cases hfirst
  rw [checkName_of_valid hname, pure_bind, Act.exec_bind_ok (Act.exec_log _)]
  obtain ⟨l', hexec, hreads⟩ := exec_spool stream watched now (l.add (.logged
    (.debug "CzkDriver::put" [("folder", target.text), ("name", stream.name),
      ("size", Decimal.nat stream.size.toNat)])))
  refine ⟨l', ?_, by simpa using hreads⟩
  cases hbroken : stream.broken? with
  | some text =>
    rw [hbroken] at hexec
    exact Act.exec_bind_error hexec
  | none =>
    rw [hbroken] at hexec
    rw [Act.exec_bind_ok hexec]
    rfl

theorem prepared_of_job {step : Step} {job : Job} (h : step.job? = some job) :
    ∃ first, prepare? step = some first ∧ ∀ now l, (first.exec now l).1 = .ok job := by
  cases Step.ready_of_job h with
  | list | link | move | remove => exact ⟨_, rfl, fun _ _ => rfl⟩
  | makeDir hname | rename hname =>
    refine ⟨_, rfl, fun now l => ?_⟩
    rw [checkName_of_valid hname]
    rfl
  | put hname hbroken =>
    refine ⟨_, rfl, fun now l => ?_⟩
    obtain ⟨l', hexec, -⟩ := exec_prepare_put rfl hname now l
    rw [hexec, hbroken]
    rfl

end Drive

/-- Notes that are no requests make no difference. -/
theorem Live.Alike.noted (l : Live) {os : List Occurrence}
    (hos : ∀ r reply, .sent r reply ∉ os) : l.Alike { l with history := l.history ++ os } := by
  have hnone : ({ l with history := os } : Live).exchanges = [] := by
    rw [Live.exchanges, List.filterMap_eq_nil_iff]
    intro o ho
    cases o with
    | sent r reply => exact absurd ho (hos r reply)
    | logged | read | reported => rfl
  have hbehind := Live.exchanges_behind { l with history := os } l
  rw [hnone, List.append_nil] at hbehind
  exact ⟨rfl, rfl, hbehind.symm⟩

namespace Drive

variable {d : Drive} {now : Instant} {l : Live}

/-! ## The whole operation -/

/-- How a job is told that there is no token for it. -/
def unserved (job : Job) : Stop Fault → Stop Failure
  | .failed why => .failed (job.told ⟨[.accessToken], why⟩)
  | .outsideCalendar => .outsideCalendar

/-- What comes before the session's call leaves nothing behind that it could see, so that it is the
same call as at the start. -/
theorem exec_perform {step : Step} {job : Job} (hjob : step.job? = some job)
    {answer : Except (Stop Fault) String} {m : Live}
    (hanswer : d.session.ensureValid.exec now l = (answer, m)) :
    ∃ k, m.Alike k ∧ (d.perform step).exec now l =
      match answer with
      | .error stop => (.error (unserved job stop), k)
      | .ok token =>
        (((d.plan token now job).run k).1.mapError (.failed ∘ job.tells),
          ((d.plan token now job).run k).2) := by
  obtain ⟨first, hfirst, hready⟩ := prepared_of_job hjob
  obtain ⟨ready, os, hos, hnotes⟩ := prepare_notes hfirst now
  -- one run says what the preparation gives, the other what it leaves
  have hexec : first.exec now l = (.ok job, { l with history := l.history ++ os }) := by
    have hready := hready now l
    rw [hnotes] at hready ⊢
    rw [show ready = .ok job from hready]
  obtain ⟨k, hk, halike⟩ := Session.ensureValid_blind.alike (Live.Alike.noted l hos) hanswer
  refine ⟨k, halike, ?_⟩
  rw [perform_eq hfirst, Act.exec_bind_ok hexec, exec_carryOut, hk]
  cases answer with
  | error stop => cases stop <;> rfl
  | ok token => exact d.work_follows token now job k

theorem length_endpoints_le (job : Job) : job.endpoints.length ≤ 2 := by
  cases job <;> simp [Job.endpoints]

theorem isPut_of_endpoints {step : Step} {job : Job} (hjob : step.job? = some job)
    (h : 2 ≤ job.endpoints.length) : ∃ target stream watched, step = .put target stream watched := by
  cases Step.ready_of_job hjob with
  | put => exact ⟨_, _, _, rfl⟩
  | list | link | makeDir | move | rename | remove => simp [Job.endpoints] at h

/-- **An operation is a token and then its own requests.** -/
theorem perform_refines (d : Drive) {step : Step} {job : Job} (hjob : step.job? = some job)
    (now : Instant) (l : Live) :
    ∃ answer m result l', d.session.ensureValid.exec now l = (answer, m) ∧
      (d.perform step).exec now l = (result, l') ∧ l'.tokens = m.tokens ∧
      (∀ stop, answer = .error stop →
        result = .error (unserved job stop) ∧ l'.exchanges = m.exchanges) ∧
      (∀ token, answer = .ok token →
        result = ((d.plan token now job).run m).1.mapError (.failed ∘ job.tells) ∧
        ∃ own, l'.exchanges = m.exchanges ++ own ∧ Plan.Sent (job.kinds d.client token) own ∧
          own.length ≤ 2 ∧
          (own.length = 2 → ∃ target stream watched, step = .put target stream watched)) ∧
      (Session.holdsValid now l →
        m = l ∧ ∃ t, l.tokens = some t ∧ answer = .ok t.accessToken) := by
  rcases hanswer : d.session.ensureValid.exec now l with ⟨answer, m⟩
  obtain ⟨k, halike, hexec⟩ := exec_perform hjob hanswer
  have hvalid : Session.holdsValid now l →
      m = l ∧ ∃ t, l.tokens = some t ∧ answer = .ok t.accessToken := by
    intro hv
    cases Session.ensureValid_course hanswer with
    | held _ ht => exact ⟨rfl, _, ht, rfl⟩
    | refreshed hv' | lost hv' | authenticated hv' | refused hv' => exact absurd hv hv'
  cases answer with
  | error stop =>
    refine ⟨_, m, _, _, rfl, hexec, halike.tokens.symm, ?_, by simp, hvalid⟩
    intro stop' h
    cases h
    exact ⟨rfl, halike.exchanges.symm⟩
  | ok token =>
    -- what runs from `k` is told as running from `m`, which is alike
    obtain ⟨hresult, hafter⟩ := (d.plan token now job).run_alike halike
    obtain ⟨own, hown, hsent⟩ := (d.plan_sends token now job).exchanges_run m
    have hlength : own.length ≤ job.endpoints.length := by
      simpa [Job.kinds] using hsent.length_le
    refine ⟨_, m, _, _, rfl, hexec, ?_, by simp, ?_, hvalid⟩
    · rw [← hafter.tokens, Plan.run_tokens]
    · intro token' h
      cases h
      refine ⟨by rw [hresult], own, ?_, hsent, ?_, ?_⟩
      · rw [← hafter.exchanges, hown]
      · exact Nat.le_trans hlength (length_endpoints_le job)
      · intro htwo
        exact isPut_of_endpoints hjob (htwo ▸ hlength)

/-- One byte, where five were declared. -/
def sampleStream : FileStream := ⟨"a.txt", 5, [.bytes [0x61]]⟩

/-- Tokens that have ended, before a peer that renews them and takes the upload. -/
def sampleUploading : Live where
  tokens := some ⟨"old", some "r", .epoch⟩
  peer := ⟨true, [Session.sampleRefreshed, Upload.sampleTicket, Upload.sampleUploaded]⟩
  history := []

theorem sampleStream_job : Step.job? (.put .root sampleStream false) =
    some (.put .root "a.txt" sampleStream.spooled) :=
  if_pos ⟨by decide +kernel, by decide +kernel⟩

theorem perform_refines_put : ∃ m l' own,
    Session.sample.ensureValid.exec .epoch sampleUploading = (.ok "b", m) ∧
      (Drive.perform ⟨.sample, .root⟩ (.put .root sampleStream false)).exec .epoch
        sampleUploading = (.ok (.object (.file "7" "a.txt" 1 .epoch)), l') ∧
      l'.tokens = m.tokens ∧ l'.exchanges = m.exchanges ++ own ∧
      own.map (fun x => x.1.url.text) = ["http://h/first_upload", "http://h/ok_upload"] := by
  have hanswer : (Session.sample.ensureValid.exec .epoch sampleUploading).1 = .ok "b" ∧
      ((Session.sample.ensureValid.exec .epoch sampleUploading).2.exchanges.map
        fun x => x.1.url.text) = ["http://h/refresh_token"] := by
    decide +kernel
  have hresult : ((Drive.perform ⟨.sample, .root⟩ (.put .root sampleStream false)).exec .epoch
        sampleUploading).1 = .ok (.object (.file "7" "a.txt" 1 .epoch)) ∧
      ((Drive.perform ⟨.sample, .root⟩ (.put .root sampleStream false)).exec .epoch
        sampleUploading).2.exchanges.map (fun x => x.1.url.text) =
          ["http://h/refresh_token", "http://h/first_upload", "http://h/ok_upload"] := by
    decide +kernel
  obtain ⟨answer, m, result, l', hensure, hexec, htokens, -, hserved, -⟩ :=
    perform_refines ⟨.sample, .root⟩ sampleStream_job .epoch sampleUploading
  rw [hexec] at hresult
  rw [show Session.sample.ensureValid.exec .epoch sampleUploading = (answer, m) from hensure]
    at hanswer
  obtain ⟨rfl, hrefresh⟩ := hanswer
  obtain ⟨rfl, hall⟩ := hresult
  obtain ⟨-, own, hown, -⟩ := hserved "b" rfl
  rw [hown, List.map_append, hrefresh] at hall
  exact ⟨m, l', own, hensure, hexec, htokens, hown, List.append_cancel_left hall⟩

end Drive
end RemoteDrive
