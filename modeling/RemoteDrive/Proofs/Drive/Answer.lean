import RemoteDrive.Proofs.Drive.Course
import RemoteDrive.Proofs.Session.Validity

/-!
# One call and its answer

Apart from an upload, every job makes one request, and what the host is given is read off its
answer. A `Call` is just this: the request as it depends on the token, the family by whose rules the
reply is judged, and what is made of an envelope. Around the request there are only notes
(`Plan.Makes`), so that a plan does what its call says and nothing else (`Makes.run`).

Two things follow for an operation. Whatever it starts with, it succeeds exactly if its call is
answered and something can be made of the answer (`perform_ok_iff`). And with a token that lasts, the
call is the whole operation (`exec_perform_held`).
-/

set_option autoImplicit false

namespace RemoteDrive

/-- A request, and what is made of its answer. -/
structure Call (α : Type) where
  request : String → Except Fault Request
  family : EndpointFamily
  read : Envelope → Except Fault α

namespace Call

variable {α : Type} {call : Call α} {token : String} {accepts : Bool} {reply : Reply}

/-- What comes of a call. -/
def outcome (call : Call α) (token : String) (accepts : Bool) (reply : Reply) : Except Fault α :=
  (Client.reaching accepts (call.request token)).bind fun r =>
    (Client.answered call.family r reply).bind call.read

/-- What is exchanged in a call. -/
def exchanged (call : Call α) (token : String) (accepts : Bool) (reply : Reply) :
    List (Request × Reply) :=
  match Client.reaching accepts (call.request token) with
  | .error _ => []
  | .ok r => [(r, reply)]

theorem outcome_eq_ok_iff {a : α} :
    call.outcome token accepts reply = .ok a ↔
      ∃ r e, Client.reaching accepts (call.request token) = .ok r ∧
        Verdict call.family r reply (.ok e) ∧ call.read e = .ok a := by
  constructor
  · intro h
    obtain ⟨r, hr, h⟩ := bind_eq_ok h
    obtain ⟨e, he, h⟩ := bind_eq_ok h
    exact ⟨r, e, hr, Client.verdict_iff.mpr he.symm, h⟩
  · rintro ⟨r, e, hr, he, hread⟩
    rw [outcome, hr, Except.bind, ← Client.verdict_iff.mp he]
    exact hread

theorem exchanged_of_reaching {r : Request}
    (hr : Client.reaching accepts (call.request token) = .ok r) :
    call.exchanged token accepts reply = [(r, reply)] := by
  rw [exchanged, hr]

end Call

namespace Job

open Drive

/-- The call that a job comes to. An upload comes to two. -/
def call? (c : Client) (now : Instant) : Job → Option (Call Outcome)
  | .list dir => some {
      request := fun token => c.question token .list "folder_id" dir.text
      family := .operation
      read := fun e => .ok (.objects (Listing.objects now (items e))) }
  | .link file => some {
      request := fun token => c.question token .link "file_id" file.text
      family := .service
      read := fun e => (fun url => .link ⟨url, [("User-Agent", c.userAgent)]⟩) <$> downloadUrl e }
  | .makeDir parent name => some {
      request := fun token =>
        c.filled token .makeDir [("parent_id", parent.text), ("name", name)]
      family := .operation
      read := fun e => .ok (.object (created name now e)) }
  | .move o target => some {
      request := fun token =>
        c.filled token .move (objectForm o ++ [("target_id", target.text)])
      family := .operation
      read := fun e => .ok (.object (moved o now e)) }
  | .rename o name => some {
      request := fun token => c.filled token .rename (objectForm o ++ [("new_name", name)])
      family := .operation
      read := fun _ => .ok (.object ((o.withName name).withModified now)) }
  | .remove o => some {
      request := fun token => c.filled token .remove (objectForm o)
      family := .operation
      read := fun _ => .ok .done }
  | .put _ _ _ => none

end Job

/-! ## Plans of one request -/

namespace Plan

variable {α : Type} {p : Plan α}

/-- Notes are taken, and then it ends so. -/
inductive Ends (result : Except Fault α) : Plan α → Prop
  | done : Ends result (.done result)
  | note {event : Event} {rest : Plan α} (h : Ends result rest) : Ends result (.note event rest)

/-- Notes are taken, the call is made, and what is read off its answer is the end. -/
inductive Makes (call : Call α) (token : String) : Plan α → Prop
  | note {event : Event} {rest : Plan α} (h : Makes call token rest) :
    Makes call token (.note event rest)
  | ask {next : Envelope → Plan α} (h : ∀ e, (next e).Ends (call.read e)) :
    Makes call token (.ask (call.request token) call.family next)

theorem Ends.noteAll {result : Except Fault α} (es : List Event) (h : p.Ends result) :
    (Plan.noteAll es p).Ends result := by
  induction es with
  | nil => exact h
  | cons e es ih => exact .note ih

theorem Ends.run {result : Except Fault α} (h : p.Ends result) (l : Live) :
    (p.run l).1 = result ∧ l.Alike (p.run l).2 := by
  induction h generalizing l with
  | done => exact ⟨rfl, rfl, rfl, rfl⟩
  | @note event _ _ ih =>
    obtain ⟨hresult, halike⟩ := ih (l.add (.logged event))
    exact ⟨hresult, (Live.Alike.logged l event).trans halike⟩

/-- **A plan of one request is its call.** -/
theorem Makes.run {call : Call α} {token : String} (h : p.Makes call token) (l : Live) :
    (p.run l).1 = call.outcome token l.peer.accepts l.nextReply ∧
      (p.run l).2.exchanges =
        l.exchanges ++ call.exchanged token l.peer.accepts l.nextReply := by
  induction h generalizing l with
  | @note event _ _ ih => simpa [Plan.run] using ih (l.add (.logged event))
  | @ask next hnext =>
    rw [Plan.run, Call.outcome, Call.exchanged]
    cases Client.reaching l.peer.accepts (call.request token) with
    | error why => exact ⟨rfl, (List.append_nil _).symm⟩
    | ok r =>
      cases ha : Client.answered call.family r l.nextReply with
      | error why => simp [ha, Except.bind]
      | ok e =>
        obtain ⟨hresult, halike⟩ := (hnext e).run (l.heard r)
        simp only [ha, Except.bind]
        exact ⟨hresult, by rw [← halike.exchanges, Live.exchanges_heard]⟩

end Plan

namespace Drive

variable {d : Drive} {step : Step} {job : Job} {call : Call Outcome} {now : Instant} {l : Live}

theorem plan_makes (token : String) (hcall : job.call? d.client now = some call) :
    (d.plan token now job).Makes call token := by
  cases job with
  | list dir =>
    obtain rfl := Option.some.inj hcall
    exact .note (.ask fun e => .noteAll _ (.note .done))
  | link file =>
    obtain rfl := Option.some.inj hcall
    exact .note (.ask fun e => .done)
  | makeDir | remove =>
    obtain rfl := Option.some.inj hcall
    exact .ask fun e => .note .done
  | move | rename =>
    obtain rfl := Option.some.inj hcall
    exact .ask fun e => .done
  | put => cases hcall

/-! ## Operations of one request -/

/-- The job is answered, the answer passes, and this is its envelope. -/
def Answered (d : Drive) (now : Instant) (l : Live) (job : Job) (e : Envelope) : Prop :=
  ∃ call token m r, job.call? d.client now = some call ∧
    d.session.ensureValid.exec now l = (.ok token, m) ∧
    Client.reaching m.peer.accepts (call.request token) = .ok r ∧
    Verdict call.family r m.nextReply (.ok e)

/-- **An operation of one request succeeds exactly if it is answered and the answer can be read.** -/
theorem perform_ok_iff (hjob : step.job? = some job) (hcall : job.call? d.client now = some call)
    {outcome : Outcome} :
    ((d.perform step).exec now l).1 = .ok outcome ↔
      ∃ e, d.Answered now l job e ∧ call.read e = .ok outcome := by
  rcases hasked : d.session.ensureValid.exec now l with ⟨answer, m⟩
  obtain ⟨k, halike, hexec⟩ := exec_perform hjob hasked
  rw [hexec]
  cases answer with
  | error stop =>
    refine iff_of_false (fun herror => by cases herror) ?_
    rintro ⟨e, ⟨_, token, m', r, -, hasked', -⟩, -⟩
    cases hasked.symm.trans hasked'
  | ok token =>
    obtain ⟨hsame, -⟩ := (d.plan token now job).run_alike halike
    simp only [mapError_eq_ok_iff, hsame, ((plan_makes token hcall).run m).1,
      Call.outcome_eq_ok_iff]
    constructor
    · rintro ⟨r, e, hr, he, hread⟩
      exact ⟨e, ⟨call, token, m, r, hcall, hasked, hr, he⟩, hread⟩
    · rintro ⟨e, ⟨call', token', m', r, hcall', hasked', hr, he⟩, hread⟩
      cases hcall.symm.trans hcall'
      cases hasked.symm.trans hasked'
      exact ⟨r, e, hr, he, hread⟩

/-- With a token that lasts, the call is the whole operation. -/
theorem exec_perform_held (hjob : step.job? = some job)
    (hcall : job.call? d.client now = some call) {t : Tokens} (ht : l.tokens = some t)
    (hlasting : t.isExpired now = false) :
    ∃ l', (d.perform step).exec now l =
        ((call.outcome t.accessToken l.peer.accepts l.nextReply).mapError (.failed ∘ job.tells),
          l') ∧
      l'.tokens = l.tokens ∧
      l'.exchanges = l.exchanges ++ call.exchanged t.accessToken l.peer.accepts l.nextReply := by
  have hasked : d.session.ensureValid.exec now l = (.ok t.accessToken, l) := by
    rw [Session.exec_ensureValid_held ((Session.holdsValid_some ht).mpr hlasting),
      Session.exec_handOut ht]
  obtain ⟨k, halike, hexec⟩ : ∃ k, l.Alike k ∧ (d.perform step).exec now l =
      (((d.plan t.accessToken now job).run k).1.mapError (.failed ∘ job.tells),
        ((d.plan t.accessToken now job).run k).2) := exec_perform hjob hasked
  obtain ⟨hsame, hafter⟩ := (d.plan t.accessToken now job).run_alike halike
  obtain ⟨hresult, hsent⟩ := (plan_makes t.accessToken hcall).run l
  rw [hsame, hresult] at hexec
  refine ⟨_, hexec, ?_, ?_⟩
  · rw [Plan.run_tokens, ← halike.tokens]
  · rw [← hafter.exchanges, hsent]

end Drive
end RemoteDrive
