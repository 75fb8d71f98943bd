import RemoteDrive.Proofs.Exchange

/-!
# How a reply is judged

Whatever the peer replies, what it is to the caller depends on the reply alone. `Verdict` lists the
rules. Each rule excludes the ones before it in words of its own: it
speaks of the status, of whether the body is whole, and of the fields of the object that the body
writes, and it does not mention the functions by which the client looks at them. So the list is a
second account of `Client.execute`, and `verdict_iff` says that the two agree on every reply.

A field counts only if it has the right type: a code that is a text is passed over and the next key
is tried. `FirstUnder` says so without a search.
-/

set_option autoImplicit false

namespace RemoteDrive

/-! ## The first key that answers -/

namespace Json

variable {α : Type} {ask : Json → Option α} {keys : List String} {j : Json} {x : α}

/-- `x` is what `ask` reads under the first of `keys` under which it reads anything. -/
def FirstUnder (ask : Json → Option α) (keys : List String) (j : Json) (x : α) : Prop :=
  ∃ before key after, keys = before ++ key :: after ∧
    (∀ k ∈ before, (j.field? k).bind ask = none) ∧ (j.field? key).bind ask = some x

theorem firstOf_eq_some_iff : j.firstOf ask keys = some x ↔ FirstUnder ask keys j x := by
  rw [firstOf, List.findSome?_eq_some_iff]
  constructor
  · rintro ⟨before, key, after, hkeys, hx, hbefore⟩
    exact ⟨before, key, after, hkeys, hbefore, hx⟩
  · rintro ⟨before, key, after, hkeys, hbefore, hx⟩
    exact ⟨before, key, after, hkeys, hx, hbefore⟩

theorem firstOf_eq_none_iff : j.firstOf ask keys = none ↔ ∀ x, ¬ FirstUnder ask keys j x := by
  simp only [← firstOf_eq_some_iff]
  cases j.firstOf ask keys <;> simp

/-- Under other keys there may be what will. -/
theorem firstOf_congr {j' : Json} (h : ∀ key ∈ keys, j.field? key = j'.field? key) :
    j.firstOf ask keys = j'.firstOf ask keys := by
  induction keys with
  | nil => rfl
  | cons key keys ih =>
    have hrest := ih fun k hk => h k (List.mem_cons_of_mem key hk)
    rw [firstOf] at hrest ⊢
    rw [List.findSome?_cons, h key List.mem_cons_self, hrest]
    rfl

end Json

/-- Keeping a number within a signed word makes no failing code a success. -/
theorem codeOfNumber_eq_successCode {n : JsonNumber} :
    codeOfNumber n = successCode ↔ n.toBinary64.toInt = 200 := by
  simp only [codeOfNumber, clampSigned, signedLimit, successCode]
  omega

/-! ## The rules -/

open Json (FirstUnder)

/-- The status says that the request was carried out. -/
def Answer.Succeeds (a : Answer) : Prop := 200 ≤ a.status ∧ a.status < 300

/-- The words of a failing object: the first text under the keys of a message, if there is one. -/
def Told (family : EndpointFamily) (root : Json) (words : String) : Prop :=
  FirstUnder Json.text? family.messageKeys root words ∨
    (∀ text, ¬ FirstUnder Json.text? family.messageKeys root text) ∧ words = "unknown error"

theorem exists_told (family : EndpointFamily) (root : Json) : ∃ words, Told family root words := by
  cases hfirst : root.firstOf Json.text? family.messageKeys with
  | none => exact ⟨_, .inr ⟨Json.firstOf_eq_none_iff.mp hfirst, rfl⟩⟩
  | some words => exact ⟨words, .inl (Json.firstOf_eq_some_iff.mp hfirst)⟩

/-- What a reply to a request is to the caller. A connection that is closed and a body that is cut are
transport faults, a status other than success is an HTTP fault, a body that is no object is a decode
fault, and a failing code is an application fault. -/
inductive Verdict (family : EndpointFamily) (r : Request) :
    Reply → Except Fault Envelope → Prop
  | closed : Verdict family r .closed (.error (.notAnswered r.url.text))
  | status {a : Answer} (hstatus : ¬ a.Succeeds) (hwhole : a.whole = true) :
    Verdict family r (.answer a)
      (.error (.http a.status (String.ofList (Utf8.decodeLossy a.body))))
  | statusCut {a : Answer} (hstatus : ¬ a.Succeeds) (hcut : a.whole = false) :
    Verdict family r (.answer a) (.error (.http a.status "unable to read error body"))
  | cut {a : Answer} (hstatus : a.Succeeds) (hcut : a.whole = false) :
    Verdict family r (.answer a) (.error .bodyCut)
  | malformed {a : Answer} (hstatus : a.Succeeds) (hwhole : a.whole = true)
    (hbody : Json.ofBytes? a.body = none) :
    Verdict family r (.answer a) (.error .malformedJson)
  | notAnObject {a : Answer} {root : Json} (hstatus : a.Succeeds) (hwhole : a.whole = true)
    (hbody : Json.ofBytes? a.body = some root) (hroot : ∀ fields, root ≠ .object fields) :
    Verdict family r (.answer a) (.error .notAnObject)
  /-- The first number under the keys of a code says so. -/
  | refused {a : Answer} {fields : List (String × Json)} {n : JsonNumber} {words : String}
    (hstatus : a.Succeeds) (hwhole : a.whole = true)
    (hbody : Json.ofBytes? a.body = some (.object fields))
    (hcode : FirstUnder Json.number? family.codeKeys (.object fields) n)
    (hn : n.toBinary64.toInt ≠ 200) (hwords : Told family (.object fields) words) :
    Verdict family r (.answer a) (.error (.application (codeOfNumber n) words))
  | passed {a : Answer} {fields : List (String × Json)} (hstatus : a.Succeeds)
    (hwhole : a.whole = true) (hbody : Json.ofBytes? a.body = some (.object fields))
    (hcode : ∀ n, FirstUnder Json.number? family.codeKeys (.object fields) n →
      n.toBinary64.toInt = 200) :
    Verdict family r (.answer a) (.ok (.ofObject family (.object fields)))

/-- What is held against a reply is of one of four kinds. -/
theorem Verdict.kind_mem {family : EndpointFamily} {r : Request} {reply : Reply} {why : Fault}
    (h : Verdict family r reply (.error why)) :
    why.kind ∈ [.transport, .http, .decode, .application] := by
  cases h <;> simp [Fault.kind]

/-- There is a rule for every reply. -/
theorem exists_verdict (family : EndpointFamily) (r : Request) (reply : Reply) :
    ∃ result, Verdict family r reply result := by
  cases reply with
  | closed => exact ⟨_, .closed⟩
  | answer a =>
    by_cases hstatus : a.Succeeds
    · cases hwhole : a.whole with
      | false => exact ⟨_, .cut hstatus hwhole⟩
      | true =>
        cases hbody : Json.ofBytes? a.body with
        | none => exact ⟨_, .malformed hstatus hwhole hbody⟩
        | some root =>
          cases root with
          | object fields =>
            by_cases hcode : ∃ n, FirstUnder Json.number? family.codeKeys (.object fields) n ∧
              n.toBinary64.toInt ≠ 200
            · obtain ⟨n, hfirst, hn⟩ := hcode
              obtain ⟨words, hwords⟩ := exists_told family (.object fields)
              exact ⟨_, .refused hstatus hwhole hbody hfirst hn hwords⟩
            · exact ⟨_, .passed hstatus hwhole hbody fun n hfirst =>
                Decidable.not_not.mp fun hn => hcode ⟨n, hfirst, hn⟩⟩
          | null | bool | number | text | array =>
            exact ⟨_, .notAnObject hstatus hwhole hbody (by simp)⟩
    · cases hwhole : a.whole with
      | false => exact ⟨_, .statusCut hstatus hwhole⟩
      | true => exact ⟨_, .status hstatus hwhole⟩

/-! ## The client keeps to them -/

namespace Envelope

variable {family : EndpointFamily} {root : Json}

theorem errorMessage_of_told {words : String} (h : Told family root words) :
    (ofObject family root).errorMessage = words := by
  simp only [errorMessage, ofObject]
  rcases h with h | ⟨hnone, rfl⟩
  · rw [Json.firstOf_eq_some_iff.mpr h]
    rfl
  · rw [Json.firstOf_eq_none_iff.mpr hnone]
    rfl

theorem check_refused {n : JsonNumber}
    (hcode : FirstUnder Json.number? family.codeKeys root n) (hn : n.toBinary64.toInt ≠ 200) :
    (ofObject family root).check =
      .error (.application (codeOfNumber n) (ofObject family root).errorMessage) := by
  have hne : codeOfNumber n ≠ successCode := fun h => hn (codeOfNumber_eq_successCode.mp h)
  simp [check, ofObject, Json.firstOf_eq_some_iff.mpr hcode, hne]

theorem check_passed
    (hcode : ∀ n, FirstUnder Json.number? family.codeKeys root n → n.toBinary64.toInt = 200) :
    (ofObject family root).check = .ok (ofObject family root) := by
  cases hfirst : root.firstOf Json.number? family.codeKeys with
  | none => simp [check, ofObject, hfirst]
  | some n =>
    have hn := hcode n (Json.firstOf_eq_some_iff.mp hfirst)
    simp [check, ofObject, hfirst, codeOfNumber_eq_successCode.mpr hn]

theorem decode_eq_ok {body : List UInt8} {e : Envelope}
    (h : decode family body = .ok e) :
    ∃ fields, Json.ofBytes? body = some (.object fields) ∧ e = .ofObject family (.object fields) := by
  unfold decode at h
  split at h
  · cases h
  · rename_i root hbody
    cases root with
    | object fields => exact ⟨fields, hbody, (Except.ok.inj h).symm⟩
    | null | bool | number | text | array => cases h

theorem check_eq_ok {e : Envelope}
    (h : ∀ code words, e.check ≠ .error (.application code words)) : e.check = .ok e := by
  unfold check at h ⊢
  cases hcode : e.code with
  | none => rfl
  | some code =>
    by_cases hsuccess : code = successCode
    · exact if_pos hsuccess
    · exact absurd (by simp [hcode, hsuccess]) (h code e.errorMessage)

end Envelope

namespace Client

variable {request : Except Fault Request} {r : Request} {family : EndpointFamily} {reply : Reply}
  {result : Except Fault Envelope}

/-- What the reply to a request is to a caller who wants it to report success. -/
def answered (family : EndpointFamily) (r : Request) (reply : Reply) : Except Fault Envelope :=
  (outcome family r reply).bind Envelope.check

theorem exec_execute (now : Instant) (l : Live) :
    (execute request family).exec now l =
      match reaching l.peer.accepts request with
      | .error why => (.error (.failed why), l)
      | .ok r => ((answered family r l.nextReply).mapError .failed, l.heard r) := by
  rw [execute, Act.exec_bind, exec_fetch]
  cases reaching l.peer.accepts request with
  | error why => rfl
  | ok r =>
    simp only [answered]
    cases outcome family r l.nextReply with
    | error why => rfl
    | ok e => simp only [mapError_ok, Except.bind, Act.exec_ofExcept]

theorem isSuccessStatus_of_succeeds {a : Answer} (h : a.Succeeds) :
    isSuccessStatus a.status = true := by
  simpa [isSuccessStatus, Answer.Succeeds] using h

theorem isSuccessStatus_of_not_succeeds {a : Answer} (h : ¬ a.Succeeds) :
    isSuccessStatus a.status = false := by
  simpa [isSuccessStatus, Answer.Succeeds] using h

/-- **The client judges by the rules.** -/
theorem answered_of_verdict (h : Verdict family r reply result) :
    answered family r reply = result := by
  unfold answered
  cases h with
  | closed => rfl
  | status hstatus hwhole | statusCut hstatus hwhole =>
    simp only [outcome, isSuccessStatus_of_not_succeeds hstatus, errorBody, hwhole]
    rfl
  | cut hstatus hcut =>
    simp only [outcome, isSuccessStatus_of_succeeds hstatus, hcut]
    rfl
  | malformed hstatus hwhole hbody =>
    simp only [outcome, isSuccessStatus_of_succeeds hstatus, hwhole, Envelope.decode, hbody]
    rfl
  | @notAnObject a root hstatus hwhole hbody hroot =>
    simp only [outcome, isSuccessStatus_of_succeeds hstatus, hwhole, Envelope.decode, hbody]
    cases root with
    | object fields => exact absurd rfl (hroot fields)
    | null | bool | number | text | array => rfl
  | refused hstatus hwhole hbody hcode hn hwords =>
    simp only [outcome, isSuccessStatus_of_succeeds hstatus, hwhole, Envelope.decode, hbody]
    rw [← Envelope.errorMessage_of_told hwords, ← Envelope.check_refused hcode hn]
    rfl
  | passed hstatus hwhole hbody hcode =>
    simp only [outcome, isSuccessStatus_of_succeeds hstatus, hwhole, Envelope.decode, hbody]
    exact Envelope.check_passed hcode

theorem verdict_iff {verdict : Except Fault Envelope} :
    Verdict family r reply verdict ↔ verdict = answered family r reply := by
  constructor
  · exact fun h => (answered_of_verdict h).symm
  · rintro rfl
    obtain ⟨result, hresult⟩ := exists_verdict family r reply
    rwa [answered_of_verdict hresult]

end Client

/-- A reply has one verdict. -/
theorem Verdict.unique {family : EndpointFamily} {r : Request} {reply : Reply}
    {result result' : Except Fault Envelope} (h : Verdict family r reply result)
    (h' : Verdict family r reply result') : result = result' :=
  (Client.verdict_iff.mp h).trans (Client.verdict_iff.mp h').symm

/-- What passes does not depend on the request. -/
theorem Verdict.passed_of_passed {family : EndpointFamily} {r : Request} {reply : Reply}
    {e : Envelope} (h : Verdict family r reply (.ok e)) (r' : Request) :
    Verdict family r' reply (.ok e) := by
  cases h with
  | passed hstatus hwhole hbody hcode => exact .passed hstatus hwhole hbody hcode

/-- A reply that passes for one request passes for all, with the same envelope. -/
theorem exists_passed {α : Type} {family : EndpointFamily} {r : Request} {reply : Reply}
    {look : Envelope → α} {seen : α}
    (h : (Client.answered family r reply).toOption.map look = some seen) (r' : Request) :
    ∃ e, Verdict family r' reply (.ok e) ∧ look e = seen := by
  cases hanswered : Client.answered family r reply with
  | error why =>
    rw [hanswered] at h
    cases h
  | ok e =>
    rw [hanswered] at h
    have hpassed : Verdict family r reply (.ok e) := Client.verdict_iff.mpr hanswered.symm
    exact ⟨e, hpassed.passed_of_passed r', Option.some.inj h⟩

/-! ## A call that does not ask for success -/

namespace Client

variable {r : Request} {family : EndpointFamily} {reply : Reply}

/-- No code is looked at before the check. -/
theorem outcome_ne_application (code : Int) (words : String) :
    outcome family r reply ≠ .error (.application code words) := by
  intro h
  cases reply with
  | closed => cases h
  | answer a =>
    simp only [outcome, Envelope.decode] at h
    split at h
    · split at h
      · split at h
        · cases h
        · split at h <;> cases h
      · cases h
    · cases h

/-- The check is all in which the two calls differ, and it makes nothing but a failing code a
failure. -/
theorem outcome_of_answered (family : EndpointFamily) (r : Request) (reply : Reply) :
    ((∀ code words, answered family r reply ≠ .error (.application code words)) →
      outcome family r reply = answered family r reply) ∧
    ∀ code words, answered family r reply = .error (.application code words) →
      ∃ a fields, reply = .answer a ∧ Json.ofBytes? a.body = some (.object fields) ∧
        outcome family r reply = .ok (.ofObject family (.object fields)) := by
  unfold answered
  cases houtcome : outcome family r reply with
  | error why =>
    refine ⟨fun _ => rfl, fun code words h => ?_⟩
    obtain rfl : why = .application code words := Except.error.inj h
    exact absurd houtcome (outcome_ne_application code words)
  | ok e =>
    refine ⟨fun hpasses => ?_, fun code words h => ?_⟩
    · exact (Envelope.check_eq_ok hpasses).symm
    · obtain ⟨a, rfl, -, -, hdecode⟩ := outcome_eq_ok houtcome
      obtain ⟨fields, hbody, rfl⟩ := Envelope.decode_eq_ok hdecode
      exact ⟨a, fields, rfl, hbody, rfl⟩

/-! ## One call -/

theorem reaching_of_sendable (hurl : r.url.isSendable = true) : reaching true (.ok r) = .ok r := by
  simp [reaching, hurl]

/-- **A reply is judged by one fixed list of rules.** A request that reaches the peer takes its next
reply and no other, and what `execute` makes of it is what the one rule says that the reply falls
under. What `fetch` makes of it is the same, but that it gives the object with a failing code. -/
theorem execute_judges (r : Request) (family : EndpointFamily) (now : Instant) (l : Live)
    (hurl : r.url.isSendable = true) (haccepts : l.peer.accepts = true) :
    ∃ result fetched l', (execute (.ok r) family).exec now l = (result.mapError .failed, l') ∧
      (fetch (.ok r) family).exec now l = (fetched.mapError .failed, l') ∧
      l'.tokens = l.tokens ∧ l'.exchanges = l.exchanges ++ [(r, l.nextReply)] ∧
      l'.peer = ⟨true, l.peer.replies.drop 1⟩ ∧
      (∀ verdict, Verdict family r l.nextReply verdict ↔ verdict = result) ∧
      ((∀ code words, result ≠ .error (.application code words)) → fetched = result) ∧
      ∀ code words, result = .error (.application code words) →
        ∃ a fields, l.nextReply = .answer a ∧ Json.ofBytes? a.body = some (.object fields) ∧
          fetched = .ok (.ofObject family (.object fields)) := by
  have hreaching : reaching l.peer.accepts (.ok r) = .ok r := by
    rw [haccepts, reaching_of_sendable hurl]
  obtain ⟨hsame, hobject⟩ := outcome_of_answered family r l.nextReply
  refine ⟨answered family r l.nextReply, outcome family r l.nextReply, l.heard r, ?_,
    exec_fetch_ok hreaching, rfl, l.exchanges_heard r, ?_, fun _ => verdict_iff, hsame, hobject⟩
  · rw [exec_execute, hreaching]
  · simp only [Live.heard, haccepts]

/-- A request to `http://h/list_files`. -/
def sampleRequest : Request :=
  ⟨.get, ⟨"http", "", none, some "h", none, "/list_files", none, none⟩, [], none, 30⟩

/-- A code that is a text and another that is a number, and a text under both names of a message. -/
def sampleRefusal : Reply := .answer ⟨200, Utf8.encode
  ("\x7b\"message\":\"later\",\"code\":\"200\"," ++
    "\"status\":404.5,\"msg\":\"gone\"\x7d").toList, true⟩

/-- The code that is a text is passed over, and the other is cut. Of the messages that one is told
whose name is the first of its family, though it is the last in the reply. -/
theorem execute_judges_refusal : ∃ l',
    (execute (.ok sampleRequest) .operation).exec .epoch ⟨none, ⟨true, [sampleRefusal]⟩, []⟩ =
        (.error (.failed (.application 404 "gone")), l') ∧
      l'.exchanges = [(sampleRequest, sampleRefusal)] ∧ l'.peer.replies = [] ∧
      Verdict .operation sampleRequest sampleRefusal
        (.error (.application 404 "gone")) := by
  obtain ⟨result, fetched, l', hexecute, -, -, hsent, hpeer, hverdict, -, -⟩ :=
    execute_judges sampleRequest .operation .epoch ⟨none, ⟨true, [sampleRefusal]⟩, []⟩
      (by decide +kernel) rfl
  have hfault : (match ((execute (.ok sampleRequest) .operation).exec .epoch
      ⟨none, ⟨true, [sampleRefusal]⟩, []⟩).1 with
        | .error (.failed why) => some why
        | _ => none) = some (.application 404 "gone") := by
    decide +kernel
  rw [hexecute] at hfault
  obtain rfl : result = .error (.application 404 "gone") := by
    cases result with
    | ok e => cases hfault
    | error why =>
      cases hfault
      rfl
  exact ⟨l', hexecute, hsent, by rw [hpeer]; rfl, (hverdict _).mpr rfl⟩

end Client

end RemoteDrive
