import RemoteDrive.Http.Client
import RemoteDrive.Proofs.Act

/-!
# One request and its reply

A call of the client sends at most one request. Whether it reaches the peer is decided before
anything passes (`Client.reaching`), and what its reply is to the caller is a function of the
request and the reply alone (`Client.outcome`). `exec_fetch` says that this is all there is: a call
that reaches the peer takes one reply from it, and one that does not leaves no trace.

A request is built in steps that may fail, so what a built request holds is found by going back
through the steps (`bind_eq_ok`).

What a call that sends requests and tells the log of no token leaves behind is followed piece by piece
for any relation that the pieces keep (`Live.Path`).
-/

set_option autoImplicit false

namespace RemoteDrive

/-! ## The steps in which a request is built -/

theorem bind_eq_ok {ε α β : Type} {x : Except ε α} {f : α → Except ε β} {b : β}
    (h : x >>= f = .ok b) : ∃ a, x = .ok a ∧ f a = .ok b := by
  cases x with
  | error why => cases h
  | ok a => exact ⟨a, rfl, h⟩

theorem bind_eq_error {ε α β : Type} {x : Except ε α} {f : α → Except ε β} {why : ε}
    (h : x >>= f = .error why) : x = .error why ∨ ∃ a, x = .ok a ∧ f a = .error why := by
  cases x with
  | error why' =>
    cases h
    exact .inl rfl
  | ok a => exact .inr ⟨a, rfl, h⟩

theorem isHeaderValue_bearer (token : String) :
    isHeaderValue ("Bearer " ++ token) = isHeaderValue token := by
  simp only [isHeaderValue, String.toList_append, List.all_append]
  rw [show "Bearer ".toList.all _ = true from by decide, Bool.true_and]

namespace Request

theorem form_of_make {method : Method} {url agent : String} {timeout : UInt64} {r : Request}
    (h : make method url agent timeout = .ok r) : r.form = none := by
  unfold make at h
  split at h
  · cases h
  · split at h
    · split at h <;> cases h <;> rfl
    · cases h

/-- A header's value is looked at before the header is added. -/
theorem withHeader_eq_ok {r r' : Request} {name value : String}
    (h : r.withHeader name value = .ok r') :
    isHeaderValue value = true ∧ r' = { r with headers := r.headers ++ [(name, value)] } := by
  unfold withHeader at h
  split at h
  · cases h
    exact ⟨‹_›, rfl⟩
  · cases h

/-! What keeps a request from being built is a fault of its transport. -/

theorem kind_of_make {method : Method} {url agent : String} {timeout : UInt64} {why : Fault}
    (h : make method url agent timeout = .error why) : why.kind = .transport := by
  unfold make at h
  split at h
  · cases h
    rfl
  · split at h
    · split at h <;> cases h
    · cases h
      rfl

theorem kind_of_withHeader {r : Request} {name value : String} {why : Fault}
    (h : r.withHeader name value = .error why) : why.kind = .transport := by
  unfold withHeader at h
  split at h
  · cases h
  · cases h
    rfl

theorem kind_of_withBearer {built : Except Fault Request} {token : String}
    {f : Request → Request} {why : Fault}
    (hbuilt : ∀ why, built = .error why → why.kind = .transport)
    (h : (do let r ← built; let r ← r.withBearer token; return f r) = .error why) :
    why.kind = .transport := by
  rcases bind_eq_error h with h | ⟨r, -, h⟩
  · exact hbuilt why h
  · rcases bind_eq_error h with h | ⟨r', -, h⟩
    · exact kind_of_withHeader h
    · cases h

end Request

/-! ## Calls of the client -/

namespace Client

/-- The request that reaches the peer, or why there is none. -/
def reaching (accepts : Bool) (request : Except Fault Request) : Except Fault Request :=
  match request with
  | .error why => .error why
  | .ok r =>
    if r.url.isSendable then if accepts then .ok r else .error (.notAnswered r.url.text)
    else .error (.notBuilt (some r.url.text))

/-- What the reply to a request is to the caller. -/
def outcome (family : EndpointFamily) (r : Request) : Reply → Except Fault Envelope
  | .closed => .error (.notAnswered r.url.text)
  | .answer a =>
    if isSuccessStatus a.status then
      if a.whole then Envelope.decode family a.body else .error .bodyCut
    else .error (.http a.status (errorBody a))

/-- What the log is told of a reply. -/
def statusReport : Reply → List Event
  | .closed => []
  | .answer a =>
    if isSuccessStatus a.status then []
    else [.debug "CZK API returned error status" [("status", Decimal.nat a.status)]]

end Client

namespace Live

/-- The situation after a request has reached the peer. -/
def asked (l : Live) (r : Request) : Live where
  tokens := l.tokens
  peer := ⟨l.peer.accepts, l.peer.replies.drop 1⟩
  history := l.history ++ [.sent r l.nextReply]

/-- The situation after the reply to a request has been looked at, too. -/
def heard (l : Live) (r : Request) : Live where
  tokens := l.tokens
  peer := ⟨l.peer.accepts, l.peer.replies.drop 1⟩
  history :=
    l.history ++ .sent r l.nextReply :: (Client.statusReport l.nextReply).map .logged

variable (l : Live) (r : Request)

theorem ask_accepting (h : l.peer.accepts = true) : l.ask r = (some l.nextReply, l.asked r) := by
  rw [ask, if_pos h]
  rfl

@[simp] theorem tokens_heard : (l.heard r).tokens = l.tokens := rfl

@[simp] theorem accepts_heard : (l.heard r).peer.accepts = l.peer.accepts := rfl

@[simp] theorem exchanges_heard : (l.heard r).exchanges = l.exchanges ++ [(r, l.nextReply)] := by
  simp [heard, exchanges]

theorem Steady.heard {P : Request → Prop} (h : P r) : l.Steady P (l.heard r) := by
  refine ⟨⟨rfl, _, rfl, fun r' reply hr => ?_⟩, rfl⟩
  simp only [List.mem_cons, List.mem_map, reduceCtorEq, and_false, exists_false, or_false,
    Occurrence.sent.injEq] at hr
  exact hr.1 ▸ h

theorem events_heard : (l.heard r).events = l.events ++ Client.statusReport l.nextReply := by
  simp only [heard, events, List.filterMap_append, List.filterMap_cons, List.filterMap_map]
  exact congrArg _ List.filterMap_some

end Live

theorem Client.statusReport_tokenless (reply : Reply) :
    ∀ e ∈ statusReport reply, e.Tokenless := by
  cases reply with
  | closed => simp [statusReport]
  | answer a =>
    unfold statusReport
    split
    · simp
    · simp [Event.tokenless_iff, Event.debug, tokenKeys]

theorem Live.Quiet.heard (l : Live) (r : Request) : l.Quiet (l.heard r) :=
  ⟨_, l.events_heard r, Client.statusReport_tokenless _⟩

namespace Client

variable {request : Except Fault Request} {r : Request} {family : EndpointFamily}

theorem reaching_eq_ok {accepts : Bool} (h : reaching accepts request = .ok r) :
    request = .ok r ∧ accepts = true := by
  unfold reaching at h
  split at h
  · cases h
  · split at h
    · split at h
      · exact ⟨by rw [Except.ok.inj h], by assumption⟩
      · cases h
    · cases h

theorem kind_of_reaching {accepts : Bool} {why : Fault}
    (hrequest : ∀ why, request = .error why → why.kind = .transport)
    (h : reaching accepts request = .error why) : why.kind = .transport := by
  unfold reaching at h
  split at h
  · cases h
    exact hrequest why rfl
  · split at h
    · split at h
      · cases h
      · cases h
        rfl
    · cases h
      rfl

/-- A request that reaches the peer takes its next reply. -/
theorem exec_send (now : Instant) (l : Live) (hurl : r.url.isSendable = true)
    (haccepts : l.peer.accepts = true) :
    (send (.ok r)).exec now l =
      (match l.nextReply with
        | .closed => .error (.failed (.notAnswered r.url.text))
        | .answer a => .ok a,
      l.asked r) := by
  simp only [send, Act.exec_bind, Act.exec_ofExcept, mapError_ok, hurl, if_true, Act.exec_ask,
    l.ask_accepting r haccepts]
  cases l.nextReply <;> rfl

/-- **A call of the client is at most one exchange.** -/
theorem exec_fetch (now : Instant) (l : Live) :
    (fetch request family).exec now l =
      match reaching l.peer.accepts request with
      | .error why => (.error (.failed why), l)
      | .ok r => ((outcome family r l.nextReply).mapError .failed, l.heard r) := by
  cases request with
  | error why => rfl
  | ok r =>
    by_cases hurl : r.url.isSendable = true
    · by_cases haccepts : l.peer.accepts = true
      · -- the peer is reached; what is left is the order in which its reply is looked at
        simp only [fetch, Act.exec_bind, exec_send now l hurl haccepts, reaching, hurl, haccepts,
          if_true]
        cases hreply : l.nextReply with
        | closed => simp [hreply, outcome, Live.heard, Live.asked, statusReport]
        | answer a =>
          by_cases hstatus : isSuccessStatus a.status = true
          · cases hwhole : a.whole <;>
              simp [outcome, Live.heard, Live.asked, statusReport, hreply, hstatus, hwhole]
          · simp [outcome, Live.heard, Live.asked, Live.add, statusReport, hreply, hstatus,
              Act.exec_bind]
      · simp [fetch, send, reaching, Act.exec_bind, hurl, haccepts, Live.ask]
    · simp [fetch, send, reaching, Act.exec_bind, hurl]

theorem exec_fetch_error {why : Fault} {now : Instant} {l : Live}
    (h : reaching l.peer.accepts request = .error why) :
    (fetch request family).exec now l = (.error (.failed why), l) := by
  rw [exec_fetch, h]

theorem exec_fetch_ok {now : Instant} {l : Live} (h : reaching l.peer.accepts request = .ok r) :
    (fetch request family).exec now l =
      ((outcome family r l.nextReply).mapError .failed, l.heard r) := by
  rw [exec_fetch, h]

/-- Only a whole answer with a status of success is read. -/
theorem outcome_eq_ok {reply : Reply} {e : Envelope} (h : outcome family r reply = .ok e) :
    ∃ a, reply = .answer a ∧ isSuccessStatus a.status = true ∧ a.whole = true ∧
      Envelope.decode family a.body = .ok e := by
  cases reply with
  | closed => cases h
  | answer a =>
    simp only [outcome] at h
    split at h
    · split at h
      · exact ⟨a, rfl, by assumption, by assumption, h⟩
      · cases h
    · cases h

theorem fetch_blind : (fetch request family).Blind := by
  intro past now l
  cases hr : reaching l.peer.accepts request with
  | error why =>
    rw [exec_fetch_error hr, exec_fetch_error (l := l.behind past) hr]
  | ok r =>
    rw [exec_fetch_ok hr, exec_fetch_ok (l := l.behind past) hr]
    simp [Live.heard, Live.behind, Live.nextReply]

end Client

/-! ## Along a call -/

/-- A relation of a situation to a later one, along which a call leads that sends requests of `P`
and tells the log of no token: nothing has to pass, one thing may pass after the other, and it may
be an event or an exchange. -/
structure Live.Path (P : Request → Prop) (T : Live → Live → Prop) : Prop where
  refl (l : Live) : T l l
  trans {l l' l'' : Live} (h : T l l') (h' : T l' l'') : T l l''
  logged (l : Live) {e : Event} (h : e.Tokenless) : T l (l.add (.logged e))
  heard (l : Live) {r : Request} (h : P r) : T l (l.heard r)

theorem Live.Steady.path (P : Request → Prop) : Live.Path P (Live.Steady P) where
  refl := .refl
  trans := .trans
  logged l e _ := .logged l e
  heard l r h := .heard l r h

theorem Live.Quiet.path (P : Request → Prop) : Live.Path P Live.Quiet where
  refl := .refl
  trans := .trans
  logged l _ h := .logged l h
  heard l r _ := .heard l r

namespace Live.Path

open Client

variable {ε α β : Type} {P : Request → Prop} {T : Live → Live → Prop} (hT : Live.Path P T)
include hT

theorem pure (a : α) : (Pure.pure a : Act ε α).Leads T := fun _ l => hT.refl l

theorem bind {act : Act ε α} {next : α → Act ε β} (h : act.Leads T)
    (hn : ∀ a, (next a).Leads T) : (act >>= next).Leads T :=
  Act.Leads.bind (T := T) hT.trans h hn

theorem now : (Act.now : Act ε Instant).Leads T := fun _ l => hT.refl l

theorem ofExcept (r : Except ε α) : (Act.ofExcept r).Leads T := Act.Leads.ofExcept hT.refl r

theorem log (e : Event) (h : (e.fields.all fun p => !tokenKeys.contains p.1) = true) :
    (Act.log e : Act ε Unit).Leads T :=
  fun _ l => hT.logged l (Event.tokenless_iff.mpr h)

theorem logAll {es : List Event} (h : ∀ e ∈ es, e.Tokenless) :
    (Act.logAll es : Act ε Unit).Leads T := by
  induction es with
  | nil => exact hT.pure ()
  | cons e es ih =>
    refine hT.bind (fun _ l => hT.logged l (h e (by simp))) fun _ => ?_
    exact ih fun e' he' => h e' (by simp [he'])

theorem fetch {request : Except Fault Request} (h : ∀ r, request = .ok r → P r)
    (family : EndpointFamily) : (Client.fetch request family).Leads T := by
  intro now l
  cases hr : reaching l.peer.accepts request with
  | error why =>
    rw [exec_fetch_error hr]
    exact hT.refl l
  | ok r =>
    rw [exec_fetch_ok hr]
    exact hT.heard l (h r (reaching_eq_ok hr).1)

theorem execute {request : Except Fault Request} (h : ∀ r, request = .ok r → P r)
    (family : EndpointFamily) : (Client.execute request family).Leads T :=
  hT.bind (hT.fetch h family) fun e => hT.ofExcept e.check

end Live.Path

end RemoteDrive
