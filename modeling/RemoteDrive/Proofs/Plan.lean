import Mathlib.Data.List.Forall2
import RemoteDrive.Proofs.Verdict

/-!
# Plans

What an operation is going to do once it has its token is settled before it starts: which request
it makes, what it makes of the reply, and whether there is another request after that. A `Plan` is
this written down as data. It has no room for a second try, since only a reply that reports success
leads on, and none for a look at the tokens or at what has happened before.

`Plan.run` carries a plan out in a situation, and `Follows` says of a call that it does just what
the plan says, wherever it starts. There is one lemma for each piece of which calls are put
together, so that the proof for a call repeats how the call is written. What is then known of all
plans (`run_tokens`, `run_alike`) is known of the call, and what a call sends or gives can be read
off its plan without a look at any situation (`Sends`, `Gives`).
-/

set_option autoImplicit false

namespace RemoteDrive

inductive Plan (α : Type) where
  | done (result : Except Fault α)
  | note (event : Event) (rest : Plan α)
  /-- A request, and how it goes on with an envelope that reports success. -/
  | ask (request : Except Fault Request) (family : EndpointFamily) (next : Envelope → Plan α)

namespace Live.Alike

variable {l m : Live}

theorem nextReply (h : l.Alike m) : l.nextReply = m.nextReply := by
  rw [Live.nextReply, h.peer, Live.nextReply]

theorem heard (h : l.Alike m) (r : Request) : (l.heard r).Alike (m.heard r) := by
  constructor
  · exact h.tokens
  · simp [Live.heard, h.peer]
  · simp [h.exchanges, h.nextReply]

end Live.Alike

namespace Plan

variable {α β : Type}

def noteAll (es : List Event) (rest : Plan α) : Plan α := es.foldr .note rest

/-- The plan with another result. -/
def map (f : α → β) : Plan α → Plan β
  | .done result => .done (f <$> result)
  | .note event rest => .note event (rest.map f)
  | .ask request family next => .ask request family fun e => (next e).map f

/-- The plan carried out. -/
def run : Plan α → Live → Except Fault α × Live
  | .done result, l => (result, l)
  | .note event rest, l => rest.run (l.add (.logged event))
  | .ask request family next, l =>
    match Client.reaching l.peer.accepts request with
    | .error why => (.error why, l)
    | .ok r =>
      match Client.answered family r l.nextReply with
      | .error why => (.error why, l.heard r)
      | .ok e => (next e).run (l.heard r)

theorem run_ask {request : Except Fault Request} {r : Request} {family : EndpointFamily}
    {next : Envelope → Plan α} {l : Live} (hr : Client.reaching l.peer.accepts request = .ok r) :
    (ask request family next).run l =
      match Client.answered family r l.nextReply with
      | .error why => (.error why, l.heard r)
      | .ok e => (next e).run (l.heard r) := by
  rw [run, hr]

theorem run_map (f : α → β) (p : Plan α) (l : Live) :
    (p.map f).run l = (f <$> (p.run l).1, (p.run l).2) := by
  fun_induction run p l with
  | case1 result l => rfl
  | case2 event rest l ih => exact ih
  | case3 request family next l why hr => simp only [map, run, hr]; rfl
  | case4 request family next l r hr why ha => simp only [map, run, hr, ha]; rfl
  | case5 request family next l r hr e ha ih => simpa only [map, run, hr, ha] using ih

theorem run_tokens (p : Plan α) (l : Live) : (p.run l).2.tokens = l.tokens := by
  fun_induction run p l with
  | case1 | case3 | case4 => rfl
  | case2 _ _ _ ih | case5 _ _ _ _ _ _ _ _ ih => exact ih

/-- What is told to the log makes no difference to what follows. -/
theorem run_noteAll (es : List Event) (rest : Plan α) (l : Live) :
    ∃ l', l.Alike l' ∧ (noteAll es rest).run l = rest.run l' := by
  induction es generalizing l with
  | nil => exact ⟨l, ⟨rfl, rfl, rfl⟩, rfl⟩
  | cons e es ih =>
    obtain ⟨l', halike, hrun⟩ := ih (l.add (.logged e))
    exact ⟨l', (Live.Alike.logged l e).trans halike, hrun⟩

/-- A plan goes the same way in situations that are alike. -/
theorem run_alike (p : Plan α) {l m : Live} (h : l.Alike m) :
    (p.run m).1 = (p.run l).1 ∧ (p.run l).2.Alike (p.run m).2 := by
  fun_induction run p l generalizing m with
  | case1 result l => exact ⟨rfl, h⟩
  | case2 event rest l ih =>
    apply ih
    exact ⟨h.tokens, h.peer, by simp [h.exchanges]⟩
  | case3 request family next l why hr =>
    rw [h.peer] at hr
    simp only [run, hr]
    exact ⟨trivial, h⟩
  | case4 request family next l r hr why ha =>
    rw [h.peer] at hr
    rw [h.nextReply] at ha
    simp only [run, hr, ha]
    exact ⟨trivial, h.heard r⟩
  | case5 request family next l r hr e ha ih =>
    rw [h.peer] at hr
    rw [h.nextReply] at ha
    simpa only [run, hr, ha] using ih (h.heard r)

/-! ## What is sent, and what is given -/

/-- The plan sends at most one request of each of these kinds, in this order. -/
inductive Sends : List (Request → Prop) → Plan α → Prop
  | done (kinds : List (Request → Prop)) (result : Except Fault α) : Sends kinds (.done result)
  | note {kinds : List (Request → Prop)} {event : Event} {rest : Plan α} (h : Sends kinds rest) :
    Sends kinds (.note event rest)
  | ask {kind : Request → Prop} {kinds : List (Request → Prop)} {request : Except Fault Request}
    {family : EndpointFamily} {next : Envelope → Plan α}
    (hrequest : ∀ r, request = .ok r → kind r) (hnext : ∀ e, Sends kinds (next e)) :
    Sends (kind :: kinds) (.ask request family next)

/-- What was exchanged is, one by one, of the first of these kinds. -/
def Sent (kinds : List (Request → Prop)) (own : List (Request × Reply)) : Prop :=
  List.Forall₂ (fun kind x => kind x.1) (kinds.take own.length) own

theorem Sent.length_le {kinds : List (Request → Prop)} {own : List (Request × Reply)}
    (h : Sent kinds own) : own.length ≤ kinds.length := by
  rw [← h.length_eq]
  exact List.length_take_le' _ _

theorem Sent.exists_kind {kinds : List (Request → Prop)} {own : List (Request × Reply)}
    (h : Sent kinds own) {x : Request × Reply} (hx : x ∈ own) : ∃ kind ∈ kinds, kind x.1 := by
  obtain ⟨i, hi, rfl⟩ := List.mem_iff_getElem.mp hx
  have hi' : i < (kinds.take own.length).length := by
    rw [h.length_eq]
    exact hi
  exact ⟨_, List.mem_of_mem_take (List.getElem_mem hi'), h.get hi' hi⟩

theorem Sent.mono {kinds kinds' : List (Request → Prop)} {own : List (Request × Reply)}
    (h : Sent kinds own)
    (hkinds : List.Forall₂ (fun kind kind' => ∀ r, kind r → kind' r) kinds kinds') :
    Sent kinds' own := by
  induction hkinds generalizing own with
  | nil => exact h
  | cons hkind _ ih =>
    cases own with
    | nil => exact .nil
    | cons x xs =>
      obtain ⟨hx, hxs⟩ := List.forall₂_cons.mp h
      exact .cons (hkind _ hx) (ih hxs)

/-- The plan ends well only with such results. -/
inductive Gives (Q : α → Prop) : Plan α → Prop
  | done {result : Except Fault α} (h : ∀ a, result = .ok a → Q a) : Gives Q (.done result)
  | note {event : Event} {rest : Plan α} (h : Gives Q rest) : Gives Q (.note event rest)
  | ask {request : Except Fault Request} {family : EndpointFamily} {next : Envelope → Plan α}
    (h : ∀ e, Gives Q (next e)) : Gives Q (.ask request family next)

/-- The plan's own verdicts on what it has got are of these kinds, and its requests fail to be built
for no reason but the transport. -/
inductive Blames (kinds : List FaultKind) : Plan α → Prop
  | done {result : Except Fault α} (h : ∀ why, result = .error why → why.kind ∈ kinds) :
    Blames kinds (.done result)
  | note {event : Event} {rest : Plan α} (h : Blames kinds rest) : Blames kinds (.note event rest)
  | ask {request : Except Fault Request} {family : EndpointFamily} {next : Envelope → Plan α}
    (hrequest : ∀ why, request = .error why → why.kind = .transport)
    (h : ∀ e, Blames kinds (next e)) : Blames kinds (.ask request family next)

section

variable {p : Plan α} {kinds : List (Request → Prop)} {Q : α → Prop}

theorem Sends.noteAll (es : List Event) (h : p.Sends kinds) : (Plan.noteAll es p).Sends kinds := by
  induction es with
  | nil => exact h
  | cons e es ih => exact .note ih

theorem Sends.map (f : α → β) (h : p.Sends kinds) : (p.map f).Sends kinds := by
  induction h with
  | done => exact .done _ _
  | note _ ih => exact .note ih
  | ask hrequest _ ih => exact .ask hrequest ih

theorem Sends.mono {kinds' : List (Request → Prop)} (h : p.Sends kinds)
    (hkinds : List.Forall₂ (fun kind kind' => ∀ r, kind r → kind' r) kinds kinds') :
    p.Sends kinds' := by
  induction h generalizing kinds' with
  | done => exact .done _ _
  | note _ ih => exact .note (ih hkinds)
  | ask hrequest _ ih =>
    cases hkinds with
    | cons hkind hkinds => exact .ask (fun r hr => hkind r (hrequest r hr)) fun e => ih e hkinds

theorem Sends.exchanges_run (h : p.Sends kinds) (l : Live) :
    ∃ own, (p.run l).2.exchanges = l.exchanges ++ own ∧ Sent kinds own := by
  -- on the plan; a request that fails leaves the kinds behind it unsent
  induction h generalizing l with
  | done kinds result => exact ⟨[], by simp [run], .nil⟩
  | @note _ event _ _ ih =>
    obtain ⟨own, hown, hsent⟩ := ih (l.add (.logged event))
    exact ⟨own, by simpa [run] using hown, hsent⟩
  | @ask kind kinds request family next hrequest _ ih =>
    rw [run]
    cases hr : Client.reaching l.peer.accepts request with
    | error why => exact ⟨[], by simp, .nil⟩
    | ok r =>
      have hkind := hrequest r (Client.reaching_eq_ok hr).1
      cases hanswer : Client.answered family r l.nextReply with
      | error why => exact ⟨[(r, l.nextReply)], by simp [hanswer], .cons hkind .nil⟩
      | ok e =>
        obtain ⟨own, hown, hsent⟩ := ih e (l.heard r)
        exact ⟨(r, l.nextReply) :: own, by simp [hanswer, hown], .cons hkind hsent⟩

theorem Gives.noteAll (es : List Event) (h : p.Gives Q) : (Plan.noteAll es p).Gives Q := by
  induction es with
  | nil => exact h
  | cons e es ih => exact .note ih

theorem Gives.map {Q' : β → Prop} (f : α → β) (h : p.Gives Q) (hf : ∀ a, Q a → Q' (f a)) :
    (p.map f).Gives Q' := by
  induction h with
  | @done result h =>
    refine .done fun b hb => ?_
    cases result with
    | error why => cases hb
    | ok a =>
      cases hb
      exact hf a (h a rfl)
  | note _ ih => exact .note ih
  | ask _ ih => exact .ask ih

theorem Gives.of_run (h : p.Gives Q) {l : Live} {a : α} (ha : (p.run l).1 = .ok a) : Q a := by
  induction h generalizing l with
  | done h => exact h a ha
  | note _ ih => exact ih ha
  | @ask request family next _ ih =>
    rw [run] at ha
    cases hr : Client.reaching l.peer.accepts request with
    | error why => simp [hr] at ha
    | ok r =>
      cases hanswer : Client.answered family r l.nextReply with
      | error why => simp [hr, hanswer] at ha
      | ok e =>
        simp only [hr, hanswer] at ha
        exact ih e ha

end

namespace Blames

variable {p : Plan α} {kinds : List FaultKind}

theorem noteAll (es : List Event) (h : p.Blames kinds) : (Plan.noteAll es p).Blames kinds := by
  induction es with
  | nil => exact h
  | cons e es ih => exact .note ih

theorem map (f : α → β) (h : p.Blames kinds) : (p.map f).Blames kinds := by
  induction h with
  | @done result h =>
    refine .done fun why hwhy => ?_
    cases result with
    | ok a => cases hwhy
    | error why' =>
      cases hwhy
      exact h why rfl
  | note _ ih => exact .note ih
  | ask hrequest _ ih => exact .ask hrequest ih

theorem kind_of_run (h : p.Blames kinds) {l : Live} {why : Fault}
    (hwhy : (p.run l).1 = .error why) :
    why.kind ∈ [.transport, .http, .decode, .application] ++ kinds := by
  -- on the plan; a request fails before it is sent, or in its reply, or it leads on
  induction h generalizing l with
  | done h => exact List.mem_append_right _ (h why hwhy)
  | note _ ih => exact ih hwhy
  | @ask request family next hrequest _ ih =>
    rw [run] at hwhy
    cases hr : Client.reaching l.peer.accepts request with
    | error why' =>
      rw [hr] at hwhy
      cases hwhy
      rw [Client.kind_of_reaching hrequest hr]
      exact List.mem_append_left _ (List.mem_cons_self ..)
    | ok r =>
      rw [hr] at hwhy
      cases hanswer : Client.answered family r l.nextReply with
      | error why' =>
        simp only [hanswer] at hwhy
        cases hwhy
        exact List.mem_append_left _ (Client.verdict_iff.mpr hanswer.symm).kind_mem
      | ok e =>
        simp only [hanswer] at hwhy
        exact ih e hwhy

end Blames

end Plan

/-! ## Calls that follow a plan -/

/-- The call does what the plan says. `wrap` is how it tells a failure. -/
def Follows {ε α : Type} (wrap : Fault → ε) (now : Instant) (act : Act ε α) (p : Plan α) : Prop :=
  ∀ l : Live, act.exec now l = ((p.run l).1.mapError (.failed ∘ wrap), (p.run l).2)

namespace Follows

variable {ε ε' α β : Type} {wrap : Fault → ε} {now : Instant} {act : Act ε α} {p : Plan α}

theorem pure (a : α) : Follows wrap now (Pure.pure a) (.done (.ok a)) := fun _ => rfl

theorem log (event : Event) (h : Follows wrap now act p) :
    Follows wrap now (Act.log event >>= fun _ => act) (.note event p) := by
  intro l
  rw [Act.exec_bind_ok (Act.exec_log event)]
  exact h _

theorem logAll (es : List Event) (h : Follows wrap now act p) :
    Follows wrap now (Act.logAll es >>= fun _ => act) (.noteAll es p) := by
  induction es with
  | nil => exact h
  | cons e es ih =>
    intro l
    have hstep : (Act.logAll (e :: es) >>= fun _ => act : Act ε α) =
        Act.log e >>= fun _ => Act.logAll es >>= fun _ => act := by
      simp [Act.logAll]
    rw [hstep]
    exact ih.log e l

theorem atMoment {next : Instant → Act ε α} (h : Follows wrap now (next now) p) :
    Follows wrap now (Act.now >>= next) p := by
  intro l
  rw [Act.exec_bind_ok Act.exec_now]
  exact h l

/-- **A call of the client is a request of the plan.** -/
theorem toldExecute {request : Except Fault Request} {family : EndpointFamily}
    {next : Envelope → Act ε α} {rest : Envelope → Plan α}
    (h : ∀ e, Follows wrap now (next e) (rest e)) :
    Follows wrap now ((Client.execute request family).mapFailure wrap >>= next)
      (.ask request family rest) := by
  intro l
  rw [Act.exec_bind, Act.exec_mapFailure, Client.exec_execute, Plan.run]
  cases Client.reaching l.peer.accepts request with
  | error why => rfl
  | ok r =>
    cases ha : Client.answered family r l.nextReply with
    | error why => simp [ha]
    | ok e => simpa [ha] using h e _

theorem execute {request : Except Fault Request} {family : EndpointFamily}
    {next : Envelope → Act Fault α} {rest : Envelope → Plan α}
    (h : ∀ e, Follows id now (next e) (rest e)) :
    Follows id now (Client.execute request family >>= next) (.ask request family rest) := by
  have htold : Follows id now ((Client.execute request family).mapFailure id >>= next)
      (.ask request family rest) := toldExecute h
  rwa [Act.mapFailure_id] at htold

theorem mapFailure (f : ε → ε') (h : Follows wrap now act p) :
    Follows (f ∘ wrap) now (act.mapFailure f) p := by
  intro l
  rw [Act.exec_mapFailure, h l]
  cases (p.run l).1 <;> rfl

theorem map (f : α → β) (h : Follows wrap now act p) :
    Follows wrap now (f <$> act) (p.map f) := by
  intro l
  rw [map_eq_pure_bind, Act.exec_bind, h l, Plan.run_map]
  cases (p.run l).1 <;> rfl

end Follows

end RemoteDrive
