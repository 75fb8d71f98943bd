import Mathlib.Data.List.Forall2
import RemoteDrive.Proofs.Session.Reply
import RemoteDrive.Proofs.Twins

/-!
# Tokens that begin alike

Secrets are kin if they begin alike as far as a log shows them, and both can stand in a header or
neither. From secrets the relation goes on to everything in which a token comes to the client or is
kept by it: to payloads that differ in the tokens that they grant (`Json.Kin`), to envelopes, to
replies, and to situations (`Live.Kin`). Only at the places of a token may two payloads differ. What
the service says at another place is no token to this library, not even if it is the same text.

How two calls are followed at once depends on little of what two situations have in common. A
`Live.Likeness` is a relation that has this much: situations in it cannot be told apart by what is
asked of tokens, the peer's replies are kin, and whatever is done in both leaves them in it. Twins are
one such relation and kin is another (`twins_likeness`, `kin_likeness`), so that what is proved of a
pair of calls in this file and after it is proved for both.
-/

set_option autoImplicit false

namespace RemoteDrive

/-! ## Secrets -/

/-- The log cannot tell the secrets apart, and neither can who wants to send one of them. -/
structure Secret.Kin (s t : String) : Prop where
  start : shownStart s = shownStart t
  sendable : isHeaderValue s = isHeaderValue t

namespace Secret.Kin

variable {s t : String}

theorem refl (s : String) : Secret.Kin s s := ⟨rfl, rfl⟩

/-- Nothing begins like the empty secret. -/
theorem eq_empty_iff (h : Secret.Kin s t) : s = "" ↔ t = "" := by
  rw [← shownStart_eq_nil, ← shownStart_eq_nil, h.start]

end Secret.Kin

/-! ## Fields -/

/-- The same names in the same order, and values that stand in the relation of their name. -/
def FieldsRelated (K : String → Json → Json → Prop) (fields fields' : List (String × Json)) : Prop :=
  List.Forall₂ (fun p q => p.1 = q.1 ∧ K p.1 p.2 q.2) fields fields'

/-- Under a name there is something in both or in neither. -/
theorem FieldsRelated.lookup {K : String → Json → Json → Prop}
    {fields fields' : List (String × Json)} (h : FieldsRelated K fields fields') (key : String) :
    fields.lookup key = none ∧ fields'.lookup key = none ∨
      ∃ x y, fields.lookup key = some x ∧ fields'.lookup key = some y ∧ K key x y := by
  induction h with
  | nil => exact .inl ⟨rfl, rfl⟩
  | @cons p q fields fields' hpq _ ih =>
    obtain ⟨name, x⟩ := p
    obtain ⟨_, y⟩ := q
    obtain ⟨rfl, hxy⟩ := hpq
    simp only [List.lookup_cons]
    cases hkey : key == name with
    | true =>
      rw [beq_iff_eq.mp hkey]
      exact .inr ⟨x, y, rfl, rfl, hxy⟩
    | false => exact ih

theorem rel_bind {α β γ δ : Type} {R : α → β → Prop} {S : γ → δ → Prop} {x : Option α} {y : Option β}
    {f : α → Option γ} {g : β → Option δ} (h : Option.Rel R x y)
    (hfg : ∀ a b, R a b → Option.Rel S (f a) (g b)) : Option.Rel S (x.bind f) (y.bind g) := by
  cases h with
  | some hab => exact hfg _ _ hab
  | none => exact .none

theorem rel_refl {α : Type} {R : α → α → Prop} (hR : ∀ a, R a a) (x : Option α) :
    Option.Rel R x x := by
  cases x with
  | some a => exact .some (hR a)
  | none => exact .none

/-! ## Payloads -/

namespace Json

/-- The values that two payloads have under a name: the same, or tokens that are kin. -/
inductive KinUnder (key : String) : Json → Json → Prop
  | same (j : Json) : KinUnder key j j
  | token {s t : String} (hkey : key ∈ tokenKeys) (h : Secret.Kin s t) :
    KinUnder key (.text s) (.text t)

/-- The payloads differ in the tokens that they hold, and these are kin. -/
inductive Kin : Json → Json → Prop
  | same (j : Json) : Kin j j
  | object {fields fields' : List (String × Json)} (h : FieldsRelated KinUnder fields fields') :
    Kin (.object fields) (.object fields')

variable {x y : Json} {key : String}

theorem KinUnder.eq (h : KinUnder key x y) (hkey : key ∉ tokenKeys) : x = y := by
  cases h with
  | same => rfl
  | token hmem => exact absurd hmem hkey

/-- What is no token is the same in both. -/
theorem Kin.field? (h : x.Kin y) (hkey : key ∉ tokenKeys) : x.field? key = y.field? key := by
  cases h with
  | same => rfl
  | @object fields fields' h =>
    show fields.lookup key = fields'.lookup key
    obtain ⟨hx, hy⟩ | ⟨x, y, hx, hy, hxy⟩ := h.lookup key
    · rw [hx, hy]
    · rw [hx, hy, hxy.eq hkey]

theorem Kin.isNull (h : x.Kin y) : x.isNull = y.isNull := by
  cases h <;> rfl

end Json

/-! ## Grants -/

/-- What an object has for a field. -/
def slotFor (fields : List (String × Json)) (name : String) : Slot Json :=
  match fields.lookup name with
  | some j => .given j
  | none => .missing

section Slots

variable {fields fields' : List (String × Json)} (h : FieldsRelated Json.KinUnder fields fields')
include h

theorem slotFor_eq (key : String) (hkey : key ∉ tokenKeys) :
    slotFor fields key = slotFor fields' key := by
  unfold slotFor
  obtain ⟨hx, hy⟩ | ⟨x, y, hx, hy, hxy⟩ := h.lookup key
  · rw [hx, hy]
  · rw [hx, hy, hxy.eq hkey]

/-- A token that may be missing, which is the same as empty. -/
theorem orElse_kin (key : String) :
    Option.Rel Secret.Kin ((slotFor fields key).orElse "" Document.text?)
      ((slotFor fields' key).orElse "" Document.text?) := by
  unfold slotFor
  obtain ⟨hx, hy⟩ | ⟨x, y, hx, hy, hxy⟩ := h.lookup key
  · rw [hx, hy]
    exact .some (.refl _)
  · rw [hx, hy]
    cases hxy with
    | same j => exact rel_refl .refl _
    | token _ hst => exact .some hst

theorem text_kin (key : String) :
    Option.Rel (Option.Rel Secret.Kin) (slotFor fields key).text (slotFor fields' key).text := by
  unfold slotFor
  obtain ⟨hx, hy⟩ | ⟨x, y, hx, hy, hxy⟩ := h.lookup key
  · rw [hx, hy]
    exact .some .none
  · rw [hx, hy]
    cases hxy with
    | same j => exact rel_refl (rel_refl .refl) _
    | token _ hst => exact .some (.some hst)

end Slots

/-- The grants differ in their tokens, and these are kin. -/
structure AuthGrant.Kin (g g' : AuthGrant) : Prop where
  access : Secret.Kin g.accessToken g'.accessToken
  refresh : Secret.Kin g.refreshToken g'.refreshToken
  lifetime : g.lifetime = g'.lifetime
  tokenType : g.tokenType = g'.tokenType

structure RefreshGrant.Kin (g g' : RefreshGrant) : Prop where
  access : Secret.Kin g.accessToken g'.accessToken
  refresh : Option.Rel Secret.Kin g.refreshToken g'.refreshToken
  lifetime : g.lifetime = g'.lifetime

theorem AuthGrant.Kin.refl (g : AuthGrant) : g.Kin g := ⟨.refl _, .refl _, rfl, rfl⟩

theorem RefreshGrant.Kin.refl (g : RefreshGrant) : g.Kin g :=
  ⟨.refl _, rel_refl .refl _, rfl⟩

section Payloads

variable {x y : Json}

theorem AuthGrant.read?_kin (h : x.Kin y) :
    Option.Rel AuthGrant.Kin (AuthGrant.read? x) (AuthGrant.read? y) := by
  cases h with
  | same j => exact rel_refl .refl _
  | @object fields fields' h =>
    refine rel_bind (orElse_kin h "access_token") fun access access' haccess => ?_
    refine rel_bind (orElse_kin h "refresh_token") fun refresh refresh' hrefresh => ?_
    show Option.Rel AuthGrant.Kin
      (((slotFor fields "expires_in").orElse 0 RichDocument.integer?).bind _)
      (((slotFor fields' "expires_in").orElse 0 RichDocument.integer?).bind _)
    rw [slotFor_eq h "expires_in" (by decide)]
    refine rel_bind (rel_refl (R := Eq) (fun _ => rfl) _) ?_
    rintro lifetime _ rfl
    show Option.Rel AuthGrant.Kin ((slotFor fields "token_type").text.bind _)
      ((slotFor fields' "token_type").text.bind _)
    rw [slotFor_eq h "token_type" (by decide)]
    refine rel_bind (rel_refl (R := Eq) (fun _ => rfl) _) ?_
    rintro tokenType _ rfl
    exact .some ⟨haccess, hrefresh, rfl, rfl⟩

theorem RefreshGrant.read?_kin (h : x.Kin y) :
    Option.Rel RefreshGrant.Kin (RefreshGrant.read? x) (RefreshGrant.read? y) := by
  cases h with
  | same j => exact rel_refl .refl _
  | @object fields fields' h =>
    refine rel_bind (orElse_kin h "access_token") fun access access' haccess => ?_
    show Option.Rel RefreshGrant.Kin
      (((slotFor fields "expires_in").orElse 0 RichDocument.integer?).bind _)
      (((slotFor fields' "expires_in").orElse 0 RichDocument.integer?).bind _)
    rw [slotFor_eq h "expires_in" (by decide)]
    refine rel_bind (rel_refl (R := Eq) (fun _ => rfl) _) ?_
    rintro lifetime _ rfl
    exact rel_bind (text_kin h "refresh_token") fun _ _ hrefresh =>
      .some ⟨haccess, hrefresh, rfl⟩

end Payloads

/-! ## Envelopes -/

/-- The envelopes differ in the tokens of their payloads only. -/
structure Envelope.Kin (e e' : Envelope) : Prop where
  code : e.code = e'.code
  message : e.message = e'.message
  success : e.success = e'.success
  field : ∀ key ≠ "data", e.root.field? key = e'.root.field? key
  data : e.data.Kin e'.data

namespace Envelope.Kin

variable {e e' : Envelope}

theorem refl (e : Envelope) : e.Kin e := ⟨rfl, rfl, rfl, fun _ _ => rfl, .same _⟩

theorem errorMessage (h : e.Kin e') : e.errorMessage = e'.errorMessage := by
  rw [Envelope.errorMessage, Envelope.errorMessage, h.message]

theorem dataText? (h : e.Kin e') {key : String} (hkey : key ∉ tokenKeys) :
    e.dataText? key = e'.dataText? key := by
  rw [Envelope.dataText?, Envelope.dataText?, h.data.field? hkey]

theorem check (h : e.Kin e') : Agree Envelope.Kin (e.check.mapError Stop.failed)
    (e'.check.mapError Stop.failed) := by
  unfold Envelope.check
  rw [h.code, h.errorMessage]
  split
  · split
    · exact .ok h
    · exact .error _
  · exact .ok h

/-- A record is read from both payloads or from neither. -/
theorem dataAs {γ : Type} {K : γ → γ → Prop} {default : γ} {read : Json → Option γ} (h : e.Kin e')
    (hdefault : K default default) (hread : Option.Rel K (read e.data) (read e'.data)) :
    (∃ why, e.dataAs default read = .error why ∧ e'.dataAs default read = .error why) ∨
      ∃ g g', e.dataAs default read = .ok g ∧ e'.dataAs default read = .ok g' ∧ K g g' := by
  unfold Envelope.dataAs
  rw [h.data.isNull]
  split
  · exact .inr ⟨default, default, rfl, rfl, hdefault⟩
  · generalize read e.data = x at hread ⊢
    generalize read e'.data = y at hread ⊢
    cases hread with
    | some hgg' => exact .inr ⟨_, _, rfl, rfl, hgg'⟩
    | none => exact .inl ⟨_, rfl, rfl⟩

end Envelope.Kin

namespace Session

variable {e e' : Envelope}

theorem authGrant_kin (h : e.Kin e') : Agree AuthGrant.Kin ((authGrant e).mapError Stop.failed)
    ((authGrant e').mapError Stop.failed) := by
  unfold authGrant isAccepted
  rw [h.code, h.message, h.errorMessage]
  split
  · obtain ⟨why, hwhy, hwhy'⟩ | ⟨g, g', hg, hg', hkin⟩ :=
      h.dataAs (.refl .empty) (AuthGrant.read?_kin h.data)
    · rw [hwhy, hwhy']
      exact .error _
    · simp only [hg, hg', mapError_ok, bind, Except.bind, hkin.access.eq_empty_iff,
        hkin.refresh.eq_empty_iff]
      split
      · exact .error _
      · exact .ok hkin
  · exact .error _

theorem refreshGrant_kin (h : e.Kin e') :
    Agree RefreshGrant.Kin ((refreshGrant e).mapError Stop.failed)
      ((refreshGrant e').mapError Stop.failed) := by
  have hrejection : refreshRejection e = refreshRejection e' := by
    unfold refreshRejection
    rw [h.message, h.errorMessage]
  unfold refreshGrant isRefreshed
  rw [h.code, h.success, hrejection]
  split
  · obtain ⟨why, hwhy, hwhy'⟩ | ⟨g, g', hg, hg', hkin⟩ :=
      h.dataAs (.refl .empty) (RefreshGrant.read?_kin h.data)
    · rw [hwhy, hwhy']
      exact .error _
    · simp only [hg, hg', mapError_ok, bind, Except.bind, hkin.access.eq_empty_iff]
      split
      · exact .error _
      · exact .ok hkin
  · exact .error _

end Session

/-! ## Replies -/

/-- Two fields of a whole reply: the same, or two payloads that are kin. -/
def RootsKin (key : String) (x y : Json) : Prop := x = y ∨ key = "data" ∧ x.Kin y

/-- The same reply, or two that bring the same but for the tokens of their payloads. -/
inductive Reply.Kin : Reply → Reply → Prop
  | same (reply : Reply) : Kin reply reply
  | brings {reply reply' : Reply} {fields fields' : List (String × Json)}
    (h : reply.Brings fields) (h' : reply'.Brings fields')
    (hfields : FieldsRelated RootsKin fields fields') : Kin reply reply'

theorem Envelope.ofObject_kin (family : EndpointFamily) {fields fields' : List (String × Json)}
    (h : FieldsRelated RootsKin fields fields') :
    (ofObject family (.object fields)).Kin (ofObject family (.object fields')) := by
  have hfield : ∀ key ≠ "data",
      (Json.object fields).field? key = (Json.object fields').field? key := by
    intro key hkey
    show fields.lookup key = fields'.lookup key
    obtain ⟨hx, hy⟩ | ⟨x, y, hx, hy, rfl | ⟨hdata, -⟩⟩ := h.lookup key
    · rw [hx, hy]
    · rw [hx, hy]
    · exact absurd hdata hkey
  have hfirst : ∀ {α : Type} (ask : Json → Option α) (keys : List String), "data" ∉ keys →
      (Json.object fields).firstOf ask keys = (Json.object fields').firstOf ask keys :=
    fun _ _ hkeys => Json.firstOf_congr fun key hkey => hfield key fun h => hkeys (h ▸ hkey)
  refine ⟨?_, ?_, ?_, hfield, ?_⟩
  · show ((Json.object fields).firstOf _ _).map _ = ((Json.object fields').firstOf _ _).map _
    rw [hfirst _ _ (by cases family <;> decide)]
  · exact hfirst _ _ (by cases family <;> decide)
  · show ((Json.object fields).field? _).bind _ = ((Json.object fields').field? _).bind _
    rw [hfield "success" (by decide)]
  · show ((fields.lookup "data").getD .null).Kin ((fields'.lookup "data").getD .null)
    obtain ⟨hx, hy⟩ | ⟨x, y, hx, hy, rfl | ⟨-, hxy⟩⟩ := h.lookup "data"
    · rw [hx, hy]
      exact .same _
    · rw [hx, hy]
      exact .same _
    · rw [hx, hy]
      exact hxy

namespace Client

/-- To requests that differ in secrets only, replies that are kin say the same. -/
theorem outcome_kin (family : EndpointFamily) {r r' : Request} (hr : r.outline = r'.outline)
    {reply reply' : Reply} (h : reply.Kin reply') :
    Agree Envelope.Kin ((outcome family r reply).mapError Stop.failed)
      ((outcome family r' reply').mapError Stop.failed) := by
  cases h with
  | same =>
    rw [outcome_outline family hr]
    exact .refl .refl _
  | brings h h' hfields =>
    rw [outcome_eq_ok_iff.mpr ⟨_, h, rfl⟩, outcome_eq_ok_iff.mpr ⟨_, h', rfl⟩]
    exact .ok (Envelope.ofObject_kin family hfields)

theorem statusReport_of_brings {reply : Reply} {fields : List (String × Json)}
    (h : reply.Brings fields) : statusReport reply = [] := by
  obtain ⟨a, rfl, hstatus, -⟩ := h
  rw [statusReport, if_pos (isSuccessStatus_of_succeeds hstatus)]

theorem statusReport_kin {reply reply' : Reply} (h : reply.Kin reply') :
    statusReport reply = statusReport reply' := by
  cases h with
  | same => rfl
  | brings h h' => rw [statusReport_of_brings h, statusReport_of_brings h']

end Client

/-! ## Situations -/

/-- What two situations have to have in common so that calls can be followed in both at once. -/
structure Live.Likeness (T : Live → Live → Prop) : Prop where
  tokens {l m : Live} (h : T l m) : l.tokens.map Tokens.outline = m.tokens.map Tokens.outline
  accepts {l m : Live} (h : T l m) : l.peer.accepts = m.peer.accepts
  reply {l m : Live} (h : T l m) : l.nextReply.Kin m.nextReply
  heard {l m : Live} (h : T l m) {r r' : Request} (hr : r.outline = r'.outline) :
    T (l.heard r) (m.heard r')
  noted {l m : Live} (h : T l m) {os : List Occurrence} (hos : ∀ r reply, .sent r reply ∉ os) :
    T { l with history := l.history ++ os } { m with history := m.history ++ os }
  withTokens {l m : Live} (h : T l m) {t u : Option Tokens}
    (ht : t.map Tokens.outline = u.map Tokens.outline) : T (l.withTokens t) (m.withTokens u)

theorem twins_likeness : Live.Likeness Live.Twins where
  tokens h := h.tokens
  accepts h := congrArg Peer.accepts h.peer
  reply h := h.nextReply ▸ .same _
  heard h _ _ hr := h.heard hr
  noted h _ _ := ⟨h.tokens, h.peer, by simp [h.history]⟩
  withTokens h _ _ ht := h.withTokens ht

/-- The situations differ in tokens only, held or still to be granted, and in what has been sent.
The log has been told the same. -/
structure Live.Kin (l m : Live) : Prop where
  tokens : l.tokens.map Tokens.outline = m.tokens.map Tokens.outline
  accepts : l.peer.accepts = m.peer.accepts
  replies : List.Forall₂ Reply.Kin l.peer.replies m.peer.replies
  events : l.events = m.events

namespace Live.Kin

variable {l m : Live}

theorem nextReply (h : l.Kin m) : l.nextReply.Kin m.nextReply := by
  have hreplies := h.replies
  unfold Live.nextReply
  generalize l.peer.replies = replies at hreplies ⊢
  generalize m.peer.replies = replies' at hreplies ⊢
  cases hreplies with
  | nil => exact .same _
  | cons hreply => exact hreply

theorem awaiting (h : l.Kin m) {replies replies' : List Reply}
    (hreplies : List.Forall₂ Reply.Kin replies replies') :
    (l.awaiting replies).Kin (m.awaiting replies') :=
  ⟨h.tokens, h.accepts, hreplies, h.events⟩

end Live.Kin

theorem kin_likeness : Live.Likeness Live.Kin where
  tokens h := h.tokens
  accepts h := h.accepts
  reply h := h.nextReply
  heard h r r' _ := by
    refine ⟨h.tokens, h.accepts, List.forall₂_drop 1 h.replies, ?_⟩
    rw [Live.events_heard, Live.events_heard, h.events, Client.statusReport_kin h.nextReply]
  noted h os _ := by
    refine ⟨h.tokens, h.accepts, h.replies, ?_⟩
    have hevents := h.events
    simp only [Live.events, List.filterMap_append] at hevents ⊢
    rw [hevents]
  withTokens h _ _ ht := ⟨ht, h.accepts, h.replies, h.events⟩

/-! ## Calls in two situations -/

section Calls

variable {T : Live → Live → Prop} (hT : Live.Likeness T)
include hT

namespace Act.Related

variable {ε α : Type}

/-- A call that only takes notes cannot tell the situations apart. -/
theorem notes {act : Act ε α} (h : act.Notes) : Related T Eq act act := by
  intro now l m hlm
  obtain ⟨result, os, hos, hexec⟩ := h now
  rw [hexec, hexec]
  exact ⟨.refl (fun _ => rfl) _, hT.noted hlm hos⟩

theorem log (e : Event) : Related T Eq (Act.log e : Act ε Unit) (Act.log e) := notes hT (.log e)

theorem logAll (es : List Event) : Related T Eq (Act.logAll es : Act ε Unit) (Act.logAll es) :=
  notes hT (.logAll es)

theorem tokens : Related T (fun t u => t.map Tokens.outline = u.map Tokens.outline)
    (Act.tokens : Act ε (Option Tokens)) Act.tokens :=
  fun _ _ _ hlm => ⟨.ok (hT.tokens hlm), hlm⟩

theorem setTokens {t u : Option Tokens} (h : t.map Tokens.outline = u.map Tokens.outline) :
    Related T Eq (Act.setTokens t : Act ε Unit) (Act.setTokens u) :=
  fun _ _ _ hlm => ⟨.ok rfl, hT.withTokens hlm h⟩

end Act.Related

namespace Client

variable {request request' : Except Fault Request}
  (h : request.map Request.outline = request'.map Request.outline)
include h

/-- Requests that differ in secrets only are answered alike. -/
theorem fetch_related (family : EndpointFamily) :
    Act.Related T Envelope.Kin (fetch request family) (fetch request' family) := by
  intro now l m hlm
  have hreaching := reaching_outline l.peer.accepts h
  rw [exec_fetch, exec_fetch, ← hT.accepts hlm]
  obtain ⟨why, hwhy, hwhy'⟩ | ⟨r, r', hok, hok', hr⟩ := Request.outline_cases hreaching
  · rw [hwhy, hwhy']
    exact ⟨.error _, hlm⟩
  · rw [hok, hok']
    exact ⟨outcome_kin family hr (hT.reply hlm), hT.heard hlm hr⟩

theorem execute_related (family : EndpointFamily) :
    Act.Related T Envelope.Kin (execute request family) (execute request' family) :=
  (fetch_related hT h family).bind fun _ _ he => .ofExcept he.check

end Client

end Calls

end RemoteDrive
