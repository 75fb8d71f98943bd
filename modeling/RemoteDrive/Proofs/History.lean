import RemoteDrive.Live

/-!
# What has passed, and what follows on what

A situation keeps everything that has passed between the calls and the world outside. This file
reads the history in the ways the theory of the session needs it, and relates situations to each
other:

* `Live.exchanges`: the requests that reached the peer, each with its reply.
* `Live.Extends P`: a later situation. The peer is the same one, and each request that was sent in
  between is one of `P`.
* `Live.Steady P`: a later situation with the same tokens.
* `Live.Quiet`: a later situation. The log was told in between, but not of a token.
* `Live.Alike`: two situations that no caller can tell apart by what the session or the peer does
  from there on. They differ in what the log was told, and in nothing else.
-/

set_option autoImplicit false

namespace RemoteDrive

/-- The names under which there is a token, in the log and in a payload. -/
def tokenKeys : List String := ["access_token", "refresh_token"]

/-- The event has no field for a token. -/
def Event.Tokenless (e : Event) : Prop := ∀ p ∈ e.fields, p.1 ∉ tokenKeys

theorem Event.tokenless_iff {e : Event} :
    e.Tokenless ↔ (e.fields.all fun p => !tokenKeys.contains p.1) = true := by
  simp [Tokenless]

/-- The occurrence is no request, and no event with a field for a token. -/
def Occurrence.Remark : Occurrence → Prop
  | .sent _ _ => False
  | .logged e => e.Tokenless
  | .read _ => True
  | .reported _ => True

namespace Live

/-- The requests that reached the peer, with the replies to them. -/
def exchanges (l : Live) : List (Request × Reply) :=
  l.history.filterMap fun
    | .sent r reply => some (r, reply)
    | _ => none

/-- What the peer will answer next. -/
def nextReply (l : Live) : Reply := l.peer.replies.headD .closed

theorem requests_eq (l : Live) : l.requests = l.exchanges.map Prod.fst := by
  unfold requests exchanges
  rw [List.map_filterMap]
  congr 1
  funext o
  cases o <;> rfl

/-! ## One occurrence more -/

@[simp] theorem tokens_add (l : Live) (o : Occurrence) : (l.add o).tokens = l.tokens := rfl

@[simp] theorem peer_add (l : Live) (o : Occurrence) : (l.add o).peer = l.peer := rfl

@[simp] theorem history_add (l : Live) (o : Occurrence) : (l.add o).history = l.history ++ [o] :=
  rfl

@[simp] theorem nextReply_add (l : Live) (o : Occurrence) : (l.add o).nextReply = l.nextReply := rfl

@[simp] theorem requests_logged (l : Live) (e : Event) :
    (l.add (.logged e)).requests = l.requests := by
  simp [requests]

@[simp] theorem exchanges_logged (l : Live) (e : Event) :
    (l.add (.logged e)).exchanges = l.exchanges := by
  simp [exchanges]

@[simp] theorem events_logged (l : Live) (e : Event) :
    (l.add (.logged e)).events = l.events ++ [e] := by
  simp [events]

/-! ## Other tokens -/

/-- The same situation with other tokens. -/
def withTokens (l : Live) (t : Option Tokens) : Live := { l with tokens := t }

@[simp] theorem tokens_withTokens (l : Live) (t : Option Tokens) : (l.withTokens t).tokens = t :=
  rfl

@[simp] theorem peer_withTokens (l : Live) (t : Option Tokens) : (l.withTokens t).peer = l.peer :=
  rfl

@[simp] theorem requests_withTokens (l : Live) (t : Option Tokens) :
    (l.withTokens t).requests = l.requests := rfl

@[simp] theorem exchanges_withTokens (l : Live) (t : Option Tokens) :
    (l.withTokens t).exchanges = l.exchanges := rfl

@[simp] theorem events_withTokens (l : Live) (t : Option Tokens) :
    (l.withTokens t).events = l.events := rfl

/-! ## Later situations -/

/-- `l'` comes after `l`, and only requests of `P` were sent in between. -/
structure Extends (P : Request → Prop) (l l' : Live) : Prop where
  accepts : l'.peer.accepts = l.peer.accepts
  sent : ∃ os, l'.history = l.history ++ os ∧ ∀ r reply, .sent r reply ∈ os → P r

namespace Extends

variable {P Q : Request → Prop} {l l' l'' : Live}

theorem refl (l : Live) : l.Extends P l := ⟨rfl, [], by simp, by simp⟩

theorem trans (h : l.Extends P l') (h' : l'.Extends P l'') : l.Extends P l'' := by
  obtain ⟨os, hos, hP⟩ := h.sent
  obtain ⟨os', hos', hP'⟩ := h'.sent
  refine ⟨h'.accepts.trans h.accepts, os ++ os', by rw [hos', hos, List.append_assoc], ?_⟩
  intro r reply hr
  rcases List.mem_append.mp hr with hr | hr
  · exact hP r reply hr
  · exact hP' r reply hr

theorem mono (h : l.Extends P l') (hPQ : ∀ r, P r → Q r) : l.Extends Q l' := by
  obtain ⟨os, hos, hP⟩ := h.sent
  exact ⟨h.accepts, os, hos, fun r reply hr => hPQ r (hP r reply hr)⟩

/-- An occurrence that is no request, or one of `P`. -/
theorem add (l : Live) (o : Occurrence) (h : ∀ r reply, o = .sent r reply → P r) :
    l.Extends P (l.add o) := by
  refine ⟨rfl, [o], rfl, fun r reply hr => ?_⟩
  exact h r reply (List.mem_singleton.mp hr).symm

theorem logged (l : Live) (e : Event) : l.Extends P (l.add (.logged e)) :=
  .add l _ fun _ _ h => by cases h

theorem withTokens (h : l.Extends P l') (t : Option Tokens) : l.Extends P (l'.withTokens t) :=
  ⟨h.accepts, h.sent⟩

theorem history_prefix (h : l.Extends P l') : l.history <+: l'.history := by
  obtain ⟨os, hos, -⟩ := h.sent
  exact ⟨os, hos.symm⟩

/-- What was sent in between is what the exchanges grew by. -/
theorem exchanges (h : l.Extends P l') :
    ∃ xs, l'.exchanges = l.exchanges ++ xs ∧ ∀ x ∈ xs, P x.1 := by
  obtain ⟨os, hos, hP⟩ := h.sent
  refine ⟨os.filterMap fun | .sent r reply => some (r, reply) | _ => none, ?_, ?_⟩
  · simp only [Live.exchanges, hos, List.filterMap_append]
  · intro x hx
    obtain ⟨o, ho, hox⟩ := List.mem_filterMap.mp hx
    cases o with
    | sent r reply =>
      cases hox
      exact hP r reply ho
    | logged _ => cases hox
    | read _ => cases hox
    | reported _ => cases hox

end Extends

/-- `l'` comes after `l` with the same tokens, and only requests of `P` were sent in between. -/
structure Steady (P : Request → Prop) (l l' : Live) : Prop extends l.Extends P l' where
  tokens : l'.tokens = l.tokens

namespace Steady

variable {P Q : Request → Prop} {l l' l'' : Live}

theorem refl (l : Live) : l.Steady P l := ⟨.refl l, rfl⟩

theorem trans (h : l.Steady P l') (h' : l'.Steady P l'') : l.Steady P l'' :=
  ⟨h.toExtends.trans h'.toExtends, h'.tokens.trans h.tokens⟩

theorem mono (h : l.Steady P l') (hPQ : ∀ r, P r → Q r) : l.Steady Q l' :=
  ⟨h.toExtends.mono hPQ, h.tokens⟩

theorem logged (l : Live) (e : Event) : l.Steady P (l.add (.logged e)) := ⟨.logged l e, rfl⟩

end Steady

/-- Between `l` and `l'` the log was told nothing with a field for a token. -/
def Quiet (l l' : Live) : Prop :=
  ∃ es, l'.events = l.events ++ es ∧ ∀ e ∈ es, e.Tokenless

namespace Quiet

variable {l l' l'' : Live}

theorem refl (l : Live) : l.Quiet l := ⟨[], by simp, by simp⟩

theorem trans (h : l.Quiet l') (h' : l'.Quiet l'') : l.Quiet l'' := by
  obtain ⟨es, hes, hquiet⟩ := h
  obtain ⟨es', hes', hquiet'⟩ := h'
  refine ⟨es ++ es', by rw [hes', hes, List.append_assoc], fun e he => ?_⟩
  exact (List.mem_append.mp he).elim (hquiet e) (hquiet' e)

theorem logged (l : Live) {e : Event} (h : e.Tokenless) : l.Quiet (l.add (.logged e)) :=
  ⟨[e], by simp, by simpa using h⟩

theorem withTokens (h : l.Quiet l') (t : Option Tokens) : l.Quiet (l'.withTokens t) := h

/-- Remarks are quiet. -/
theorem remarks (l : Live) {os : List Occurrence} (h : ∀ o ∈ os, o.Remark) :
    l.Quiet { l with history := l.history ++ os } := by
  refine ⟨_, List.filterMap_append, fun e he => ?_⟩
  obtain ⟨o, ho, hoe⟩ := List.mem_filterMap.mp he
  cases o with
  | logged _ =>
    cases hoe
    exact h _ ho
  | sent | read | reported => cases hoe

end Quiet

/-! ## The past -/

/-- The same situation with more behind it. -/
def behind (past : List Occurrence) (l : Live) : Live := { l with history := past ++ l.history }

/-- The same situation with nothing behind it. -/
def fresh (l : Live) : Live := { l with history := [] }

theorem fresh_behind (l : Live) : l.fresh.behind l.history = l := by
  simp [fresh, behind]

theorem exchanges_behind (l m : Live) :
    (l.behind m.history).exchanges = m.exchanges ++ l.exchanges := by
  simp [behind, exchanges]

/-- The same tokens and the same peer, and the same requests were sent. -/
structure Alike (l m : Live) : Prop where
  tokens : l.tokens = m.tokens
  peer : l.peer = m.peer
  exchanges : l.exchanges = m.exchanges

namespace Alike

variable {l m k : Live}

theorem trans (h : l.Alike m) (h' : m.Alike k) : l.Alike k :=
  ⟨h.tokens.trans h'.tokens, h.peer.trans h'.peer, h.exchanges.trans h'.exchanges⟩

theorem logged (l : Live) (e : Event) : l.Alike (l.add (.logged e)) := ⟨rfl, rfl, by simp⟩

theorem fresh (h : l.Alike m) : l.fresh = m.fresh := by
  simp [Live.fresh, h.tokens, h.peer]

theorem requests (h : l.Alike m) : l.requests = m.requests := by
  rw [requests_eq, requests_eq, h.exchanges]

end Alike

end Live
end RemoteDrive
