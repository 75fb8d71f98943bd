import Mathlib.Data.List.TakeDrop
import RemoteDrive.Session.Run
import RemoteDrive.Proofs.Session.Secrecy

/-!
# Tokens in the log

The log has two fields for a token: the access token when the credentials have been accepted, and the
refresh token when it is about to be shown. What stands in them is the token's mask. `Masks` says what
can be seen of a token there, which depends on how long it is: a mask shows ten characters, so of a
token that has no more it shows all.

`Tells` says of two situations what the log was told between them, one event at a time: the event has
no field for a token, or it is one of the two, with the token that the session was granted or holds
(`Told`). The calls of the session are gone through once for it, by their courses; what else is done
in a turn is `Live.Quiet`.
-/

set_option autoImplicit false

namespace RemoteDrive

/-! ## Masks -/

/-- The field shows how the token begins: at most ten of its characters, and with three asterisks
behind them. It holds the whole token if that is not longer, or if it goes on as the mask does. -/
structure Masks (token field : String) : Prop where
  shown : ∃ shown, field = shown ++ "***" ∧ shown.toList <+: token.toList ∧ shown.length ≤ 10 ∧
    (shown ≠ token ↔ 10 < token.length)
  whole : token.toList <:+: field.toList ↔ token.toList.drop 10 <+: "***".toList
  hidden : 13 < token.length → ¬ token.toList <:+: field.toList

theorem toList_masked (token : String) :
    (masked token).toList = token.toList.take 10 ++ List.replicate 3 '*' := by
  rw [masked, String.toList_ofList]
  rfl

/-- A token stands in its mask only at the start, or what is behind its first ten characters is
asterisks all the same. -/
theorem infix_masked_iff (token : String) :
    token.toList <:+: (masked token).toList ↔ token.toList.drop 10 <+: List.replicate 3 '*' := by
  rw [toList_masked]
  generalize token.toList = t
  have hwhole : t.take 10 ++ t.drop 10 = t := List.take_append_drop 10 t
  constructor
  · rintro ⟨before, after, h⟩
    rcases Nat.le_total t.length 10 with hshort | hlong
    · rw [List.drop_eq_nil_of_le hshort]
      exact List.nil_prefix
    · -- as long as the mask is, the rest of the token is among its asterisks
      have hlength : (t.take 10).length = 10 := List.length_take_of_le hlong
      have hsplit : (before ++ t.take 10) ++ (t.drop 10 ++ after) =
          t.take 10 ++ List.replicate 3 '*' := by
        rw [← h, List.append_assoc, ← List.append_assoc (t.take 10), hwhole, List.append_assoc]
      have hrest : t.drop 10 ++ after = List.replicate (3 - before.length) '*' := by
        have hdrop := congrArg (List.drop (before.length + 10)) hsplit
        have hnone : (t.take 10).drop (before.length + 10) = [] :=
          List.drop_eq_nil_of_le (by omega)
        rwa [List.drop_left' (by rw [List.length_append, hlength]), List.drop_append, hnone,
          hlength, Nat.add_sub_cancel, List.nil_append, List.drop_replicate] at hdrop
      have hprefix : t.drop 10 <+: List.replicate (3 - before.length) '*' := ⟨after, hrest⟩
      rw [List.prefix_replicate_iff] at hprefix ⊢
      exact ⟨by omega, hprefix.2⟩
  · rintro ⟨after, h⟩
    refine ⟨[], after, ?_⟩
    rw [← h, ← List.append_assoc, hwhole, List.nil_append]

theorem masks_masked (token : String) : Masks token (masked token) where
  shown := by
    refine ⟨String.ofList (token.toList.take 10), ?_, ?_, ?_, ?_⟩
    · rw [← String.toList_inj, toList_masked, String.toList_append, String.toList_ofList]
      rfl
    · rw [String.toList_ofList]
      exact List.take_prefix 10 _
    · rw [String.length_ofList]
      exact List.length_take_le 10 _
    · rw [← not_iff_not, not_not, ← String.toList_inj, String.toList_ofList,
        List.take_eq_self_iff, String.length_toList, Nat.not_lt]
  whole := infix_masked_iff token
  hidden hlong h := by
    have hlength := ((infix_masked_iff token).mp h).length_le
    rw [List.length_drop, String.length_toList, List.length_replicate] at hlength
    omega

/-! ## What the calls of a session tell -/

namespace Session

variable {s : Session} {now : Instant} {l l₁ l₂ l' : Live} {e : Event}

/-- On the way from `l` to `l'` this is told. -/
inductive Told (s : Session) (l l' : Live) (e : Event) : Prop
  | other (h : e.Tokenless)
  /-- The credentials have been accepted in an exchange on the way. -/
  | entered {x : Request × Reply} {g : AuthGrant}
    (hx : ∃ before after, l'.exchanges = l.exchanges ++ (before ++ x :: after))
    (hrequest : s.authenticateRequest = .ok x.1) (hg : authOutcome x.1 x.2 = .ok g)
    (he : e = authReport g)
  /-- The refresh token is the one that is held at the start. -/
  | refreshing {token : String} (hheld : shownToken l = some token) (he : e = refreshStarted token)

/-- Everything that the log is told on the way from `l` to `l'`. -/
def Tells (s : Session) (l l' : Live) : Prop :=
  ∃ es, l'.events = l.events ++ es ∧ ∀ e ∈ es, s.Told l l' e

/-- What is told on a part of the way is told on the whole, if the tokens are still the same when
that part begins. -/
theorem Told.within {P Q : Request → Prop} (hl : l.Steady P l₁) (h : s.Told l₁ l₂ e)
    (hl' : l₂.Extends Q l') : s.Told l l' e := by
  cases h with
  | other h => exact .other h
  | entered hx hrequest hg he =>
    obtain ⟨before, after, hx⟩ := hx
    obtain ⟨first, hfirst, -⟩ := hl.toExtends.exchanges
    obtain ⟨last, hlast, -⟩ := hl'.exchanges
    refine .entered ⟨first ++ before, after ++ last, ?_⟩ hrequest hg he
    rw [hlast, hx, hfirst]
    simp
  | refreshing hheld he =>
    rw [shownToken, hl.tokens] at hheld
    exact .refreshing hheld he

namespace Tells

theorem of_quiet (h : l.Quiet l') : s.Tells l l' := by
  obtain ⟨es, hes, hquiet⟩ := h
  exact ⟨es, hes, fun e he => .other (hquiet e he)⟩

/-- A way of two parts. -/
theorem ofParts {es es' : List Event} (hes : l₁.events = l.events ++ es)
    (hes' : l'.events = l₁.events ++ es') (h : ∀ e ∈ es, s.Told l l' e)
    (h' : ∀ e ∈ es', s.Told l l' e) : s.Tells l l' := by
  refine ⟨es ++ es', by rw [hes', hes, List.append_assoc], fun e he => ?_⟩
  exact (List.mem_append.mp he).elim (h e) (h' e)

/-- One part of the way and then another; the first keeps the tokens. -/
theorem trans {P Q : Request → Prop} (h : s.Tells l l₁) (hl : l.Steady P l₁) (h' : s.Tells l₁ l')
    (hl' : l₁.Extends Q l') : s.Tells l l' := by
  obtain ⟨es, hes, htold⟩ := h
  obtain ⟨es', hes', htold'⟩ := h'
  refine .ofParts hes hes' (fun e he => ?_) fun e he => ?_
  · exact (htold e he).within (P := P) (.refl l) hl'
  · exact (htold' e he).within (Q := Q) hl (.refl l')

/-- What is told first has no field for a token, and the tokens are kept. -/
theorem afterQuiet {P : Request → Prop} (h : s.Tells l₁ l') (hquiet : l.Quiet l₁)
    (hl : l.Steady P l₁) : s.Tells l l' := by
  obtain ⟨es, hes, hothers⟩ := hquiet
  obtain ⟨es', hes', htold⟩ := h
  refine .ofParts hes hes' (fun e he => .other (hothers e he)) fun e he => ?_
  exact (htold e he).within (Q := fun _ => False) hl (.refl l')

/-- What is told last has no field for a token, so it does not matter which tokens there are by
then. -/
theorem andQuiet {Q : Request → Prop} (h : s.Tells l l₁) (h' : l₁.Quiet l')
    (hl' : l₁.Extends Q l') : s.Tells l l' := by
  obtain ⟨es, hes, htold⟩ := h
  obtain ⟨es', hes', hquiet⟩ := h'
  refine .ofParts hes hes' (fun e he => ?_) fun e he => .other (hquiet e he)
  exact (htold e he).within (P := fun _ => False) (.refl l) hl'

/-- The replies that are to come are no part of the way. -/
theorem ofAwaiting (replies : List Reply) (h : s.Tells (l.awaiting replies) l') :
    s.Tells l l' := by
  obtain ⟨es, hes, htold⟩ := h
  have hl : l.Steady (fun _ => False) (l.awaiting replies) :=
    ⟨⟨rfl, [], (List.append_nil _).symm, by simp⟩, rfl⟩
  exact ⟨es, hes, fun e he => (htold e he).within (Q := fun _ => False) hl (.refl l')⟩

end Tells

theorem tells_authenticate {result : Except (Stop Fault) Unit}
    (h : s.authenticate.exec now l = (result, l')) : s.Tells l l' := by
  have hstarted : ∀ r, l.Quiet ((l.add (.logged authStarted)).heard r) := by
    intro r
    refine (Live.Quiet.logged l ?_).trans (.heard _ r)
    simp [Event.tokenless_iff, authStarted, Event.info]
  cases authenticate_course h with
  | noCredentials => exact .of_quiet (.refl l)
  | unsent => exact .of_quiet (.logged l (by simp [Event.tokenless_iff, authStarted, Event.info]))
  | @refused r => exact .of_quiet (hstarted r)
  | @outside r g hc hr hg | @granted r g _ hc hr hg =>
    obtain ⟨es, hes, hquiet⟩ := hstarted r
    refine .ofParts hes (by simp : _ = _ ++ [authReport g]) (fun e he => .other (hquiet e he)) ?_
    intro e he
    rw [List.mem_singleton.mp he]
    exact .entered (x := (r, l.nextReply)) ⟨[], [], by simp⟩ (Client.reaching_eq_ok hr).1 hg rfl

theorem tells_refresh {result : Except (Stop Fault) Unit}
    (h : s.refresh.exec now l = (result, l')) : s.Tells l l' := by
  have hstarted : ∀ token, shownToken l = some token →
      s.Tells l (l.add (.logged (refreshStarted token))) := fun token hk =>
    ⟨[refreshStarted token], by simp, by simpa using .refreshing hk rfl⟩
  have hreport : ∀ g, (refreshReport g).Tokenless := by
    simp [Event.tokenless_iff, refreshReport, Event.info, tokenKeys]
  have hheard : ∀ (m : Live) r, m.Extends (fun _ => True) (m.heard r) := fun m r =>
    (Live.Steady.heard m r trivial).toExtends
  cases refresh_course h with
  | noToken => exact .of_quiet (.refl l)
  | unsent hk => exact hstarted _ hk
  | @refused token r _ hk hr => exact (hstarted _ hk).andQuiet (.heard _ r) (hheard _ r)
  | @outside token r _ hk hr =>
    exact (hstarted _ hk).andQuiet ((Live.Quiet.heard _ r).withTokens _)
      ((hheard _ r).withTokens _)
  | @granted token r g t hk hr =>
    exact (hstarted _ hk).andQuiet (((Live.Quiet.heard _ r).withTokens _).trans
      (.logged _ (hreport g))) (((hheard _ r).withTokens _).trans (.logged _ _))

theorem tells_ensureValid {result : Except (Stop Fault) String}
    (h : s.ensureValid.exec now l = (result, l')) : s.Tells l l' := by
  have hrenewing : l.Quiet (renewing now l) :=
    .logged l (by simp [Event.tokenless_iff, renewStarted, Event.debug, tokenKeys])
  have hsteady : l.Steady s.Own (renewing now l) := steady_renewing now l
  have hgivenUp : ∀ why, (refreshGivenUp why).Tokenless := by
    simp [Event.tokenless_iff, refreshGivenUp, Event.warn, tokenKeys]
  cases ensureValid_course h with
  | held => exact .of_quiet (.refl l)
  | refreshed hv hr | lost hv hr =>
    exact (tells_refresh hr).afterQuiet hrenewing hsteady
  | @authenticated why _ l₁ _ hv hr ha | @refused why _ l₁ _ hv hr ha =>
    -- a refresh that has failed has kept the tokens, so what follows is told from `l` on, too
    have hrefresh : s.Tells l (l₁.add (.logged (refreshGivenUp why))) := by
      have htells := (tells_refresh hr).afterQuiet hrenewing hsteady
      exact htells.andQuiet (.logged _ (hgivenUp why)) (Q := s.Own) (.logged _ _)
    exact hrefresh.trans (steady_givenUp hr) (tells_authenticate ha) (extends_of_authenticate ha)

theorem quiet_invalidate {ε : Type} (now : Instant) (l : Live) :
    l.Quiet ((invalidate : Act ε Unit).exec now l).2 := by
  rw [invalidate, Act.exec_bind_ok Act.exec_tokens]
  cases l.tokens with
  | none => exact .refl l
  | some t =>
    exact (Live.Quiet.withTokens (.refl l) none).trans
      (.logged _ (by simp [Event.tokenless_iff, Event.debug]))

/-! ## Fields for a token -/

/-- On the way from `l` to `l'` a field of this name was told, and it masks a token that the session
was granted on the way or held at the start. -/
inductive Shows (s : Session) (l l' : Live) : String → String → Prop
  | access {x : Request × Reply} {g : AuthGrant} {field : String}
    (hx : ∃ before after, l'.exchanges = l.exchanges ++ (before ++ x :: after))
    (hrequest : s.authenticateRequest = .ok x.1) (hg : authOutcome x.1 x.2 = .ok g)
    (hne : g.accessToken ≠ "") (hmasks : Masks g.accessToken field) :
    Shows s l l' "access_token" field
  | refresh {token field : String} (hheld : shownToken l = some token) (hne : token ≠ "")
    (hmasks : Masks token field) : Shows s l l' "refresh_token" field

theorem ne_empty_of_shownToken {token : String} (h : shownToken l = some token) : token ≠ "" := by
  obtain ⟨t, -, husable⟩ := Option.bind_eq_some_iff.mp h
  simpa using (Option.filter_eq_some_iff.mp husable).2

theorem Told.shows {name field : String} (h : s.Told l l' e) (hfield : (name, field) ∈ e.fields)
    (hname : name ∈ tokenKeys) : s.Shows l l' name field := by
  cases h with
  | other hother => exact absurd hname (hother _ hfield)
  | @entered x g hx hrequest hg he =>
    subst he
    simp only [authReport, Event.debug, List.mem_cons, Prod.mk.injEq, List.not_mem_nil,
      or_false] at hfield
    rcases hfield with ⟨rfl, rfl⟩ | ⟨rfl, -⟩ | ⟨rfl, -⟩
    · exact .access hx hrequest hg (authOutcome_eq_ok hg).2.1 (masks_masked _)
    · exact absurd hname (by decide)
    · exact absurd hname (by decide)
  | refreshing hheld he =>
    subst he
    simp only [refreshStarted, Event.debug, List.mem_singleton, Prod.mk.injEq] at hfield
    obtain ⟨rfl, rfl⟩ := hfield
    exact .refresh hheld (ne_empty_of_shownToken hheld) (masks_masked _)

end Session

/-! ## Turns -/

/-- The run makes the turns one after the other, and each starts where the last has ended. -/
structure Runs {σ ρ : Type} (turn : Turn σ → Live → ρ × Live)
    (run : List (Turn σ) → Live → List ρ × Live) : Prop where
  nil : ∀ l, (run [] l).2 = l
  cons : ∀ t ts l, (run (t :: ts) l).2 = (run ts (turn t l).2).2

namespace Runs

variable {σ ρ ρ' : Type} {turn : Turn σ → Live → ρ × Live} {turn' : Turn σ → Live → ρ' × Live}
  {run : List (Turn σ) → Live → List ρ × Live} {run' : List (Turn σ) → Live → List ρ' × Live}

/-- What is told in a run is told in one of its turns. -/
theorem shows {s : Session} (h : Runs turn run) (hturn : ∀ t l, s.Tells l (turn t l).2)
    (ts : List (Turn σ)) (l : Live) :
    ∃ es, (run ts l).2.events = l.events ++ es ∧ ∀ e ∈ es, ∀ name field,
      (name, field) ∈ e.fields → name ∈ tokenKeys → ∃ before t after, ts = before ++ t :: after ∧
        s.Shows (run before l).2 (turn t (run before l).2).2 name field := by
  induction ts generalizing l with
  | nil => exact ⟨[], by simp [h.nil], by simp⟩
  | cons t ts ih =>
    obtain ⟨es, hes, htold⟩ := hturn t l
    obtain ⟨es', hes', hrest⟩ := ih (turn t l).2
    refine ⟨es ++ es', ?_, fun e he name field hfield hname => ?_⟩
    · rw [h.cons, hes', hes, List.append_assoc]
    · rcases List.mem_append.mp he with he | he
      · refine ⟨[], t, ts, rfl, ?_⟩
        rw [h.nil]
        exact (htold e he).shows hfield hname
      · obtain ⟨before, t', after, rfl, hshows⟩ := hrest e he name field hfield hname
        refine ⟨t :: before, t', after, rfl, ?_⟩
        rw [h.cons]
        exact hshows

/-- Runs whose turns lead from one relation to the same relation do so as a whole. -/
theorem related {T : Live → Live → Prop} {K : Turn σ → Turn σ → Prop} (h : Runs turn run)
    (h' : Runs turn' run') (hturn : ∀ t t' l m, K t t' → T l m → T (turn t l).2 (turn' t' m).2)
    {ts ts' : List (Turn σ)} (hts : List.Forall₂ K ts ts') {l m : Live} (hlm : T l m) :
    T (run ts l).2 (run' ts' m).2 := by
  induction hts generalizing l m with
  | nil =>
    rw [h.nil, h'.nil]
    exact hlm
  | cons hk _ ih =>
    rw [h.cons, h'.cons]
    exact ih (hturn _ _ _ _ hk hlm)

end Runs

/-- Two turns at the same moment, with steps that stand in a relation and replies that are kin. -/
structure Turn.Kin {σ : Type} (K : σ → σ → Prop) (t t' : Turn σ) : Prop where
  step : K t.step t'.step
  now : t.now = t'.now
  replies : List.Forall₂ Reply.Kin t.replies t'.replies

namespace Session

variable {s : Session}

/-- The same step, or the host hands in tokens that cannot be told apart. -/
inductive Step.Kin : Step → Step → Prop
  | same (step : Step) : Kin step step
  | hold {t u : Tokens} (h : t.outline = u.outline) : Kin (.hold t) (.hold u)

theorem runs (s : Session) : Runs s.turn s.run := ⟨fun _ => rfl, fun _ _ _ => rfl⟩

/-- A call and what is made of its result leave the situation that the call leaves. -/
theorem exec_map {ε α β : Type} (act : Act ε α) (f : α → β) (now : Instant) (l : Live) :
    ((act >>= fun a => pure (f a)).exec now l).2 = (act.exec now l).2 := by
  rw [Act.exec_bind]
  rcases act.exec now l with ⟨_ | _, _⟩ <;> rfl

theorem tells_turn (t : Turn Step) (l : Live) : s.Tells l (s.turn t l).2 := by
  refine .ofAwaiting t.replies ?_
  unfold turn
  generalize l.awaiting t.replies = m
  cases t.step with
  | authenticate =>
    rw [perform, exec_map s.authenticate fun _ => none]
    exact tells_authenticate rfl
  | refresh =>
    rw [perform, exec_map s.refresh fun _ => none]
    exact tells_refresh rfl
  | ensureValid =>
    rw [perform, exec_map s.ensureValid some]
    exact tells_ensureValid rfl
  | invalidate =>
    rw [perform, exec_map invalidate fun _ => none]
    exact .of_quiet (quiet_invalidate t.now m)
  | hold tokens => exact .of_quiet (.withTokens (.refl m) (some tokens))

theorem twins_self (s : Session) : s.Twins s := ⟨rfl, rfl, rfl, rfl⟩

theorem perform_kin {step step' : Step} (h : step.Kin step') :
    Act.Related Live.Kin (fun _ _ => True) (s.perform step) (s.perform step') := by
  have hpure : ∀ a b : Option String,
      Act.Related Live.Kin (fun _ _ => True) (pure a : Act Fault _) (pure b) := fun a b =>
    .pure trivial
  have hs := s.twins_self
  cases h with
  | same step =>
    cases step with
    | authenticate => exact (hs.authenticate kin_likeness).andThen fun _ => hpure _ _
    | refresh => exact (hs.refresh kin_likeness).andThen fun _ => hpure _ _
    | ensureValid => exact (hs.ensureValid kin_likeness).bind fun _ _ _ => hpure _ _
    | invalidate => exact (invalidate_related kin_likeness).andThen fun _ => hpure _ _
    | hold t => exact (Act.Related.setTokens kin_likeness rfl).andThen fun _ => hpure _ _
  | @hold t u h =>
    have hsame : (some t).map Tokens.outline = (some u).map Tokens.outline := congrArg some h
    exact (Act.Related.setTokens kin_likeness hsame).andThen fun _ => hpure _ _

theorem turn_kin (t t' : Turn Step) (l m : Live) (h : t.Kin Step.Kin t') (hlm : l.Kin m) :
    (s.turn t l).2.Kin (s.turn t' m).2 := by
  unfold turn
  rw [← h.now]
  exact (perform_kin h.step t.now _ _ (hlm.awaiting h.replies)).2

end Session

end RemoteDrive
