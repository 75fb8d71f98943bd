import RemoteDrive.Proofs.History

/-!
# Calls, piece by piece

A call of this library is put together from a handful of pieces. This file says of each piece what
it gives and what it leaves behind, as equations about `Act.exec`, so that no later proof looks
into the monad under `Act`: a call is followed by rewriting with `exec_bind` and the lemma of its
next piece.

Three properties of whole calls are closed under the same pieces and are stated here once:

* `Act.Leads T`: however the call ends, the situation after it stands in the relation `T` to the one
  before. One such relation is that of `Act.Steady P`: the call keeps the tokens and sends no request
  but those of `P`.
* `Act.Takes K`: the call looks at the clock and at nothing else, and all it does is that it adds
  occurrences of `K` to the history. It takes notes (`Act.Notes`) if these are no requests.
* `Act.Blind`: the call does not look at the history. So it does the same whatever has happened
  before, and what it adds stands behind it (`Blind.alike`).
-/

set_option autoImplicit false

namespace RemoteDrive

@[simp] theorem mapError_ok {ε ε' α : Type} (f : ε → ε') (a : α) :
    (Except.ok a : Except ε α).mapError f = .ok a := rfl

@[simp] theorem mapError_error {ε ε' α : Type} (f : ε → ε') (why : ε) :
    (Except.error why : Except ε α).mapError f = .error (f why) := rfl

theorem mapError_eq_ok_iff {ε ε' α : Type} {f : ε → ε'} {x : Except ε α} {a : α} :
    x.mapError f = .ok a ↔ x = .ok a := by
  cases x <;> simp

namespace Act

variable {ε ε' α β : Type}

/-! ## The pieces -/

section Pieces

variable {now : Instant} {l l' : Live}

@[simp] theorem exec_pure (a : α) : (pure a : Act ε α).exec now l = (.ok a, l) := rfl

theorem exec_bind (act : Act ε α) (next : α → Act ε β) :
    (act >>= next).exec now l =
      match act.exec now l with
      | (.ok a, l') => (next a).exec now l'
      | (.error why, l') => (.error why, l') := by
  unfold exec
  simp only [bind, ReaderT.bind, ExceptT.bind, ExceptT.mk, StateT.bind]
  rcases act now l with ⟨_ | _, _⟩ <;> rfl

theorem exec_bind_ok {act : Act ε α} {next : α → Act ε β} {a : α}
    (h : act.exec now l = (.ok a, l')) : (act >>= next).exec now l = (next a).exec now l' := by
  rw [exec_bind, h]

theorem exec_bind_error {act : Act ε α} {next : α → Act ε β} {why : Stop ε}
    (h : act.exec now l = (.error why, l')) : (act >>= next).exec now l = (.error why, l') := by
  rw [exec_bind, h]

@[simp] theorem exec_fail (why : ε) :
    (fail why : Act ε α).exec now l = (.error (.failed why), l) := rfl

@[simp] theorem exec_now : (Act.now : Act ε Instant).exec now l = (.ok now, l) := rfl

@[simp] theorem exec_record (o : Occurrence) :
    (record o : Act ε Unit).exec now l = (.ok (), l.add o) := rfl

@[simp] theorem exec_log (e : Event) :
    (log e : Act ε Unit).exec now l = (.ok (), l.add (.logged e)) := rfl

@[simp] theorem exec_tokens : (tokens : Act ε (Option Tokens)).exec now l = (.ok l.tokens, l) := rfl

@[simp] theorem exec_setTokens (t : Option Tokens) :
    (setTokens t : Act ε Unit).exec now l = (.ok (), l.withTokens t) := rfl

@[simp] theorem exec_ask (r : Request) :
    (ask r : Act ε (Option Reply)).exec now l = (.ok (l.ask r).1, (l.ask r).2) := rfl

@[simp] theorem exec_ofExcept (r : Except ε α) :
    (ofExcept r).exec now l = (r.mapError .failed, l) := by
  cases r <;> rfl

/-- A moment outside the calendar stops the call for good. -/
theorem exec_secondsFromNow (n : Int) :
    (secondsFromNow n : Act ε Instant).exec now l =
      ((now.addSeconds? n).elim (.error .outsideCalendar) .ok, l) := by
  simp only [secondsFromNow, exec_bind, exec_now]
  cases now.addSeconds? n <;> rfl

theorem exec_mapFailure (f : ε → ε') (act : Act ε α) :
    (act.mapFailure f).exec now l =
      match act.exec now l with
      | (.ok a, l') => (.ok a, l')
      | (.error (.failed why), l') => (.error (.failed (f why)), l')
      | (.error .outsideCalendar, l') => (.error .outsideCalendar, l') := rfl

theorem exec_recover (act : Act ε α) (next : ε → Act ε' α) :
    (act.recover next).exec now l =
      match act.exec now l with
      | (.ok a, l') => (.ok a, l')
      | (.error (.failed why), l') => (next why).exec now l'
      | (.error .outsideCalendar, l') => (.error .outsideCalendar, l') := rfl

end Pieces

/-! ## Failures seen from further out -/

theorem mapFailure_bind (f : ε → ε') (act : Act ε α) (next : α → Act ε β) :
    (act >>= next).mapFailure f = act.mapFailure f >>= fun a => (next a).mapFailure f := by
  funext now l
  show ((act >>= next).mapFailure f).exec now l = (act.mapFailure f >>= _).exec now l
  rw [exec_mapFailure, exec_bind, exec_bind, exec_mapFailure]
  rcases act.exec now l with ⟨(_ | _) | a, l'⟩ <;> rfl

theorem mapFailure_map (f : ε → ε') (g : α → β) (act : Act ε α) :
    (g <$> act).mapFailure f = g <$> act.mapFailure f := by
  rw [map_eq_pure_bind, map_eq_pure_bind, mapFailure_bind]
  rfl

@[simp] theorem mapFailure_pure (f : ε → ε') (a : α) :
    (pure a : Act ε α).mapFailure f = pure a := rfl

@[simp] theorem mapFailure_log (f : ε → ε') (e : Event) :
    (log e : Act ε Unit).mapFailure f = log e := rfl

@[simp] theorem mapFailure_now (f : ε → ε') : (now : Act ε Instant).mapFailure f = now := rfl

theorem mapFailure_id (act : Act ε α) : act.mapFailure id = act := by
  funext now l
  show (act.mapFailure id).exec now l = act.exec now l
  rw [exec_mapFailure]
  rcases act.exec now l with ⟨(_ | _) | _, _⟩ <;> rfl

theorem mapFailure_comp {ε'' : Type} (g : ε' → ε'') (f : ε → ε') (act : Act ε α) :
    (act.mapFailure f).mapFailure g = act.mapFailure (g ∘ f) := by
  funext now l
  show ((act.mapFailure f).mapFailure g).exec now l = (act.mapFailure (g ∘ f)).exec now l
  rw [exec_mapFailure, exec_mapFailure, exec_mapFailure]
  rcases act.exec now l with ⟨(_ | _) | _, _⟩ <;> rfl

/-! ## From the start of a call to its end -/

/-- Wherever the call is made, the situation after it stands in the relation `T` to the one
before. -/
def Leads (T : Live → Live → Prop) (act : Act ε α) : Prop :=
  ∀ now (l : Live), T l (act.exec now l).2

namespace Leads

variable {T : Live → Live → Prop}

theorem bind (htrans : ∀ {l l' l'' : Live}, T l l' → T l' l'' → T l l'') {act : Act ε α}
    {next : α → Act ε β} (h : act.Leads T) (hn : ∀ a, (next a).Leads T) :
    (act >>= next).Leads T := by
  intro now l
  have hl := h now l
  rw [exec_bind]
  generalize act.exec now l = out at hl ⊢
  obtain ⟨_ | a, l'⟩ := out
  · exact hl
  · exact htrans hl (hn a now l')

theorem ofExcept (hrefl : ∀ l : Live, T l l) (r : Except ε α) : Leads T (Act.ofExcept r) := by
  intro now l
  rw [exec_ofExcept]
  exact hrefl l

theorem mapFailure {act : Act ε α} (f : ε → ε') (h : act.Leads T) :
    (act.mapFailure f).Leads T := by
  intro now l
  have hl := h now l
  rw [exec_mapFailure]
  generalize act.exec now l = out at hl ⊢
  rcases out with ⟨(_ | _) | _, _⟩ <;> exact hl

end Leads

/-! ## Calls that keep the tokens -/

/-- The call keeps the tokens and sends no request but those of `P`. -/
def Steady (P : Request → Prop) (act : Act ε α) : Prop :=
  ∀ now (l : Live), l.Steady P (act.exec now l).2

/-! ## Calls that only take notes -/

/-- The call looks at the clock only, and what it adds to the history is of `K`. -/
def Takes (K : Occurrence → Prop) (act : Act ε α) : Prop :=
  ∀ now, ∃ result os, (∀ o ∈ os, K o) ∧
    ∀ l : Live, act.exec now l = (result, { l with history := l.history ++ os })

/-- The call looks at the clock only, and it adds to the history what is no request. -/
def Notes (act : Act ε α) : Prop :=
  ∀ now, ∃ result os, (∀ r reply, .sent r reply ∉ os) ∧
    ∀ l : Live, act.exec now l = (result, { l with history := l.history ++ os })

namespace Takes

variable {K : Occurrence → Prop}

theorem pure (a : α) : Takes K (Pure.pure a : Act ε α) :=
  fun _ => ⟨.ok a, [], by simp, by simp⟩

theorem fail (why : ε) : Takes K (Act.fail why : Act ε α) :=
  fun _ => ⟨.error (.failed why), [], by simp, by simp⟩

theorem record {o : Occurrence} (h : K o) : Takes K (Act.record o : Act ε Unit) :=
  fun _ => ⟨.ok (), [o], by simpa using h, fun _ => rfl⟩

theorem bind {act : Act ε α} {next : α → Act ε β} (h : act.Takes K)
    (hn : ∀ a, (next a).Takes K) : (act >>= next).Takes K := by
  intro now
  obtain ⟨result, os, hos, hexec⟩ := h now
  cases result with
  | error stop => exact ⟨.error stop, os, hos, fun l => exec_bind_error (hexec l)⟩
  | ok a =>
    obtain ⟨result', os', hos', hexec'⟩ := hn a now
    refine ⟨result', os ++ os', fun o ho => ?_, fun l => ?_⟩
    · exact (List.mem_append.mp ho).elim (hos o) (hos' o)
    · rw [exec_bind_ok (hexec l), hexec', List.append_assoc]

theorem logAll {es : List Event} (h : ∀ e ∈ es, K (.logged e)) :
    Takes K (Act.logAll es : Act ε Unit) := by
  induction es with
  | nil => exact .pure ()
  | cons e es ih =>
    refine (Takes.record (h e (by simp))).bind fun _ => ?_
    exact ih fun e' he' => h e' (by simp [he'])

theorem mapFailure {act : Act ε α} (f : ε → ε') (h : act.Takes K) :
    (act.mapFailure f).Takes K := by
  intro now
  obtain ⟨result, os, hos, hexec⟩ := h now
  rcases result with (why | _) | a
  · exact ⟨.error (.failed (f why)), os, hos, fun l => by rw [exec_mapFailure, hexec]⟩
  · exact ⟨.error .outsideCalendar, os, hos, fun l => by rw [exec_mapFailure, hexec]⟩
  · exact ⟨.ok a, os, hos, fun l => by rw [exec_mapFailure, hexec]⟩

theorem notes {act : Act ε α} (h : act.Takes K) (hK : ∀ r reply, ¬ K (.sent r reply)) :
    act.Notes := by
  intro now
  obtain ⟨result, os, hos, hexec⟩ := h now
  exact ⟨result, os, fun r reply hr => hK r reply (hos _ hr), hexec⟩

theorem quiet {act : Act ε α} (h : act.Takes Occurrence.Remark) : act.Leads Live.Quiet := by
  intro now l
  obtain ⟨result, os, hos, hexec⟩ := h now
  rw [hexec]
  exact .remarks l hos

end Takes

namespace Notes

theorem log (e : Event) : Notes (Act.log e : Act ε Unit) :=
  Takes.notes (K := fun o => ∀ r reply, o ≠ .sent r reply) (.record (by simp)) (by simp)

theorem logAll (es : List Event) : Notes (Act.logAll es : Act ε Unit) :=
  Takes.notes (K := fun o => ∀ r reply, o ≠ .sent r reply) (.logAll (by simp)) (by simp)

/-- Who only takes notes keeps the tokens and sends nothing. -/
theorem steady {P : Request → Prop} {act : Act ε α} (h : act.Notes) : act.Steady P := by
  intro now l
  obtain ⟨result, os, hos, hexec⟩ := h now
  rw [hexec]
  exact ⟨⟨rfl, os, rfl, fun r reply hr => absurd hr (hos r reply)⟩, rfl⟩

end Notes

/-! ## Calls that do not look at the history -/

/-- The call does the same whatever has happened before, and adds to it. -/
def Blind (act : Act ε α) : Prop :=
  ∀ past now (l : Live), act.exec now (l.behind past) =
    ((act.exec now l).1, (act.exec now l).2.behind past)

namespace Blind

theorem bind {act : Act ε α} {next : α → Act ε β} (h : act.Blind) (hn : ∀ a, (next a).Blind) :
    (act >>= next).Blind := by
  intro past now l
  rw [exec_bind, exec_bind, h past now l]
  rcases act.exec now l with ⟨_ | a, l'⟩
  · rfl
  · exact hn a past now l'

theorem pure (a : α) : Blind (Pure.pure a : Act ε α) := fun _ _ _ => rfl

theorem fail (why : ε) : Blind (Act.fail why : Act ε α) := fun _ _ _ => rfl

theorem now : Blind (Act.now : Act ε Instant) := fun _ _ _ => rfl

theorem tokens : Blind (Act.tokens : Act ε (Option Tokens)) := fun _ _ _ => rfl

theorem setTokens (t : Option Tokens) : Blind (Act.setTokens t : Act ε Unit) := fun _ _ _ => rfl

theorem secondsFromNow (n : Int) : Blind (Act.secondsFromNow n : Act ε Instant) := by
  intro past now l
  rw [exec_secondsFromNow, exec_secondsFromNow]

theorem ofExcept (r : Except ε α) : Blind (Act.ofExcept r) := by
  intro past now l
  rw [exec_ofExcept, exec_ofExcept]

theorem record (o : Occurrence) : Blind (Act.record o : Act ε Unit) := by
  intro past now l
  simp [Live.behind, Live.add]

theorem log (e : Event) : Blind (Act.log e : Act ε Unit) := record _

theorem mapFailure {act : Act ε α} (f : ε → ε') (h : act.Blind) : (act.mapFailure f).Blind := by
  intro past now l
  rw [exec_mapFailure, exec_mapFailure, h past now l]
  rcases act.exec now l with ⟨(_ | _) | _, _⟩ <;> rfl

theorem recover {act : Act ε α} {next : ε → Act ε' α} (h : act.Blind)
    (hn : ∀ why, (next why).Blind) : (act.recover next).Blind := by
  intro past now l
  rw [exec_recover, exec_recover, h past now l]
  rcases act.exec now l with ⟨(why | _) | _, l'⟩
  · exact hn why past now l'
  · rfl
  · rfl

/-- **A call cannot tell situations apart that are alike**: it ends in the same way, and what it
leaves behind is alike again. -/
theorem alike {act : Act ε α} (h : act.Blind) {now : Instant} {l l' m : Live}
    {result : Except (Stop ε) α} (hlm : l.Alike m) (hexec : act.exec now l = (result, l')) :
    ∃ m', act.exec now m = (result, m') ∧ l'.Alike m' := by
  -- without their pasts the two are the same situation
  have hl := h l.history now l.fresh
  have hm := h m.history now m.fresh
  rw [Live.fresh_behind, hexec] at hl
  rw [Live.fresh_behind, ← hlm.fresh] at hm
  obtain ⟨rfl, rfl⟩ := Prod.mk.inj hl
  refine ⟨_, hm, rfl, rfl, ?_⟩
  rw [Live.exchanges_behind, Live.exchanges_behind, hlm.exchanges]

end Blind

end Act
end RemoteDrive
