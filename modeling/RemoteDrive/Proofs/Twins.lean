import RemoteDrive.Proofs.Exchange
import RemoteDrive.Session.Tokens

/-!
# What a secret leaves to be seen

Two situations are twins if they differ in secrets only: what is left when the secrets are taken out
of them is the same (`Live.Twins`). Not everything about a secret is secret. Whether an access token
can stand in a header is seen by whether a request is made, and the log shows how a refresh token
begins; so both belong to what is left (`Tokens.outline`). Of a request everything is left but the
values of two headers and of one field (`Request.outline`).

Two calls are related if from situations that stand in a relation `T` they lead to such situations
again, with results that agree (`Act.Related`); where `T` is that of twins, the calls are twins
(`Act.Twins`). Being related is closed under the pieces of which calls are put together, so that for
a pair of calls it is proved by going through both at once. Where a piece hands on a secret, the
relation `R` between the two values says what the rest may still rely on.
-/

set_option autoImplicit false

namespace RemoteDrive

/-! ## Taking secrets out -/

/-- The pair, but no more than its name if that is one of `names`. -/
def hideValue (names : List String) (p : String × String) : String × String :=
  if names.contains p.1 then (p.1, "") else p

/-- What is left of a request without its secrets. -/
def Request.outline (r : Request) : Request where
  method := r.method
  url := r.url
  headers := r.headers.map (hideValue ["authorization", "x-api-secret"])
  form := r.form.map fun form => form.map (hideValue ["refresh_token"])
  timeout := r.timeout

/-- What is left of an occurrence. Only requests hold secrets. -/
def Occurrence.outline : Occurrence → Occurrence
  | .sent r reply => .sent r.outline reply
  | .logged e => .logged e
  | .read what => .read what
  | .reported p => .reported p

/-- The characters of a secret that a log shows. -/
def shownStart (secret : String) : List Char := secret.toList.take shownCharacters

/-- What is left of tokens. -/
structure TokensOutline where
  /-- The access token can stand in a header. -/
  sendable : Bool
  refreshStart : Option (List Char)
  expiresAt : Instant

def Tokens.outline (t : Tokens) : TokensOutline where
  sendable := isHeaderValue t.accessToken
  refreshStart := t.refreshToken.map shownStart
  expiresAt := t.expiresAt

/-- Two pairs of tokens with the same outline are both there or both missing. -/
theorem Tokens.outline_cases {t u : Option Tokens} (h : t.map outline = u.map outline) :
    t = none ∧ u = none ∨ ∃ a b, t = some a ∧ u = some b ∧ a.outline = b.outline := by
  cases t with
  | none =>
    cases u with
    | none => exact .inl ⟨rfl, rfl⟩
    | some b => cases h
  | some a =>
    cases u with
    | none => cases h
    | some b => exact .inr ⟨a, b, rfl, rfl, Option.some.inj h⟩

/-- Two requests with the same outline are both built or both not, and then for the same reason. -/
theorem Request.outline_cases {x y : Except Fault Request} (h : x.map outline = y.map outline) :
    (∃ why, x = .error why ∧ y = .error why) ∨
      ∃ r r', x = .ok r ∧ y = .ok r' ∧ r.outline = r'.outline := by
  cases x with
  | error why =>
    cases y with
    | error why' => exact .inl ⟨why, rfl, congrArg Except.error (Except.error.inj h).symm⟩
    | ok r' => cases h
  | ok r =>
    cases y with
    | error why' => cases h
    | ok r' => exact .inr ⟨r, r', rfl, rfl, Except.ok.inj h⟩

theorem shownStart_eq_nil {secret : String} : shownStart secret = [] ↔ secret = "" := by
  simp [shownStart, shownCharacters]

/-- Secrets that begin alike are masked alike. -/
theorem masked_congr {secret secret' : String} (h : shownStart secret = shownStart secret') :
    masked secret = masked secret' := by
  unfold masked
  rw [show secret.toList.take shownCharacters = _ from h]
  rfl

namespace Request

variable {r r' : Request}

theorem url_of_outline (h : r.outline = r'.outline) : r.url = r'.url := by
  show r.outline.url = r'.outline.url
  rw [h]

theorem outline_withForm (h : r.outline = r'.outline) {form form' : List (String × String)}
    (hform : form.map (hideValue ["refresh_token"]) = form'.map (hideValue ["refresh_token"])) :
    (r.withForm form).outline = (r'.withForm form').outline := by
  simp only [outline, mk.injEq] at h
  simp [outline, withForm, h, hform]

theorem outline_withPair (h : r.outline = r'.outline) (name value : String) :
    (r.withPair name value).outline = (r'.withPair name value).outline := by
  simp only [outline, mk.injEq] at h
  simp [outline, withPair, h]

/-- Whether a header can be added depends on its value, so that much has to be left of it. -/
theorem outline_withHeader (h : r.outline = r'.outline) {name value value' : String}
    (hsendable : isHeaderValue value = isHeaderValue value')
    (hvalue : hideValue ["authorization", "x-api-secret"] (name, value) =
      hideValue ["authorization", "x-api-secret"] (name, value')) :
    (r.withHeader name value).map outline = (r'.withHeader name value').map outline := by
  simp only [outline, mk.injEq] at h
  unfold withHeader
  rw [hsendable]
  split
  · simp [Except.map, outline, h, hvalue]
  · rfl

end Request

/-! ## Twin situations -/

namespace Live

/-- The situation without the secrets in its history. -/
def outlined (l : Live) : Live := { l with history := l.history.map Occurrence.outline }

/-- The log holds no secrets, and neither do the reports. -/
theorem events_outlined (l : Live) : l.outlined.events = l.events := by
  rw [events, events, outlined, List.filterMap_map]
  congr 1
  funext o
  cases o <;> rfl

theorem reports_outlined (l : Live) : l.outlined.reports = l.reports := by
  rw [reports, reports, outlined, List.filterMap_map]
  congr 1
  funext o
  cases o <;> rfl

theorem requests_outlined (l : Live) : l.outlined.requests = l.requests.map Request.outline := by
  rw [requests, requests, outlined, List.filterMap_map, List.map_filterMap]
  congr 1
  funext o
  cases o <;> rfl

end Live

/-- The situations differ in secrets only. -/
structure Live.Twins (l m : Live) : Prop where
  tokens : l.tokens.map Tokens.outline = m.tokens.map Tokens.outline
  peer : l.peer = m.peer
  history : l.history.map Occurrence.outline = m.history.map Occurrence.outline

namespace Live.Twins

variable {l m : Live}

theorem nextReply (h : l.Twins m) : l.nextReply = m.nextReply := by
  unfold Live.nextReply
  rw [h.peer]

theorem withTokens (h : l.Twins m) {t u : Option Tokens}
    (ht : t.map Tokens.outline = u.map Tokens.outline) : (l.withTokens t).Twins (m.withTokens u) :=
  ⟨ht, h.peer, h.history⟩

theorem awaiting (h : l.Twins m) (replies : List Reply) :
    (l.awaiting replies).Twins (m.awaiting replies) :=
  ⟨h.tokens, by simp [Live.awaiting, h.peer], h.history⟩

theorem heard (h : l.Twins m) {r r' : Request} (hr : r.outline = r'.outline) :
    (l.heard r).Twins (m.heard r') := by
  refine ⟨h.tokens, ?_, ?_⟩
  · simp [Live.heard, h.peer]
  · simp [Live.heard, h.history, h.nextReply, Occurrence.outline, hr]

theorem start {t u : Option Tokens} (h : t.map Tokens.outline = u.map Tokens.outline)
    (accepts : Bool) : (Live.start t accepts).Twins (.start u accepts) :=
  ⟨h, rfl, rfl⟩

theorem events (h : l.Twins m) : l.events = m.events := by
  rw [← l.events_outlined, ← m.events_outlined, Live.events, Live.events, Live.outlined,
    Live.outlined, h.history]

theorem reports (h : l.Twins m) : l.reports = m.reports := by
  rw [← l.reports_outlined, ← m.reports_outlined, Live.reports, Live.reports, Live.outlined,
    Live.outlined, h.history]

theorem requests (h : l.Twins m) :
    l.requests.map Request.outline = m.requests.map Request.outline := by
  rw [← l.requests_outlined, ← m.requests_outlined, Live.requests, Live.requests, Live.outlined,
    Live.outlined, h.history]

end Live.Twins

/-! ## Two calls side by side -/

/-- Two results with the same end, and values that stand in a relation. -/
inductive Agree {ε α β : Type} (R : α → β → Prop) : Except (Stop ε) α → Except (Stop ε) β → Prop
  | ok {a : α} {b : β} (h : R a b) : Agree R (.ok a) (.ok b)
  | error (stop : Stop ε) : Agree R (.error stop) (.error stop)

theorem Agree.refl {ε α : Type} {R : α → α → Prop} (hR : ∀ a, R a a)
    (result : Except (Stop ε) α) : Agree R result result := by
  cases result with
  | ok a => exact .ok (hR a)
  | error stop => exact .error stop

theorem Agree.eq {ε α : Type} {result result' : Except (Stop ε) α} (h : Agree Eq result result') :
    result = result' := by
  cases h with
  | ok h => rw [h]
  | error stop => rfl

namespace Act

variable {ε ε' α β γ δ : Type} {T : Live → Live → Prop} {R : α → β → Prop} {S : γ → δ → Prop}

/-- In situations that stand in the relation `T` the two calls end in the same way, and in situations
that stand in it again. -/
def Related (T : Live → Live → Prop) (R : α → β → Prop) (act : Act ε α) (act' : Act ε β) : Prop :=
  ∀ now (l m : Live), T l m →
    Agree R (act.exec now l).1 (act'.exec now m).1 ∧ T (act.exec now l).2 (act'.exec now m).2

/-- In twin situations the two calls end in the same way, and in twin situations again. -/
def Twins (R : α → β → Prop) (act : Act ε α) (act' : Act ε β) : Prop :=
  ∀ now (l m : Live), l.Twins m →
    Agree R (act.exec now l).1 (act'.exec now m).1 ∧
      (act.exec now l).2.Twins (act'.exec now m).2

namespace Related

theorem pure {a : α} {b : β} (h : R a b) :
    Related T R (Pure.pure a : Act ε α) (Pure.pure b : Act ε β) :=
  fun _ _ _ hlm => ⟨.ok h, hlm⟩

theorem bind {act : Act ε α} {act' : Act ε β} {next : α → Act ε γ} {next' : β → Act ε δ}
    (h : Related T R act act') (hn : ∀ a b, R a b → Related T S (next a) (next' b)) :
    Related T S (act >>= next) (act' >>= next') := by
  intro now l m hlm
  obtain ⟨hresult, hlive⟩ := h now l m hlm
  rw [exec_bind, exec_bind]
  generalize act.exec now l = out at hresult hlive ⊢
  generalize act'.exec now m = out' at hresult hlive ⊢
  obtain ⟨result, l'⟩ := out
  obtain ⟨result', m'⟩ := out'
  cases hresult with
  | ok hab => exact hn _ _ hab now l' m' hlive
  | error stop => exact ⟨.error stop, hlive⟩

/-- The same value goes on in both. -/
theorem andThen {act act' : Act ε α} {next : α → Act ε γ} {next' : α → Act ε δ}
    (h : Related T Eq act act') (hn : ∀ a, Related T S (next a) (next' a)) :
    Related T S (act >>= next) (act' >>= next') :=
  h.bind fun a _ hab => hab ▸ hn a

theorem fail (why : ε) : Related T R (Act.fail why : Act ε α) (Act.fail why : Act ε β) :=
  fun _ _ _ hlm => ⟨.error _, hlm⟩

theorem now : Related T Eq (Act.now : Act ε Instant) Act.now := fun _ _ _ hlm => ⟨.ok rfl, hlm⟩

theorem ofExcept {result : Except ε α} {result' : Except ε β}
    (h : Agree R (result.mapError Stop.failed) (result'.mapError Stop.failed)) :
    Related T R (Act.ofExcept result) (Act.ofExcept result') := by
  intro now l m hlm
  rw [exec_ofExcept, exec_ofExcept]
  exact ⟨h, hlm⟩

theorem secondsFromNow (n : Int) :
    Related T Eq (Act.secondsFromNow n : Act ε Instant) (Act.secondsFromNow n) := by
  intro now l m hlm
  rw [exec_secondsFromNow, exec_secondsFromNow]
  exact ⟨.refl (fun _ => rfl) _, hlm⟩

theorem mapFailure {act : Act ε α} {act' : Act ε β} (f : ε → ε') (h : Related T R act act') :
    Related T R (act.mapFailure f) (act'.mapFailure f) := by
  intro now l m hlm
  obtain ⟨hresult, hlive⟩ := h now l m hlm
  rw [exec_mapFailure, exec_mapFailure]
  generalize act.exec now l = out at hresult hlive ⊢
  generalize act'.exec now m = out' at hresult hlive ⊢
  obtain ⟨result, l'⟩ := out
  obtain ⟨result', m'⟩ := out'
  cases hresult with
  | ok hab => exact ⟨.ok hab, hlive⟩
  | error stop => cases stop <;> exact ⟨.error _, hlive⟩

theorem recover {act : Act ε α} {act' : Act ε β} {next : ε → Act ε' α} {next' : ε → Act ε' β}
    (h : Related T R act act') (hn : ∀ why, Related T R (next why) (next' why)) :
    Related T R (act.recover next) (act'.recover next') := by
  intro now l m hlm
  obtain ⟨hresult, hlive⟩ := h now l m hlm
  rw [exec_recover, exec_recover]
  generalize act.exec now l = out at hresult hlive ⊢
  generalize act'.exec now m = out' at hresult hlive ⊢
  obtain ⟨result, l'⟩ := out
  obtain ⟨result', m'⟩ := out'
  cases hresult with
  | ok hab => exact ⟨.ok hab, hlive⟩
  | error stop =>
    cases stop with
    | failed why => exact hn why now l' m' hlive
    | outsideCalendar => exact ⟨.error _, hlive⟩

end Related

end Act

/-! ## Where a request goes -/

namespace Client

variable {request request' : Except Fault Request}

/-- Where a request goes is no secret, so neither is whether it gets there. -/
theorem reaching_outline (accepts : Bool)
    (h : request.map Request.outline = request'.map Request.outline) :
    (reaching accepts request).map Request.outline =
      (reaching accepts request').map Request.outline := by
  obtain ⟨why, rfl, rfl⟩ | ⟨r, r', rfl, rfl, hr⟩ := Request.outline_cases h
  · rfl
  · simp only [reaching, Request.url_of_outline hr]
    split
    · split
      · exact h
      · rfl
    · rfl

/-- What a reply is to the caller depends on where the request went, and on nothing else of it. -/
theorem outcome_outline (family : EndpointFamily) {r r' : Request} (h : r.outline = r'.outline)
    (reply : Reply) : outcome family r reply = outcome family r' reply := by
  cases reply <;> simp [outcome, Request.url_of_outline h]

end Client

end RemoteDrive
