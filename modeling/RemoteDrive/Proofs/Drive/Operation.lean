import RemoteDrive.Proofs.Drive.Endpoint
import RemoteDrive.Proofs.Session.Grant

/-!
# The course of an operation

Every operation on objects goes to the session once, for its token. What comes before keeps the
tokens and sends nothing, and what comes after keeps the tokens and sends nothing without this
token. `OperationCourse` says so of one execution, and `Guarded` of an operation.

An operation is a preparation and a job, so that is what has to be looked at: a preparation only
takes notes (`prepare_notes`), and a job asks for its token before anything else
(`Guarded.carryOut`).
-/

set_option autoImplicit false

namespace RemoteDrive

/-- The request shows this access token. -/
def Request.Bears (token : String) (r : Request) : Prop :=
  ("authorization", "Bearer " ++ token) ∈ r.headers

/-- No request at all. -/
def Request.None (_ : Request) : Prop := False

namespace Drive

open Act (Steady)

variable {ε α β : Type} {d : Drive} {s : Session} {now : Instant} {l l' : Live}

/-- Every way in which an operation can go, as far as its token is concerned. `l₁` is the situation
in which it asks for the token, `l₂` the one in which it has got it. -/
inductive OperationCourse (s : Session) (now : Instant) (l : Live) :
    Except (Stop Failure) α → Live → Prop
  | stopped {stop : Stop Failure} {l' : Live} (hl : l.Steady Request.None l') :
    OperationCourse s now l (.error stop) l'
  | refused {why : Fault} {failure : Failure} {l₁ l' : Live} (hl : l.Steady Request.None l₁)
    (he : s.ensureValid.exec now l₁ = (.error (.failed why), l')) :
    OperationCourse s now l (.error (.failed failure)) l'
  | lost {l₁ l' : Live} (hl : l.Steady Request.None l₁)
    (he : s.ensureValid.exec now l₁ = (.error .outsideCalendar, l')) :
    OperationCourse s now l (.error .outsideCalendar) l'
  | served {token : String} {result : Except (Stop Failure) α} {l₁ l₂ l' : Live}
    (hl : l.Steady Request.None l₁) (he : s.ensureValid.exec now l₁ = (.ok token, l₂))
    (hl' : l₂.Steady (Request.Bears token) l') :
    OperationCourse s now l result l'

namespace OperationCourse

variable {l₁ : Live}

theorem before {result : Except (Stop Failure) α} (hl : l.Steady Request.None l₁)
    (h : OperationCourse s now l₁ result l') : OperationCourse s now l result l' := by
  cases h with
  | stopped hl₁ => exact .stopped (hl.trans hl₁)
  | refused hl₁ he => exact .refused (hl.trans hl₁) he
  | lost hl₁ he => exact .lost (hl.trans hl₁) he
  | served hl₁ he hl' => exact .served (hl.trans hl₁) he hl'

end OperationCourse

/-- The operation goes to the session for a token, and for nothing else, before it sends
anything. -/
def Guarded (s : Session) (act : Act Failure α) : Prop :=
  ∀ now l result l', act.exec now l = (result, l') → OperationCourse s now l result l'

/-- The request is built with its token. -/
theorem bears_of_objectRequest {c : Client} {token : String} {e : Endpoint} {r : Request}
    (h : c.ObjectRequest token e r) : r.Bears token := by
  have hbuilt : ∀ {built : Except Fault Request} {f : Request → Request},
      (∀ r, (f r).headers = r.headers) →
      (do let r ← built; let r ← r.withBearer token; return f r) = .ok r → r.Bears token := by
    intro built f hf h
    obtain ⟨r₁, -, h⟩ := bind_eq_ok h
    obtain ⟨r₂, hr₂, h⟩ := bind_eq_ok h
    cases h
    rw [Request.Bears, hf, (Request.withHeader_eq_ok hr₂).2]
    simp
  cases h with
  | query name value _ h => exact hbuilt (f := (·.withPair name value)) (fun _ => rfl) h
  | form form _ _ h => exact hbuilt (f := (·.withForm form)) (fun _ => rfl) h

theorem bearer_ne_loginHeader (token user : String) (password : Option String) :
    "Bearer " ++ token ≠ Request.loginHeader user password := by
  intro h
  have hsecond := congrArg (·.toList[1]?) h
  simp [Request.loginHeader] at hsecond

/-- A request that shows an access token is not one of the session: what a URL's user puts into the
same header starts with another word. -/
theorem not_own_of_bears {token : String} {r : Request} (h : r.Bears token) : ¬ s.Own r := by
  have hmake : ∀ {method : Method} {url agent : String} {timeout : UInt64} {r : Request},
      Request.make method url agent timeout = .ok r → ¬ r.Bears token := by
    intro method url agent timeout r hr hbears
    unfold Request.make at hr
    split at hr
    · cases hr
    split at hr
    · split at hr
      all_goals
        cases hr
        simp [Request.Bears, bearer_ne_loginHeader] at hbears
    · cases hr
  rintro (hr | ⟨shown, hr⟩)
  · obtain ⟨r₁, hr₁, hr⟩ := bind_eq_ok hr
    obtain ⟨r₂, hr₂, hr⟩ := bind_eq_ok hr
    refine hmake hr₁ ?_
    rw [Request.Bears, (Request.withHeader_eq_ok hr).2, (Request.withHeader_eq_ok hr₂).2] at h
    simpa [Request.Bears] using h
  · obtain ⟨r₁, hr₁, hr⟩ := bind_eq_ok hr
    cases hr
    exact hmake hr₁ h

namespace Guarded

/-- The token comes first, and the rest is done with it. -/
theorem carryOut (job : Job) : Guarded d.session (d.carryOut job) := by
  intro now l result l' hexec
  rw [exec_carryOut] at hexec
  rcases he : d.session.ensureValid.exec now l with ⟨(why | _) | token, l₂⟩
  · rw [he] at hexec
    cases hexec
    exact .refused (.refl l) he
  · rw [he] at hexec
    cases hexec
    exact .lost (.refl l) he
  · have hl' := d.work_steady token job now l₂
    rw [he] at hexec
    rw [show (d.work token job).exec now l₂ = (result, l') from hexec] at hl'
    exact .served (.refl l) he (hl'.mono fun r ⟨_, hr⟩ => bears_of_objectRequest hr)

/-- A part before that sends nothing. -/
theorem after {first : Act Failure α} {next : α → Act Failure β}
    (h : first.Steady Request.None) (hn : ∀ a, Guarded s (next a)) :
    Guarded s (first >>= next) := by
  intro now l result l' hexec
  have hl := h now l
  rcases hfirst : first.exec now l with ⟨stop | a, l₁⟩
  · rw [Act.exec_bind_error hfirst] at hexec
    rw [hfirst] at hl
    cases hexec
    exact .stopped hl
  · rw [Act.exec_bind_ok hfirst] at hexec
    rw [hfirst] at hl
    exact (hn a _ _ _ _ hexec).before hl

/-- An operation that fails at once. -/
theorem unsupported {next : α → Act Failure β} (operation : Unsupported) :
    Guarded s (Drive.unsupported operation >>= next) := by
  intro now l result l' hexec
  rw [Drive.unsupported, Act.exec_bind_error (Act.exec_fail _)] at hexec
  cases hexec
  exact .stopped (.refl l)

end Guarded

/-! ## The operations -/

/-- **Every step that is not about the session itself is guarded by its token.** -/
theorem perform_guarded {step : Step} (hinit : step ≠ .init) (hshutdown : step ≠ .shutdown) :
    Guarded d.session (d.perform step) := by
  cases hfirst : prepare? step with
  | some first =>
    rw [perform_eq hfirst]
    exact .after (prepare_notes hfirst).steady fun job => .carryOut job
  | none =>
    cases step with
    | init => exact absurd rfl hinit
    | shutdown => exact absurd rfl hshutdown
    | archiveMeta | listArchive | extract | decompress | details => exact .unsupported _
    | list | link | makeDir | move | rename | remove | put => cases hfirst

end Drive
end RemoteDrive
