import RemoteDrive.Proofs.Drive.Course

/-!
# Names on their way to the service

The service takes the name of an object from a form, and it has to be the name that the host has
given. It is checked before anything else, and sent by up to two requests that are built in
different places: for an upload the second form repeats what the first has said.

So there are two things to know. A name that may not be given stops its operation where it stands
(`exec_misnamed`). And whatever is sent in a run, its fields for a name are none, or the one field
of its endpoint with the name of its step (`names_of_run`).
-/

set_option autoImplicit false

namespace RemoteDrive

/-! ## Names that may be given -/

/-- There is something to be seen in the name, and no slash of either kind. -/
structure Name.Usable (name : String) : Prop where
  seen : ∃ c ∈ name.toList, Text.isBlank c = false
  slash : '/' ∉ name.toList
  backslash : '\\' ∉ name.toList

theorem Name.any_isSeparator_iff {s : List Char} :
    s.any isSeparator = true ↔ '/' ∈ s ∨ '\\' ∈ s := by
  rw [List.any_eq_true]
  constructor
  · rintro ⟨c, hc, hsep⟩
    simp only [isSeparator, Bool.or_eq_true, decide_eq_true_eq] at hsep
    rcases hsep with rfl | rfl
    · exact .inl hc
    · exact .inr hc
  · rintro (h | h)
    · exact ⟨'/', h, rfl⟩
    · exact ⟨'\\', h, rfl⟩

theorem Name.fault?_eq_none_iff {name : String} : fault? name = none ↔ Usable name := by
  have hblank : Text.blank name = true ↔ ¬ ∃ c ∈ name.toList, Text.isBlank c = false := by
    simp [Text.blank]
  unfold fault?
  split
  · rename_i h
    simp only [reduceCtorEq, false_iff]
    intro husable
    exact hblank.mp h husable.seen
  · rename_i h
    have hseen := Decidable.not_not.mp (mt hblank.mpr h)
    split
    · rename_i hsep
      simp only [reduceCtorEq, false_iff]
      intro husable
      rcases any_isSeparator_iff.mp hsep with hslash | hslash
      · exact husable.slash hslash
      · exact husable.backslash hslash
    · rename_i hsep
      have hnone := mt any_isSeparator_iff.mpr hsep
      rw [not_or] at hnone
      simp only [true_iff]
      exact ⟨hseen, hnone.1, hnone.2⟩

/-! ## The fields of a form -/

/-- The fields in which an object is named. -/
def nameFields : List String := ["name", "new_name", "filename"]

def Request.givenNames (r : Request) : List (String × String) :=
  (r.form.getD []).filter (·.1 ∈ nameFields)

theorem Request.givenNames_of_form {r : Request} {form : List (String × String)}
    (h : r.form = some form) : r.givenNames = form.filter (·.1 ∈ nameFields) := by
  rw [givenNames, h]
  rfl

/-- The field in which an endpoint expects a name. -/
def Endpoint.nameField? : Endpoint → Option String
  | .makeDir => some "name"
  | .rename => some "new_name"
  | .announce | .confirm => some "filename"
  | .authenticate | .refresh | .list | .link | .move | .remove => none

namespace Client

variable {c : Client} {token : String} {e : Endpoint} {r : Request}

theorem form_of_question {name value : String} (h : c.question token e name value = .ok r) :
    r.form = none := by
  obtain ⟨r₁, hr₁, h⟩ := bind_eq_ok h
  obtain ⟨r₂, hr₂, h⟩ := bind_eq_ok h
  cases h
  calc (r₂.withPair name value).form
    _ = r₂.form := rfl
    _ = r₁.form := by rw [(Request.withHeader_eq_ok hr₂).2]
    _ = none := Request.form_of_make (r := r₁) hr₁

theorem form_of_filled {form : List (String × String)} (h : c.filled token e form = .ok r) :
    r.form = some form := by
  obtain ⟨r₁, -, h⟩ := bind_eq_ok h
  obtain ⟨r₂, -, h⟩ := bind_eq_ok h
  cases h
  rfl

end Client

theorem Session.givenNames_of_own {s : Session} {r : Request} (h : s.Own r) :
    r.givenNames = [] := by
  rcases h with h | ⟨token, h⟩
  · rw [Request.givenNames, form_authenticateRequest h]
    rfl
  · rw [Request.givenNames_of_form (form_refreshRequest h)]
    rfl

namespace Drive

variable {d : Drive} {step : Step} {now : Instant} {l l' : Live} {r : Request}

/-- What a request that is sent in a step says of a name: nothing, or the name of the step in the
field of its endpoint. -/
inductive Names (d : Drive) (step : Step) (r : Request) : Prop
  | own (hr : d.session.Own r) (h : r.givenNames = [])
  | unnamed {token : String} {e : Endpoint} (hr : d.client.ObjectRequest token e r)
    (he : e.nameField? = none) (h : r.givenNames = [])
  | named {token : String} {e : Endpoint} {field name : String}
    (hr : d.client.ObjectRequest token e r) (he : e.nameField? = some field)
    (hname : step.name? = some name) (husable : Name.Usable name)
    (h : r.givenNames = [(field, name)])

theorem names_of_request {job : Job} {token : String} (hjob : step.job? = some job)
    {kind : Request → Prop} (hkind : kind ∈ job.requests d.client token) (hr : kind r) :
    d.Names step r := by
  cases Step.ready_of_job hjob with
  | list | link =>
    rw [List.mem_singleton.mp hkind] at hr
    refine .unnamed (Client.objectRequest_of_question rfl hr) rfl ?_
    rw [Request.givenNames, Client.form_of_question hr]
    rfl
  | move | remove =>
    rw [List.mem_singleton.mp hkind] at hr
    refine .unnamed (Client.objectRequest_of_filled rfl rfl hr) rfl ?_
    rw [Request.givenNames_of_form (Client.form_of_filled hr)]
    rfl
  | makeDir hname | rename hname =>
    rw [List.mem_singleton.mp hkind] at hr
    refine .named (Client.objectRequest_of_filled rfl rfl hr) rfl rfl
      (Name.fault?_eq_none_iff.mp hname) ?_
    rw [Request.givenNames_of_form (Client.form_of_filled hr)]
    rfl
  | put hname hbroken =>
    have husable := Name.fault?_eq_none_iff.mp hname
    simp only [Job.requests, List.mem_cons, List.not_mem_nil, or_false] at hkind
    rcases hkind with rfl | rfl
    · refine .named (e := .announce) (.form _ rfl rfl hr) rfl rfl husable ?_
      rw [Request.givenNames_of_form (Upload.form_of_formRequest hr)]
      rfl
    · obtain ⟨ticket, hr⟩ := hr
      refine .named (e := .confirm) (.form _ rfl rfl hr) rfl rfl husable ?_
      rw [Request.givenNames_of_form (Upload.form_of_formRequest hr)]
      rfl

theorem names_of_perform {result : Except (Stop Failure) Outcome}
    (h : (d.perform step).exec now l = (result, l')) :
    ∃ xs, l'.exchanges = l.exchanges ++ xs ∧ ∀ x ∈ xs, d.Names step x.1 := by
  obtain ⟨session, own, hsent, hsession, hown⟩ := exchanges_of_perform h
  refine ⟨session ++ own, hsent, fun x hx => ?_⟩
  rcases List.mem_append.mp hx with hx | hx
  · exact .own (hsession x hx) (Session.givenNames_of_own (hsession x hx))
  · rcases hown with rfl | ⟨token, m, -, hsupplied⟩
    · cases hx
    · obtain ⟨job, hjob, hkinds⟩ := hsupplied.requests
      obtain ⟨kind, hkind, hr⟩ := hkinds.exists_kind hx
      exact names_of_request hjob hkind hr

/-- `x` passed in the turn `t` of a run that starts with `l`. -/
def PassedIn (d : Drive) (ts : List (Turn Step)) (l : Live) (t : Turn Step)
    (x : Request × Reply) : Prop :=
  ∃ before after ys, ts = before ++ t :: after ∧ x ∈ ys ∧
    (d.turn t (d.run before l).2).2.exchanges = (d.run before l).2.exchanges ++ ys

theorem PassedIn.later {t₀ t : Turn Step} {ts : List (Turn Step)} {x : Request × Reply}
    (h : d.PassedIn ts (d.turn t₀ l).2 t x) : d.PassedIn (t₀ :: ts) l t x := by
  obtain ⟨before, after, ys, rfl, hx, hys⟩ := h
  exact ⟨t₀ :: before, after, ys, rfl, hx, hys⟩

theorem names_of_run (d : Drive) (ts : List (Turn Step)) (l : Live) :
    ∃ xs, (d.run ts l).2.exchanges = l.exchanges ++ xs ∧
      ∀ x ∈ xs, ∃ t, d.PassedIn ts l t x ∧ d.Names t.step x.1 := by
  -- on the turns; what passed in a turn of the rest passed in the same turn of the whole
  induction ts generalizing l with
  | nil => exact ⟨[], by simp [run], by simp⟩
  | cons t ts ih =>
    have hturn : (d.perform t.step).exec t.now (l.awaiting t.replies) =
        ((d.turn t l).1, (d.turn t l).2) := rfl
    obtain ⟨xs, hxs, hnames⟩ := names_of_perform hturn
    obtain ⟨ys, hys, hrest⟩ := ih (d.turn t l).2
    refine ⟨xs ++ ys, ?_, fun x hx => ?_⟩
    · show (d.run ts (d.turn t l).2).2.exchanges = l.exchanges ++ (xs ++ ys)
      rw [hys, hxs, List.append_assoc]
      rfl
    · rcases List.mem_append.mp hx with hx | hx
      · exact ⟨t, ⟨[], ts, xs, rfl, hx, hxs⟩, hnames x hx⟩
      · obtain ⟨t', hpassed, hnamed⟩ := hrest x hx
        exact ⟨t', hpassed.later, hnamed⟩

/-- **The service hears a name as the host has given it, and never one that may not be given.** An
operation with such a name fails and leaves everything as it was. -/
theorem names_heard_as_given (d : Drive) :
    (∀ step name now (l : Live), Step.name? step = some name → ¬ Name.Usable name →
      ∃ why, Name.fault? name = some why ∧
        (d.perform step).exec now l = (.error (.failed ⟨[], .badName why⟩), l)) ∧
    ∀ ts l, ∃ xs, (d.run ts l).2.exchanges = l.exchanges ++ xs ∧
      ∀ x ∈ xs, ∃ t, d.PassedIn ts l t x ∧ d.Names t.step x.1 := by
  refine ⟨fun step name now l hname hunusable => ?_, d.names_of_run⟩
  obtain ⟨why, hwhy⟩ := Option.ne_none_iff_exists'.mp (mt Name.fault?_eq_none_iff.mp hunusable)
  exact ⟨why, hwhy, exec_misnamed hname hwhy⟩

/-- One new folder before a peer that renews the tokens and then ends the connection. -/
def sampleNaming : List (Turn Step) :=
  [⟨.makeDir .root "new", .epoch, [Session.sampleRefreshed]⟩]

/-- Its name is heard, in the second request, and one with a slash in it would not have been. -/
theorem names_heard_as_given_renewing :
    (Drive.perform ⟨.sample, .root⟩ (.makeDir .root "a/b")).exec .epoch sampleRenewing =
      (.error (.failed ⟨[], .badName (.holdsSeparator "a/b")⟩), sampleRenewing) ∧
    ∃ x y, (Drive.run ⟨.sample, .root⟩ sampleNaming sampleRenewing).2.exchanges = [x, y] ∧
      x.1.givenNames = [] ∧ y.1.givenNames = [("name", "new")] ∧
      Names ⟨.sample, .root⟩ (.makeDir .root "new") y.1 := by
  obtain ⟨hunusable, hruns⟩ := names_heard_as_given ⟨.sample, .root⟩
  constructor
  · have hslash : ¬ Name.Usable "a/b" := fun husable => husable.slash (by decide)
    obtain ⟨why, hwhy, hexec⟩ :=
      hunusable (.makeDir .root "a/b") "a/b" .epoch sampleRenewing rfl hslash
    rw [show Name.fault? "a/b" = some (.holdsSeparator "a/b") from by decide] at hwhy
    cases hwhy
    exact hexec
  · obtain ⟨xs, hxs, hnames⟩ := hruns sampleNaming sampleRenewing
    have hsaid : (Drive.run ⟨.sample, .root⟩ sampleNaming sampleRenewing).2.exchanges.map
        (fun x => x.1.givenNames) = [[], [("name", "new")]] := by
      decide +kernel
    rw [hxs, show sampleRenewing.exchanges = [] from rfl, List.nil_append] at hsaid
    rw [hxs, show sampleRenewing.exchanges = [] from rfl, List.nil_append]
    obtain ⟨x, xs, rfl, hx, hsaid⟩ := List.map_eq_cons_iff.mp hsaid
    obtain ⟨y, ys, rfl, hy, hsaid⟩ := List.map_eq_cons_iff.mp hsaid
    obtain rfl := List.map_eq_nil_iff.mp hsaid
    obtain ⟨t, ⟨before, after, -, ht, -⟩, hnamed⟩ := hnames y (by simp)
    -- the run has one turn only
    have hstep : t.step = .makeDir .root "new" := by
      cases before with
      | nil =>
        cases ht
        rfl
      | cons t₀ before => simp [sampleNaming] at ht
    rw [hstep] at hnamed
    exact ⟨x, y, rfl, hx, hy, hnamed⟩

end Drive
end RemoteDrive
