import RemoteDrive.Proofs.Drive.Failure
import RemoteDrive.Proofs.Drive.Secrecy

/-!
# Drives of good configurations

A configuration is looked at in four places: when its problems are listed, when its root becomes an
identifier, when the client takes its URL, and when the session is about to show its credentials.
Each has a check of its own, and only the first is meant to say no. So what the list finds nothing
wrong with has to pass the other three, and then a drive that could be made never fails for the way
it was configured.

`Config.Sound` is what it means that nothing is wrong, place by place; `problems_eq_nil_iff` says
that the list is empty for these configurations and no others.
-/

set_option autoImplicit false

namespace RemoteDrive

/-! ## Good configurations -/

namespace Config

variable {c : Config}

structure Sound (c : Config) : Prop where
  key : Text.blank c.credentials.apiKey = false
  secret : Text.blank c.credentials.apiSecret = false
  root : ∃ id, c.root = .ok id
  http : isHttpUrl c.http.baseUrl = true
  slash : c.http.baseUrl.toList.getLast? ≠ some '/'
  agent : Text.blank c.http.userAgent = false
  timeout : c.http.requestTimeout ≠ 0
  upload : c.http.requestTimeout ≤ c.http.uploadTimeout

theorem rootProblem?_eq_none_iff : c.rootProblem? = none ↔ ∃ id, c.root = .ok id := by
  unfold rootProblem?
  cases c.root with
  | ok id => exact ⟨fun _ => ⟨id, rfl⟩, fun _ => rfl⟩
  | error why => simp

theorem problems_eq_nil_iff : c.problems = [] ↔ c.Sound := by
  have hitem : ∀ {p : Prop} [Decidable p] {x : Problem}, (if p then [x] else []) = [] ↔ ¬ p := by
    intro p _ x
    split <;> simp [*]
  have hitem' : ∀ {b : Bool} {x : Problem}, (if b then [] else [x]) = [] ↔ b = true := by
    intro b x
    cases b <;> simp
  simp only [problems, List.append_eq_nil_iff, hitem, hitem', Option.toList_eq_nil_iff,
    rootProblem?_eq_none_iff, Bool.not_eq_true, UInt64.not_lt]
  constructor
  · rintro ⟨⟨⟨⟨⟨⟨⟨hkey, hsecret⟩, hroot⟩, hhttp⟩, hslash⟩, hagent⟩, htimeout⟩, hupload⟩
    exact ⟨hkey, hsecret, hroot, hhttp, hslash, hagent, htimeout, hupload⟩
  · rintro ⟨hkey, hsecret, hroot, hhttp, hslash, hagent, htimeout, hupload⟩
    exact ⟨⟨⟨⟨⟨⟨⟨hkey, hsecret⟩, hroot⟩, hhttp⟩, hslash⟩, hagent⟩, htimeout⟩, hupload⟩

def settings (c : Config) : List Setting := [
  .apiKey c.credentials.apiKey,
  .apiSecret c.credentials.apiSecret,
  .rootId c.rootId,
  .baseUrl c.http.baseUrl,
  .userAgent c.http.userAgent,
  .requestTimeout c.http.requestTimeout,
  .uploadTimeout c.http.uploadTimeout]

theorem build_settings (c : Config) : build c.settings = c := rfl

theorem buildValidated_of_sound {settings : List Setting} (h : (build settings).Sound) :
    buildValidated settings = .ok (build settings) := by
  rw [buildValidated, problems_eq_nil_iff.mpr h]

theorem buildValidated_of_problems {settings : List Setting}
    (h : (build settings).problems ≠ []) :
    buildValidated settings = .error (build settings).problems := by
  unfold buildValidated
  split
  · contradiction
  · rfl

end Config

theorem Client.trimSlashes_of_no_slash {url : String} (h : url.toList.getLast? ≠ some '/') :
    trimSlashes url = url := by
  have hkept : url.toList.reverse.dropWhile (· == '/') = url.toList.reverse := by
    cases hrev : url.toList.reverse with
    | nil => rfl
    | cons c rest =>
      rw [List.getLast?_eq_head?_reverse, hrev] at h
      refine List.dropWhile_cons_of_neg ?_
      simpa using h
  rw [trimSlashes, hkept, List.reverse_reverse, String.ofList_toList]

theorem Client.ofConfig_eq_ok {c : Config} {client : Client} (h : ofConfig c = .ok client) :
    isHeaderValue c.http.userAgent = true ∧ client.baseUrl = trimSlashes c.http.baseUrl := by
  unfold ofConfig at h
  split at h
  · cases h
    exact ⟨‹_›, rfl⟩
  · cases h

theorem RemoteId.text_of_ofString {text : String} {id : RemoteId}
    (h : RemoteId.ofString text = .ok id) : id.text = text := by
  unfold ofString at h
  split at h
  · cases h
  · split at h
    · cases h
      rfl
    · cases h

/-! ## Making a drive -/

namespace Drive

variable {c : Config} {d : Drive} {step : Step} {now : Instant} {l l' : Live}

theorem ofConfig_of_problems (h : c.problems ≠ []) :
    ofConfig c = .error ⟨[.configuration], .badConfig c.problems⟩ := by
  rw [ofConfig, if_pos h]

theorem exists_ofConfig (h : c.Sound) (hagent : isHeaderValue c.http.userAgent = true) :
    ∃ d, ofConfig c = .ok d := by
  obtain ⟨id, hroot⟩ := h.root
  rw [ofConfig, if_neg (not_not.mpr (Config.problems_eq_nil_iff.mpr h)), hroot, Client.ofConfig,
    if_pos hagent]
  exact ⟨_, rfl⟩

/-- Of a good configuration only the name of the client may still be refused. -/
theorem ofConfig_of_agent (h : c.Sound) (hagent : isHeaderValue c.http.userAgent = false) :
    ofConfig c = .error ⟨[.httpClient], .notBuilt none⟩ := by
  obtain ⟨id, hroot⟩ := h.root
  rw [ofConfig, if_neg (not_not.mpr (Config.problems_eq_nil_iff.mpr h)), hroot, Client.ofConfig,
    if_neg (by simp [hagent])]
  rfl

/-- The two ways in which there is no drive. -/
theorem failure_of_ofConfig {failure : Failure} (h : ofConfig c = .error failure) :
    (c.problems ≠ [] ∧ failure = ⟨[.configuration], .badConfig c.problems⟩) ∨
      (c.problems = [] ∧ isHeaderValue c.http.userAgent = false ∧
        failure = ⟨[.httpClient], .notBuilt none⟩) := by
  by_cases hproblems : c.problems = []
  · have hsound := Config.problems_eq_nil_iff.mp hproblems
    cases hagent : isHeaderValue c.http.userAgent with
    | true =>
      obtain ⟨d, hd⟩ := exists_ofConfig hsound hagent
      rw [hd] at h
      cases h
    | false =>
      rw [ofConfig_of_agent hsound hagent] at h
      cases h
      exact .inr ⟨hproblems, rfl, rfl⟩
  · rw [ofConfig_of_problems hproblems] at h
    cases h
    exact .inl ⟨hproblems, rfl⟩

/-! ## Runs -/

/-- **A step fails for the configuration only where there is nothing to authenticate with.** -/
theorem hasCredentials_of_kind {failure : Failure}
    (h : (d.perform step).exec now l = (.error (.failed failure), l'))
    (hkind : failure.fault.kind = .config) : d.session.hasCredentials = false := by
  have hsession : ∀ {why : Fault}, why.kind = .config →
      why.kind = .auth ∨ why.kind = .config ∧ d.session.hasCredentials = false →
      d.session.hasCredentials = false := by
    rintro why hconfig (hauth | ⟨-, hnone⟩)
    · rw [hconfig] at hauth
      cases hauth
    · exact hnone
  cases hfirst : prepare? step with
  | some first =>
    cases failing_of_perform hfirst h with
    | misnamed | unread => cases hkind
    | @refused _ job why m hjob hasked =>
      rw [job.fault_told] at hkind
      exact hsession hkind (Session.kind_of_ensureValid hasked)
    | @served _ job token m why hjob hasked hrun =>
      -- neither an answer nor what is found in it is a fault of the configuration
      have hmem := (d.plan_blames token now job).kind_of_run hrun
      rw [show why.kind = .config from hkind] at hmem
      cases job <;> simp [Job.ownKinds] at hmem
  | none =>
    cases perform_aside hfirst h with
    | refused ha => exact hsession hkind (Session.kind_of_authenticate ha)
    | unknown => cases hkind

theorem kind_of_run (hd : d.session.hasCredentials = true) (ts : List (Turn Step)) (l : Live) :
    ∀ failure, .error (.failed failure) ∈ (d.run ts l).1 → failure.fault.kind ≠ .config := by
  induction ts generalizing l with
  | nil =>
    intro failure hmem
    cases hmem
  | cons t ts ih =>
    intro failure hmem hkind
    rcases List.mem_cons.mp hmem with hturn | hrest
    · have hexec : (d.perform t.step).exec t.now (l.awaiting t.replies) =
          (.error (.failed failure), (d.turn t l).2) := by
        rw [hturn]
        rfl
      rw [hasCredentials_of_kind hexec hkind] at hd
      cases hd
    · exact ih _ failure hrest hkind

/-- The drive is as its configuration has it, and finds no fault with it in any run. -/
structure Configured (c : Config) (d : Drive) : Prop where
  root : c.root = .ok d.root ∧ d.root.text = c.rootId
  baseUrl : d.client.baseUrl = c.http.baseUrl
  blameless : ∀ ts l failure, .error (.failed failure) ∈ (d.run ts l).1 →
    failure.fault.kind ≠ .config

theorem configured_of_ofConfig (h : ofConfig c = .ok d) : Configured c d := by
  obtain ⟨hproblems, hclient, hroot, hcredentials⟩ := ofConfig_eq_ok h
  have hsound := Config.problems_eq_nil_iff.mp hproblems
  refine ⟨⟨hroot, RemoteId.text_of_ofString hroot⟩, ?_, ?_⟩
  · rw [(Client.ofConfig_eq_ok hclient).2]
    exact Client.trimSlashes_of_no_slash hsound.slash
  · refine kind_of_run ?_
    rw [Session.hasCredentials, hcredentials, hsound.key, hsound.secret]
    rfl

theorem message_badConfig (problems : List Config.Problem) :
    Failure.message ⟨[.configuration], .badConfig problems⟩ =
      "invalid driver configuration: Validation failed: " ++
        String.intercalate "; " (problems.map Config.Problem.display) := by
  calc Failure.message ⟨[.configuration], .badConfig problems⟩
    _ = "invalid driver configuration" ++ ": " ++ ("Validation failed: " ++
        String.intercalate "; " (problems.map Config.Problem.display)) :=
      Failure.message_within .configuration ⟨[], .badConfig problems⟩
    _ = "invalid driver configuration" ++ ": " ++ "Validation failed: " ++
        String.intercalate "; " (problems.map Config.Problem.display) := by
      rw [← String.append_assoc]

/-- **What the list of problems lets through is never found fault with again.** A drive is refused
for its configuration exactly where the list is not empty, with the whole list, and that is where
the configuration itself would not have been built. -/
theorem configured_drive (c : Config) :
    ((∃ failure, ofConfig c = .error failure ∧ failure.fault.kind = .validationFailed) ↔
      c.problems ≠ []) ∧
    (c.problems ≠ [] → ∃ failure, ofConfig c = .error failure ∧
      failure.fault = .badConfig c.problems ∧
      failure.message = "invalid driver configuration: Validation failed: " ++
        String.intercalate "; " (c.problems.map Config.Problem.display)) ∧
    (∃ settings, Config.build settings = c) ∧
    (∀ settings, Config.build settings = c →
      (Config.buildValidated settings = .error c.problems ↔ c.problems ≠ []) ∧
      (Config.buildValidated settings = .ok c ↔ c.problems = [])) ∧
    (∀ failure, ofConfig c = .error failure → .rootFolder ∉ failure.contexts) ∧
    ((∃ d, ofConfig c = .ok d) ↔ c.problems = [] ∧ isHeaderValue c.http.userAgent = true) ∧
    ∀ d, ofConfig c = .ok d → Configured c d := by
  refine ⟨⟨?_, fun h => ⟨_, ofConfig_of_problems h, rfl⟩⟩, fun h => ?_, ⟨_, c.build_settings⟩,
    ?_, ?_, ⟨?_, ?_⟩, fun d hd => configured_of_ofConfig hd⟩
  · rintro ⟨failure, hfailed, hkind⟩
    rcases failure_of_ofConfig hfailed with ⟨hproblems, -⟩ | ⟨-, -, rfl⟩
    · exact hproblems
    · cases hkind
  · exact ⟨_, ofConfig_of_problems h, rfl, message_badConfig c.problems⟩
  · rintro settings rfl
    by_cases hproblems : (Config.build settings).problems = []
    · rw [Config.buildValidated_of_sound (Config.problems_eq_nil_iff.mp hproblems)]
      simp [hproblems]
    · rw [Config.buildValidated_of_problems hproblems]
      simp [hproblems]
  · intro failure hfailed
    rcases failure_of_ofConfig hfailed with ⟨-, rfl⟩ | ⟨-, -, rfl⟩
    · simp
    · simp
  · rintro ⟨d, hd⟩
    obtain ⟨hproblems, hclient, -⟩ := ofConfig_eq_ok hd
    exact ⟨hproblems, (Client.ofConfig_eq_ok hclient).1⟩
  · rintro ⟨hproblems, hagent⟩
    exact exists_ofConfig (Config.problems_eq_nil_iff.mp hproblems) hagent

/-- The standard configuration lacks both credentials, and one with them gives a drive. -/
theorem configured_drive_sample :
    (∃ failure, ofConfig .standard = .error failure ∧
      failure.fault = .badConfig [.blankKey, .blankSecret]) ∧
    Configured (sampleConfig.set (.apiSecret "one")) (sampleOf "one") := by
  have hproblems : Config.standard.problems = [.blankKey, .blankSecret] := by decide +kernel
  obtain ⟨-, hrefused, -⟩ := configured_drive .standard
  obtain ⟨-, -, -, -, -, -, hmade⟩ := configured_drive (sampleConfig.set (.apiSecret "one"))
  constructor
  · obtain ⟨failure, hfailed, hfault, -⟩ := hrefused (by simp [hproblems])
    rw [hproblems] at hfault
    exact ⟨failure, hfailed, hfault⟩
  · exact hmade _ rfl

end Drive
end RemoteDrive
