import RemoteDrive.Proofs.Drive.Job
import RemoteDrive.Proofs.Session.Secrecy

/-!
# What a host sees of the secrets

Of a step the host sees its result, what the session holds at any moment, what the log was told and
how the drive and its session are shown; the other side of the line sees requests. All of that is a
step's `View`, but the requests in it are without their secrets. This file proves that the views of
a run do not depend on the secrets (`views_eq_of_secrets`), for two drives that were made from
configurations with different secrets and hold different tokens.

The proof runs both drives side by side. That a job is related to the same job of the other drive is
proved along its definition, with one lemma for each kind of request; the steps then differ in their
preparation only, which does not look at the drive at all (`perform_eq`). All of that is done for any
likeness of situations, and the views need it for twins.
-/

set_option autoImplicit false

namespace RemoteDrive

namespace Drive

/-- The drives differ in their secrets only. -/
structure Twins (d d' : Drive) : Prop where
  session : d.session.Twins d'.session
  root : d.root = d'.root

variable {α : Type} {d d' : Drive}

theorem Twins.client (h : d.Twins d') : d.client = d'.client := h.session.client

theorem Twins.display (h : d.Twins d') : d.display = d'.display := by
  unfold Drive.display
  rw [h.client, h.root]

/-! ## The parts -/

section Parts

variable {T : Live → Live → Prop} {R : α → α → Prop}

theorem inside_related {act act' : Act Failure α} (c : Context) (h : Act.Related T R act act') :
    Act.Related T R (inside c act) (inside c act') :=
  h.mapFailure (Failure.within c)

theorem lift_related {act act' : Act Fault α} (h : Act.Related T R act act') :
    Act.Related T R (lift act) (lift act') :=
  h.mapFailure Failure.ofFault

end Parts

/-! ## What is read of an answer

A job asks an envelope for many things, but for no token. -/

section Answers

variable {e e' : Envelope} (h : e.Kin e')
include h

theorem items_kin : items e = items e' := by
  rw [items, items, Json.fieldOrNull, Json.fieldOrNull, h.data.field? (by decide)]

theorem downloadUrl_kin : downloadUrl e = downloadUrl e' := by
  unfold downloadUrl
  rw [h.dataText? (by decide), h.dataText? (by decide)]

theorem findId?_kin {keys : List String} (hkeys : ∀ key ∈ keys, key ∉ tokenKeys) :
    Listing.findId? keys e.data = Listing.findId? keys e'.data :=
  Json.firstOf_congr fun key hkey => h.data.field? (hkeys key hkey)

theorem created_kin (name : String) (now : Instant) : created name now e = created name now e' := by
  rw [created, created, findId?_kin h (by decide)]

theorem moved_kin (o : RemoteObject) (now : Instant) : moved o now e = moved o now e' := by
  unfold moved echo?
  rw [items_kin h]

theorem ticket_kin : Upload.ticket e = Upload.ticket e' := by
  unfold Upload.ticket
  rw [h.dataText? (by decide), h.dataText? (by decide)]

theorem fileId_kin : Upload.fileId e = Upload.fileId e' := by
  rw [Upload.fileId, Upload.fileId, findId?_kin h (by decide), Envelope.field, Envelope.field,
    Json.fieldOrNull, Json.fieldOrNull, h.field "file_id" (by decide)]

end Answers

/-! ## The jobs -/

/-- A request with a token is built the same way from any token that can be sent. -/
theorem built_outline {token token' : String} (htoken : isHeaderValue token = isHeaderValue token')
    {f : Request → Request}
    (hf : ∀ r r' : Request, r.outline = r'.outline → (f r).outline = (f r').outline)
    (built : Except Fault Request) :
    (do let r ← built; let r ← r.withBearer token; return f r).map Request.outline =
      (do let r ← built; let r ← r.withBearer token'; return f r).map Request.outline := by
  cases built with
  | error why => rfl
  | ok r =>
    have hbearer : (r.withBearer token).map Request.outline =
        (r.withBearer token').map Request.outline := by
      refine Request.outline_withHeader rfl ?_ (by simp [hideValue])
      rw [isHeaderValue_bearer, isHeaderValue_bearer, htoken]
    show ((r.withBearer token).bind fun r => .ok (f r)).map Request.outline =
      ((r.withBearer token').bind fun r => .ok (f r)).map Request.outline
    obtain ⟨why, hwhy, hwhy'⟩ | ⟨r₁, r₁', hok, hok', hr⟩ := Request.outline_cases hbearer
    · rw [hwhy, hwhy']
    · rw [hok, hok']
      exact congrArg Except.ok (hf _ _ hr)

section Jobs

variable {token token' : String} {T : Live → Live → Prop} (h : d.Twins d') (hT : Live.Likeness T)
  (htoken : isHeaderValue token = isHeaderValue token')
include h hT htoken

theorem query_related (path name value : String) (family : EndpointFamily) :
    Act.Related T Envelope.Kin (d.query token path name value family)
      (d'.query token' path name value family) := by
  refine lift_related (Client.execute_related hT ?_ family)
  rw [h.client]
  exact built_outline htoken (fun _ _ hr => Request.outline_withPair hr name value) _

theorem post_related (path : String) (form : List (String × String)) :
    Act.Related T Envelope.Kin (d.post token path form) (d'.post token' path form) := by
  refine lift_related (Client.execute_related hT ?_ .operation)
  rw [h.client]
  exact built_outline htoken (fun _ _ hr => Request.outline_withForm hr rfl) _

theorem transfer_related (file : UploadDescriptor) :
    Act.Related T Eq (Upload.transfer d.client token file)
      (Upload.transfer d'.client token' file) := by
  have hrequest : ∀ path form,
      (Upload.formRequest d.client token path form).map Request.outline =
        (Upload.formRequest d'.client token' path form).map Request.outline := by
    intro path form
    rw [h.client]
    exact built_outline htoken (fun _ _ hr => Request.outline_withForm hr rfl) _
  have heq : ∀ t : UploadTicket, t = t := fun _ => rfl
  refine Act.Related.andThen ?_ fun ticket => Act.Related.andThen ?_ fun o => ?_
  · refine (Act.Related.log hT _).andThen fun _ => ?_
    refine (Client.execute_related hT (hrequest _ _) .upload).bind fun e e' he => ?_
    rw [ticket_kin he]
    exact .ofExcept (.refl heq _)
  · refine (Client.execute_related hT (hrequest _ _) .upload).bind fun e e' he => ?_
    simp only [Upload.idReport, Upload.uploaded, fileId_kin he]
    exact (Act.Related.logAll hT _).andThen fun _ => Act.Related.now.andThen fun now => .pure rfl
  · exact (Act.Related.log hT _).andThen fun _ => .pure rfl

/-- **A job is done alike with tokens that can be sent alike.** -/
theorem work_related (job : Job) : Act.Related T Eq (d.work token job) (d'.work token' job) := by
  cases job with
  | list dir =>
    refine Act.Related.andThen ?_ fun os => .pure rfl
    refine (Act.Related.log hT _).andThen fun _ => ?_
    refine (inside_related _ (query_related h hT htoken _ _ _ _)).bind fun e e' he => ?_
    rw [items_kin he]
    refine (Act.Related.logAll hT _).andThen fun _ => Act.Related.now.andThen fun now => ?_
    exact (Act.Related.log hT _).andThen fun _ => .pure rfl
  | link file =>
    refine Act.Related.andThen ?_ fun l => .pure rfl
    refine (Act.Related.log hT _).andThen fun _ => inside_related _ ?_
    refine (query_related h hT htoken _ _ _ _).bind fun e e' he => ?_
    rw [downloadUrl_kin he, h.client]
    refine Act.Related.andThen (lift_related (.ofExcept (.refl ?_ _))) fun url => .pure rfl
    exact fun _ => rfl
  | makeDir parent name =>
    refine Act.Related.andThen (inside_related _ ?_) fun o => .pure rfl
    refine (post_related h hT htoken _ _).bind fun e e' he => ?_
    refine Act.Related.now.andThen fun now => ?_
    rw [created_kin he]
    exact (Act.Related.log hT _).andThen fun _ => .pure rfl
  | move o target =>
    refine Act.Related.andThen (inside_related _ ?_) fun o => .pure rfl
    refine (post_related h hT htoken _ _).bind fun e e' he => ?_
    exact Act.Related.now.andThen fun now => .pure (moved_kin he o now)
  | rename o name =>
    refine Act.Related.andThen (inside_related _ ?_) fun o => .pure rfl
    refine (post_related h hT htoken _ _).bind fun e e' he => ?_
    exact Act.Related.now.andThen fun now => .pure rfl
  | remove o =>
    refine Act.Related.andThen (inside_related _ ?_) fun _ => ?_
    · exact (post_related h hT htoken _ _).bind fun e e' he => .pure rfl
    · exact (Act.Related.log hT _).andThen fun _ => .pure rfl
  | put target name s =>
    refine Act.Related.andThen ?_ fun o => .pure rfl
    exact inside_related _ (lift_related (transfer_related h hT htoken _))

end Jobs

/-! ## The steps -/

section Steps

variable {T : Live → Live → Prop} (h : d.Twins d') (hT : Live.Likeness T)

include h hT in
theorem carryOut_related (job : Job) : Act.Related T Eq (d.carryOut job) (d'.carryOut job) := by
  have hensure := lift_related (h.session.ensureValid hT)
  have htoken := (inside_related .accessToken hensure).mapFailure job.told
  exact htoken.bind fun token token' hsendable => work_related h hT hsendable job

theorem unsupported_related {β : Type} (operation : Unsupported) (next next' : α → Act Failure β) :
    Act.Related T Eq ((unsupported operation : Act Failure α) >>= next)
      ((unsupported operation : Act Failure α) >>= next') :=
  Act.Related.bind (R := fun _ _ => False) (.fail _) fun _ _ hnever => hnever.elim

include h hT in
/-- **A step does alike what another drive does**, if only secrets are different. -/
theorem perform_related (step : Step) : Act.Related T Eq (d.perform step) (d'.perform step) := by
  cases hfirst : prepare? step with
  | some first =>
    rw [perform_eq hfirst, perform_eq hfirst]
    exact (Act.Related.notes hT (prepare_notes hfirst)).andThen fun job => carryOut_related h hT job
  | none =>
    cases step with
    | init =>
      refine Act.Related.andThen ?_ fun _ => .pure rfl
      have hauthenticate := lift_related (h.session.authenticate hT)
      refine (inside_related _ hauthenticate).andThen fun _ => ?_
      rw [h.root]
      exact .log hT _
    | shutdown => exact (Session.invalidate_related hT).andThen fun _ => .pure rfl
    | archiveMeta | listArchive | extract | decompress | details => exact unsupported_related _ _ _
    | list | link | makeDir | move | rename | remove | put => cases hfirst

end Steps

/-- Twin drives make a step alike. -/
theorem perform_twins (h : d.Twins d') (step : Step) :
    Act.Twins Eq (d.perform step) (d'.perform step) :=
  perform_related h twins_likeness step

/-! ## What is seen of a run -/

/-- What can be seen after a step. -/
structure View where
  result : Except (Stop Failure) Outcome
  /-- What the session holds, at whatever moment one looks. -/
  state : Instant → SessionState
  events : List Event
  reports : List Progress
  /-- The requests that reached the peer, without their secrets. -/
  requests : List Request
  drive : String
  session : String

def view (d : Drive) (result : Except (Stop Failure) Outcome) (l : Live) : View where
  result := result
  state now := .ofTokens now l.tokens
  events := l.events
  reports := l.reports
  requests := l.requests.map Request.outline
  drive := d.display
  session := d.session.display l.tokens

/-- What can be seen after each of several steps. -/
def views (d : Drive) : List (Turn Step) → Live → List View
  | [], _ => []
  | t :: ts, l => d.view (d.turn t l).1 (d.turn t l).2 :: d.views ts (d.turn t l).2

/-- The views are those of a run. -/
theorem results_of_views (d : Drive) (ts : List (Turn Step)) (l : Live) :
    (d.views ts l).map View.result = (d.run ts l).1 := by
  induction ts generalizing l with
  | nil => rfl
  | cons t ts ih => exact congrArg ((d.turn t l).1 :: ·) (ih (d.turn t l).2)

theorem view_twins (h : d.Twins d') {l m : Live} (hlm : l.Twins m)
    (result : Except (Stop Failure) Outcome) : d.view result l = d'.view result m := by
  have hstate : (SessionState.ofTokens · l.tokens) = (SessionState.ofTokens · m.tokens) := by
    funext now
    exact Tokens.state_outline now hlm.tokens
  unfold view
  rw [hstate, hlm.events, hlm.reports, hlm.requests, h.display, h.session.display hlm.tokens]

theorem views_twins (h : d.Twins d') (ts : List (Turn Step)) {l m : Live} (hlm : l.Twins m) :
    d.views ts l = d'.views ts m := by
  induction ts generalizing l m with
  | nil => rfl
  | cons t ts ih =>
    -- the next turn starts in the situations in which this one has left the drives
    obtain ⟨hresult, hnext⟩ := perform_twins h t.step t.now _ _ (hlm.awaiting t.replies)
    have hview : d.view (d.turn t l).1 (d.turn t l).2 = d'.view (d'.turn t m).1 (d'.turn t m).2 := by
      rw [show (d.turn t l).1 = (d'.turn t m).1 from hresult.eq]
      exact view_twins h hnext _
    have hrest : d.views ts (d.turn t l).2 = d'.views ts (d'.turn t m).2 := ih hnext
    rw [views, views, hview, hrest]

/-! ## Drives of different secrets -/

/-- A drive is made with the client and the credentials of its configuration. -/
theorem ofConfig_eq_ok {c : Config} (h : ofConfig c = .ok d) :
    c.problems = [] ∧ Client.ofConfig c = .ok d.client ∧ c.root = .ok d.root ∧
      d.session.credentials = c.credentials := by
  unfold ofConfig at h
  split at h
  · cases h
  · obtain ⟨root, hroot, h⟩ := bind_eq_ok h
    obtain ⟨client, hclient, h⟩ := bind_eq_ok h
    cases h
    refine ⟨Decidable.not_not.mp ‹_›, ?_, ?_, rfl⟩
    · cases hc : Client.ofConfig c with
      | error why => simp [hc] at hclient
      | ok client' => simpa [hc, Drive.client] using hclient
    · cases hr : c.root with
      | error why => simp [hr] at hroot
      | ok root' => simpa [hr] using hroot

theorem blank_of_problems {c : Config} (h : c.problems = []) :
    Text.blank c.credentials.apiSecret = false := by
  simp only [Config.problems, List.append_eq_nil_iff] at h
  simpa using h.1.1.1.1.1.1.2

/-- Only the secret of a configuration is not looked at when its drive is made. -/
theorem twins_of_configs {c : Config} {secret secret' : String}
    (hd : ofConfig (c.set (.apiSecret secret)) = .ok d)
    (hd' : ofConfig (c.set (.apiSecret secret')) = .ok d')
    (hsendable : isHeaderValue secret = isHeaderValue secret') : d.Twins d' := by
  obtain ⟨hproblems, hclient, hroot, hcredentials⟩ := ofConfig_eq_ok hd
  obtain ⟨hproblems', hclient', hroot', hcredentials'⟩ := ofConfig_eq_ok hd'
  refine ⟨⟨Except.ok.inj (hclient.symm.trans hclient'), ?_, ?_, ?_⟩,
    Except.ok.inj (hroot.symm.trans hroot')⟩
  · rw [hcredentials, hcredentials']
    rfl
  · rw [hcredentials, hcredentials', blank_of_problems hproblems, blank_of_problems hproblems']
  · rw [hcredentials, hcredentials']
    exact hsendable

/-- **What is seen of a run does not depend on the secrets.** Two drives whose configurations differ
in the secret, and whose first tokens end together and have refresh tokens that begin alike, go
through any steps with the same results, the same log and the same requests but for the secrets in
them. -/
theorem views_eq_of_secrets (c : Config) (secret secret' : String) (d d' : Drive)
    (hd : ofConfig (c.set (.apiSecret secret)) = .ok d)
    (hd' : ofConfig (c.set (.apiSecret secret')) = .ok d')
    (hsecret : isHeaderValue secret = true) (hsecret' : isHeaderValue secret' = true)
    (t u : Tokens) (ht : isHeaderValue t.accessToken = true)
    (hu : isHeaderValue u.accessToken = true) (hends : t.expiresAt = u.expiresAt)
    (hrefresh : t.refreshToken.map shownStart = u.refreshToken.map shownStart)
    (accepts : Bool) (ts : List (Turn Step)) :
    d.views ts (.start (some t) accepts) = d'.views ts (.start (some u) accepts) := by
  have htokens : (some t).map Tokens.outline = (some u).map Tokens.outline := by
    simp [Tokens.outline, ht, hu, hends, hrefresh]
  have htwins := twins_of_configs hd hd' (hsecret.trans hsecret'.symm)
  exact views_twins htwins ts (Live.Twins.start htokens accepts)

/-- A configuration of a service at `http://h`. -/
def sampleConfig : Config := (Config.standard.set (.apiKey "key")).set (.baseUrl "http://h")

/-- Its drive. -/
def sampleOf (secret : String) : Drive :=
  ⟨⟨⟨"http://h", "openlist", 30, 600⟩, ⟨"key", secret⟩⟩, .root⟩

/-- One listing before a peer that closes every connection. -/
def sampleTurns : List (Turn Step) := [⟨.list .root, .epoch, []⟩]

/-- Such a listing shows both secrets to the peer, and no view can tell which they were. -/
theorem views_eq_listing :
    (sampleOf "one").views sampleTurns (.start (some ⟨"a", some "refreshing 1", .epoch⟩) true) =
        (sampleOf "two").views sampleTurns
          (.start (some ⟨"b", some "refreshing 2", .epoch⟩) true) ∧
      ((sampleOf "one").run sampleTurns
          (.start (some ⟨"a", some "refreshing 1", .epoch⟩) true)).2.requests ≠
        ((sampleOf "two").run sampleTurns
          (.start (some ⟨"b", some "refreshing 2", .epoch⟩) true)).2.requests := by
  have hone : ofConfig (sampleConfig.set (.apiSecret "one")) = .ok (sampleOf "one") := by rfl
  have htwo : ofConfig (sampleConfig.set (.apiSecret "two")) = .ok (sampleOf "two") := by rfl
  constructor
  · exact views_eq_of_secrets sampleConfig "one" "two" _ _ hone htwo (by decide) (by decide)
      ⟨"a", some "refreshing 1", .epoch⟩ ⟨"b", some "refreshing 2", .epoch⟩ (by decide) (by decide)
      rfl (by decide) true sampleTurns
  · decide +kernel

end Drive
end RemoteDrive
