import RemoteDrive.Proofs.Drive.Tokens
import RemoteDrive.Proofs.Url.Below

/-!
# Where the credentials go

Three secrets leave the client: the credentials, the refresh token and the access token. This file
says of every request that is sent which of them it shows, and to which endpoint. A request is
described completely (`Client.Calls`), so what it does not show can be read off as well.

A description of a request is only as good as the URL it goes to. So the base URL has to be one that
names a place and nothing else (`Client.Plain`): a user in it would go into a header of every
request, and a query would take the path in.

Which token a request shows is a question of time. `Exchanged` answers it with the situation `k` in
which the session was called in this turn, between whose start and `k` nothing has been sent and the
tokens have stayed.
-/

set_option autoImplicit false

namespace RemoteDrive

namespace Endpoint

/-- Where a call of the endpoint goes, `u` being the place of its path. -/
def Addresses (e : Endpoint) (u url : Url) : Prop :=
  match e.parameter? with
  | none => url = u
  | some name => ∃ value, url = u.withPair name value

theorem isPlainPath_path (e : Endpoint) : Url.isPlainPath e.path = true := by
  cases e <;> decide

theorem isForObjects_of_parameter {e : Endpoint} {name : String} (h : e.parameter? = some name) :
    e.isForObjects = true := by
  cases e with
  | list | link => rfl
  | authenticate | refresh | makeDir | move | rename | remove | announce | confirm => cases h

theorem form?_of_parameter {e : Endpoint} {name : String} (h : e.parameter? = some name) :
    e.form? = none := by
  cases e with
  | list | link => rfl
  | authenticate | refresh | makeDir | move | rename | remove | announce | confirm => cases h

theorem parameter?_of_form {e : Endpoint} {names : List String} (h : e.form? = some names) :
    e.parameter? = none := by
  cases e with
  | authenticate | list | link => cases h
  | refresh | makeDir | move | rename | remove | announce | confirm => rfl

end Endpoint

theorem Url.login?_of_bare {u : Url} (h : u.Bare) : u.login? = none := by
  have hempty : Utf8.decode? (Percent.decode []) = some [] := by
    simp [Percent.decode, Utf8.decode?, Utf8.pieces]
  simp [login?, h.user, h.password, hempty]

namespace Client

variable {c : Client} {e : Endpoint} {r : Request}

/-- The base URL names a place and nothing else. -/
def Plain (c : Client) : Prop := ∃ u, Url.parse? c.baseUrl = some u ∧ u.Bare

/-- The request is a call of the endpoint. Besides the client's name it has these headers and no
others, and its query and its form are what the endpoint asks for. -/
structure Calls (c : Client) (e : Endpoint) (headers : List (String × String)) (r : Request) :
    Prop where
  method : r.method = e.method
  url : ∃ u, Url.parse? (c.baseUrl ++ e.path) = some u ∧ u.Bare ∧ e.Addresses u r.url
  headers : r.headers = ("user-agent", c.userAgent) :: headers
  form : r.form.map (List.map Prod.fst) = e.form?

/-- A request below a plain base holds nothing but the client's name. -/
theorem request_eq_ok (hc : c.Plain)
    (h : c.request e.method e.path e.profile = .ok r) :
    ∃ u, Url.parse? (c.baseUrl ++ e.path) = some u ∧ u.Bare ∧
      r = ⟨e.method, u, [("user-agent", c.userAgent)], none, c.timeout e.profile⟩ := by
  obtain ⟨b, hb, hbare⟩ := hc
  unfold request Request.make at h
  split at h
  · cases h
  · rename_i u hu
    have hbelow := Url.bare_below hb hbare e.isPlainPath_path hu
    rw [Url.login?_of_bare hbelow] at h
    split at h
    · cases h
      exact ⟨u, hu, hbelow, rfl⟩
    · cases h

theorem calls_of_objectRequest (hc : c.Plain) {token : String} (h : c.ObjectRequest token e r) :
    e.isForObjects = true ∧ c.Calls e [("authorization", "Bearer " ++ token)] r := by
  cases h with
  | query name value hname h =>
    obtain ⟨r₁, hr₁, h⟩ := bind_eq_ok h
    obtain ⟨r₂, hr₂, h⟩ := bind_eq_ok h
    obtain ⟨u, hu, hbare, rfl⟩ := request_eq_ok hc hr₁
    obtain ⟨-, rfl⟩ := Request.withHeader_eq_ok hr₂
    cases h
    refine ⟨Endpoint.isForObjects_of_parameter hname, rfl, ⟨u, hu, hbare, ?_⟩, rfl, ?_⟩
    · rw [Endpoint.Addresses, hname]
      exact ⟨value, rfl⟩
    · rw [Endpoint.form?_of_parameter hname]
      rfl
  | form form hobjects hnames h =>
    obtain ⟨r₁, hr₁, h⟩ := bind_eq_ok h
    obtain ⟨r₂, hr₂, h⟩ := bind_eq_ok h
    obtain ⟨u, hu, hbare, rfl⟩ := request_eq_ok hc hr₁
    obtain ⟨-, rfl⟩ := Request.withHeader_eq_ok hr₂
    cases h
    refine ⟨hobjects, rfl, ⟨u, hu, hbare, ?_⟩, rfl, hnames.symm⟩
    rw [Endpoint.Addresses, Endpoint.parameter?_of_form hnames]
    rfl

end Client

namespace Session

variable {s : Session} {now : Instant} {l l' : Live}

theorem calls_of_authenticateRequest (hc : s.client.Plain) {r : Request}
    (h : s.authenticateRequest = .ok r) :
    s.client.Calls .authenticate
      [("x-api-key", s.credentials.apiKey), ("x-api-secret", s.credentials.apiSecret)] r := by
  obtain ⟨r₁, hr₁, h⟩ := bind_eq_ok h
  obtain ⟨r₂, hr₂, h⟩ := bind_eq_ok h
  obtain ⟨u, hu, hbare, rfl⟩ := Client.request_eq_ok (e := .authenticate) hc hr₁
  obtain ⟨-, rfl⟩ := Request.withHeader_eq_ok hr₂
  obtain ⟨-, rfl⟩ := Request.withHeader_eq_ok h
  exact ⟨rfl, ⟨u, hu, hbare, rfl⟩, rfl, rfl⟩

theorem calls_of_refreshRequest (hc : s.client.Plain) {token : String} {r : Request}
    (h : s.refreshRequest token = .ok r) :
    s.client.Calls .refresh [] r ∧ r.form = some [("refresh_token", token)] := by
  obtain ⟨r₁, hr₁, h⟩ := bind_eq_ok h
  obtain ⟨u, hu, hbare, rfl⟩ := Client.request_eq_ok (e := .refresh) hc hr₁
  cases h
  exact ⟨⟨rfl, ⟨u, hu, hbare, rfl⟩, rfl, rfl⟩, rfl⟩

end Session

/-! ## Turns and runs -/

namespace Drive

variable {d : Drive} {now : Instant} {l l' : Live}

/-- `x` was exchanged in a turn that led from `l` to `l'`, and shows one of the three secrets. -/
inductive Exchanged (d : Drive) (now : Instant) (l l' : Live) (x : Request × Reply) : Prop
  | credentials
    (h : d.client.Calls .authenticate
      [("x-api-key", d.session.credentials.apiKey),
        ("x-api-secret", d.session.credentials.apiSecret)] x.1)
  /-- The refresh token is the one that is held when the refresh is made. -/
  | refreshToken {k : Live} {token : String} (hk : l.Steady Request.None k)
    (hheld : k.tokens.bind Tokens.refreshToken = some token)
    (hsent : (d.session.refresh.exec now k).2.exchanges = k.exchanges ++ [x])
    (h : d.client.Calls .refresh [] x.1) (hform : x.1.form = some [("refresh_token", token)])
  /-- The access token is the one that is held once the session has been asked for it. -/
  | accessToken {k k' : Live} {t : Tokens} {e : Endpoint} (hk : l.Steady Request.None k)
    (hasked : d.session.ensureValid.exec now k = (.ok t.accessToken, k'))
    (hheld : k'.tokens = some t)
    (hafter : ∃ ys zs, l'.exchanges = k'.exchanges ++ (ys ++ x :: zs))
    (he : e.isForObjects = true)
    (h : d.client.Calls e [("authorization", "Bearer " ++ t.accessToken)] x.1)

/-- What the session sends for a job. -/
theorem exchanged_of_ensureValid (hc : d.client.Plain) (l' : Live) {k k' : Live}
    {result : Except (Stop Fault) String} (hk : l.Steady Request.None k)
    (h : d.session.ensureValid.exec now k = (result, k')) :
    ∃ xs, k'.exchanges = k.exchanges ++ xs ∧ ∀ x ∈ xs, d.Exchanged now l l' x := by
  obtain ⟨first, second, hsent, -, -, hfirst, hsecond⟩ := Session.exchanges_of_ensureValid h
  refine ⟨first ++ second, hsent, fun x hx => ?_⟩
  rcases List.mem_append.mp hx with hx | hx
  · obtain ⟨hexchanges, token, hshown, hr⟩ := hfirst x hx
    obtain ⟨hcalls, hform⟩ := Session.calls_of_refreshRequest hc hr
    obtain ⟨t, ht, husable⟩ := Option.bind_eq_some_iff.mp hshown
    have hheld : (Session.renewing now k).tokens.bind Tokens.refreshToken = some token :=
      Option.bind_eq_some_iff.mpr ⟨t, ht, (Option.filter_eq_some_iff.mp husable).1⟩
    exact .refreshToken (hk.trans (.logged k _)) hheld hexchanges hcalls hform
  · exact .credentials (Session.calls_of_authenticateRequest hc (hsecond x hx))

theorem exchanged_of_carryOut (hc : d.client.Plain) {k : Live} {job : Job}
    {result : Except (Stop Failure) Outcome} (hk : l.Steady Request.None k)
    (h : (d.carryOut job).exec now k = (result, l')) :
    ∃ xs, l'.exchanges = k.exchanges ++ xs ∧ ∀ x ∈ xs, d.Exchanged now l l' x := by
  rw [exec_carryOut] at h
  rcases he : d.session.ensureValid.exec now k with ⟨(why | _) | token, k'⟩
  all_goals
    obtain ⟨xs, hxs, hown⟩ := exchanged_of_ensureValid hc l' hk he
    rw [he] at h
  · cases h
    exact ⟨xs, hxs, hown⟩
  · cases h
    exact ⟨xs, hxs, hown⟩
  · have hwork := d.work_steady token job now k'
    rw [show (d.work token job).exec now k' = (result, l') from h] at hwork
    obtain ⟨ys, hys, hsends⟩ := hwork.toExtends.exchanges
    obtain ⟨⟨t, ht, rfl⟩, -⟩ := Session.ensureValid_eq_ok he
    refine ⟨xs ++ ys, by rw [hys, hxs, List.append_assoc], fun x hx => ?_⟩
    rcases List.mem_append.mp hx with hx | hx
    · exact hown x hx
    · obtain ⟨before, after, rfl⟩ := List.append_of_mem hx
      obtain ⟨e, hrequest⟩ := hsends x hx
      obtain ⟨he', hcalls⟩ := Client.calls_of_objectRequest hc hrequest
      exact .accessToken hk he ht ⟨before, after, hys⟩ he' hcalls

/-- **Every request of a turn shows one secret, to the endpoint that it is for.** -/
theorem exchanged_of_turn (hc : d.client.Plain) {step : Step}
    {result : Except (Stop Failure) Outcome} (h : (d.perform step).exec now l = (result, l')) :
    ∃ xs, l'.exchanges = l.exchanges ++ xs ∧ ∀ x ∈ xs, d.Exchanged now l l' x := by
  cases hfirst : prepare? step with
  | some first =>
    rw [perform_eq hfirst] at h
    have hk := (prepare_notes hfirst).steady (P := Request.None) now l
    obtain ⟨ys, hys, hnone⟩ := hk.toExtends.exchanges
    obtain rfl : ys = [] := List.eq_nil_iff_forall_not_mem.mpr fun y hy => (hnone y hy).elim
    rcases hexec : first.exec now l with ⟨stop | job, k⟩
    · rw [Act.exec_bind_error hexec] at h
      rw [hexec] at hys
      cases h
      exact ⟨[], hys, by simp⟩
    · rw [Act.exec_bind_ok hexec] at h
      rw [hexec] at hk hys
      obtain ⟨xs, hxs, hexchanged⟩ := exchanged_of_carryOut hc hk h
      exact ⟨xs, by rw [hxs, hys, List.append_nil], hexchanged⟩
  | none =>
    cases step with
    | init =>
      rw [exec_init] at h
      rcases ha : d.session.authenticate.exec now l with ⟨(why | _) | _, l₁⟩
      all_goals
        obtain ⟨xs, hxs, -, hshows⟩ := Session.exchanges_of_authenticate ha
        rw [ha] at h
        cases h
        refine ⟨xs, by simpa using hxs, fun x hx => .credentials ?_⟩
        exact Session.calls_of_authenticateRequest hc (hshows x hx)
    | shutdown =>
      obtain ⟨l₁, hexec, -, hsame⟩ := Session.exec_invalidate (ε := Failure) now l
      rw [perform, shutdown, Act.exec_bind_ok hexec] at h
      cases h
      exact ⟨[], by simp [hsame], by simp⟩
    | archiveMeta | listArchive | extract | decompress | details =>
      cases h
      exact ⟨[], by simp, by simp⟩
    | list | link | makeDir | move | rename | remove | put => cases hfirst

/-- **Secrets go only where they belong.** Each request of a run is one of a turn, and there it shows
the credentials, the refresh token or the access token that the session holds at that moment, each
to the endpoints that it is for and to nobody else. -/
theorem exchanged_of_run (d : Drive) (hc : d.client.Plain) (ts : List (Turn Step)) (l : Live) :
    ∃ xs, (d.run ts l).2.exchanges = l.exchanges ++ xs ∧
      ∀ x ∈ xs, ∃ before t after, ts = before ++ t :: after ∧
        d.Exchanged t.now ((d.run before l).2.awaiting t.replies)
          (d.turn t (d.run before l).2).2 x := by
  induction ts generalizing l with
  | nil => exact ⟨[], by simp [run], by simp⟩
  | cons t ts ih =>
    have hexec : (d.perform t.step).exec t.now (l.awaiting t.replies) =
        ((d.turn t l).1, (d.turn t l).2) := rfl
    obtain ⟨xs, hxs, hturn⟩ := exchanged_of_turn hc hexec
    obtain ⟨ys, hys, hrest⟩ := ih (d.turn t l).2
    refine ⟨xs ++ ys, ?_, fun x hx => ?_⟩
    · show (d.run ts (d.turn t l).2).2.exchanges = l.exchanges ++ (xs ++ ys)
      rw [hys, hxs, List.append_assoc]
      rfl
    · rcases List.mem_append.mp hx with hx | hx
      · exact ⟨[], t, ts, rfl, hturn x hx⟩
      · obtain ⟨before, t', after, rfl, hexchanged⟩ := hrest x hx
        exact ⟨t :: before, t', after, rfl, hexchanged⟩

theorem sample_plain : (Client.mk "http://h" "agent" 30 600).Plain :=
  ⟨⟨"http", "", none, some "h", none, "/", none, none⟩, by decide +kernel, rfl, rfl, rfl, rfl⟩

/-- A listing with tokens that have ended, before a peer that renews them. -/
def sampleRun : List (Turn Step) := [⟨.list .root, .epoch, [Session.sampleRefreshed]⟩]

/-- In such a run the refresh token is shown, and then the new access token. -/
theorem exchanged_of_run_listing :
    ∃ xs, (Drive.run ⟨.sample, .root⟩ sampleRun sampleRenewing).2.exchanges = xs ∧
      xs.map (fun x => x.1.url.text) =
        ["http://h/refresh_token", "http://h/list_files?folder_id=0"] ∧
      ∀ x ∈ xs, ∃ before t after, sampleRun = before ++ t :: after ∧
        Drive.Exchanged ⟨.sample, .root⟩ t.now
          ((Drive.run ⟨.sample, .root⟩ before sampleRenewing).2.awaiting t.replies)
          (Drive.turn ⟨.sample, .root⟩ t
            (Drive.run ⟨.sample, .root⟩ before sampleRenewing).2).2 x := by
  have hurls : ((Drive.run ⟨.sample, .root⟩ sampleRun sampleRenewing).2.exchanges.map
      fun x => x.1.url.text) = ["http://h/refresh_token", "http://h/list_files?folder_id=0"] := by
    decide +kernel
  obtain ⟨xs, hxs, hexchanged⟩ :=
    exchanged_of_run ⟨.sample, .root⟩ sample_plain sampleRun sampleRenewing
  rw [show sampleRenewing.exchanges = [] from rfl, List.nil_append] at hxs
  exact ⟨xs, hxs, hxs ▸ hurls, hexchanged⟩

end Drive
end RemoteDrive
