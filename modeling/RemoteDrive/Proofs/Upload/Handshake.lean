import RemoteDrive.Upload.Handshake
import RemoteDrive.Proofs.Plan
import RemoteDrive.Proofs.Session.Renewal

/-!
# The two steps of an upload

The second step is taken with what the first reply has given, and only if that is all there. So the
whole of an upload is settled by the verdict on the first reply, by two texts in its payload
(`Envelope.Carries`), and by the verdict on the second reply. `transfer_follows` writes this down as
a plan; what is sent in a situation, and what comes of it, is then read off the plan.
-/

set_option autoImplicit false

namespace RemoteDrive

namespace Envelope

variable {e : Envelope} {key text : String}

/-- The payload has this text under the key, and it is not empty. -/
def Carries (e : Envelope) (key text : String) : Prop :=
  ∃ payload, e.root.field? "data" = some payload ∧ payload.field? key = some (.text text) ∧
    text ≠ ""

theorem data_of_field {payload : Json} (h : e.root.field? "data" = some payload) :
    e.data = payload := by
  rw [data, field, Json.fieldOrNull, h]
  rfl

theorem data_of_no_field (h : e.root.field? "data" = none) : e.data = .null := by
  rw [data, field, Json.fieldOrNull, h]
  rfl

theorem dataText?_eq_some_iff : e.dataText? key = some text ↔ e.Carries key text := by
  constructor
  · intro h
    obtain ⟨h, hne⟩ := Option.filter_eq_some_iff.mp h
    obtain ⟨found, hfound, htext⟩ := Option.bind_eq_some_iff.mp h
    cases hdata : e.root.field? "data" with
    | none =>
      rw [data_of_no_field hdata] at hfound
      cases hfound
    | some payload =>
      rw [data_of_field hdata] at hfound
      cases found with
      | text t =>
        cases htext
        exact ⟨payload, hdata, hfound, by simpa using hne⟩
      | null | bool | number | array | object => cases htext
  · rintro ⟨payload, hdata, hfound, hne⟩
    simp [dataText?, data_of_field hdata, hfound, Json.text?, hne]

end Envelope

/-- No verdict on a reply is that an upload could not be begun. -/
theorem Verdict.kind_ne {family : EndpointFamily} {r : Request} {reply : Reply} {why : Fault}
    (h : Verdict family r reply (.error why)) : why.kind ≠ .uploadInit := by
  intro hkind
  have hmem := h.kind_mem
  simp [hkind] at hmem

/-- A request to a path that is served can be given a token, and whatever is put into it then. -/
theorem Client.exists_borne {c : Client} {token path : String} (h : c.Serves path)
    (htoken : isHeaderValue token = true) (method : Method) (profile : CallProfile) :
    ∃ r, (∀ f : Request → Request, (do
        let r ← c.request method path profile
        let r ← r.withBearer token
        return f r) = Except.ok (f r)) ∧
      c.Asks method path none r ∧ ("authorization", "Bearer " ++ token) ∈ r.headers ∧
      r.url.isSendable = true := by
  obtain ⟨r, hr, hasks, hsend⟩ := exists_request h method profile
  have hbearer : isHeaderValue ("Bearer " ++ token) = true := by
    rw [isHeaderValue_bearer, htoken]
  refine ⟨{ r with headers := r.headers ++ [("authorization", "Bearer " ++ token)] }, fun f => ?_,
    ⟨hasks.method, hasks.url, hasks.form⟩, ?_, hsend⟩
  · simp only [hr, Request.withBearer, Request.withHeader, hbearer, if_true]
    rfl
  · exact List.mem_append_right _ List.mem_cons_self

namespace Upload

variable {c : Client} {token path : String} {d : UploadDescriptor} {e : Envelope}

theorem ticket_eq_ok_iff {t : UploadTicket} :
    ticket e = .ok t ↔ e.Carries "csrf_token" t.csrfToken ∧ e.Carries "file_key" t.fileKey := by
  rw [← Envelope.dataText?_eq_some_iff, ← Envelope.dataText?_eq_some_iff]
  unfold ticket
  cases e.dataText? "csrf_token" with
  | none => simp
  | some csrf =>
    cases e.dataText? "file_key" with
    | none => simp
    | some key =>
      cases t
      simp

theorem kind_of_ticket {why : Fault} (h : ticket e = .error why) : why.kind = .uploadInit := by
  unfold ticket at h
  split at h <;> cases h <;> rfl

theorem exists_formRequest (h : c.Serves path) (htoken : isHeaderValue token = true)
    (form : List (String × String)) :
    ∃ r, formRequest c token path form = .ok r ∧ r.url.isSendable = true ∧
      c.Asks .post path (some form) r := by
  obtain ⟨r, hbuilt, hasks, -, hsend⟩ := Client.exists_borne h htoken .post .upload
  exact ⟨r.withForm form, hbuilt (·.withForm form), hsend, hasks.method, hasks.url, rfl⟩

theorem asks_of_formRequest {form : List (String × String)} {r : Request} (h : c.Serves path)
    (htoken : isHeaderValue token = true) (hr : formRequest c token path form = .ok r) :
    c.Asks .post path (some form) r := by
  obtain ⟨r', hr', -, hasks⟩ := exists_formRequest h htoken form
  rwa [← Except.ok.inj (hr.symm.trans hr')] at hasks

/-! ## What is going to be done -/

def announced (d : UploadDescriptor) : Event :=
  .debug "Initiating upload" [("name", d.name), ("folder", d.folder.text), ("hash", d.hash)]

def completed (o : RemoteObject) : Event :=
  .info "Upload completed" [
    ("name", o.name), ("size", Decimal.nat o.size.toNat), ("id", o.id)]

/-- The second step, if there is a ticket for it. -/
def confirmation (c : Client) (token : String) (d : UploadDescriptor) (now : Instant) :
    Except Fault UploadTicket → Plan RemoteObject
  | .error why => .done (.error why)
  | .ok t =>
    .ask (formRequest c token completePath (d.form ++ t.form)) .upload fun e =>
    .noteAll (idReport d e) <| .note (completed (uploaded d now e)) <|
    .done (.ok (uploaded d now e))

def plan (c : Client) (token : String) (d : UploadDescriptor) (now : Instant) :
    Plan RemoteObject :=
  .note (announced d) <| .ask (formRequest c token initiatePath d.form) .upload fun e =>
  confirmation c token d now (ticket e)

theorem transfer_follows (c : Client) (token : String) (d : UploadDescriptor) (now : Instant) :
    Follows id now (transfer c token d) (plan c token d now) := by
  unfold transfer initiate complete
  simp only [bind_assoc, pure_bind]
  apply Follows.log
  apply Follows.execute
  intro e
  cases ticket e with
  | error why => exact fun l => rfl
  | ok t =>
    apply Follows.execute
    intro e
    apply Follows.logAll
    apply Follows.atMoment
    apply Follows.log
    exact .pure _

/-- The request is the first step for this file. -/
def Announces (c : Client) (token : String) (d : UploadDescriptor) (r : Request) : Prop :=
  formRequest c token initiatePath d.form = .ok r

/-- The request is the second step for this file, with some ticket. -/
def Confirms (c : Client) (token : String) (d : UploadDescriptor) (r : Request) : Prop :=
  ∃ t : UploadTicket, formRequest c token completePath (d.form ++ t.form) = .ok r

theorem plan_sends (c : Client) (token : String) (d : UploadDescriptor) (now : Instant) :
    (plan c token d now).Sends [Announces c token d, Confirms c token d] := by
  refine .note (.ask (fun r hr => hr) fun e => ?_)
  cases ticket e with
  | error why => exact .done _ _
  | ok t => exact .ask (fun r hr => ⟨t, hr⟩) fun e => .noteAll _ (.note (.done _ _))

theorem plan_gives (c : Client) (token : String) (d : UploadDescriptor) (now : Instant) :
    (plan c token d now).Gives fun o =>
      o.isFolder = false ∧ o.name = d.name ∧ o.size = d.size := by
  refine .note (.ask fun e => ?_)
  cases ticket e with
  | error why =>
    refine .done fun o h => ?_
    cases h
  | ok t =>
    refine .ask fun e => .noteAll _ (.note (.done fun o h => ?_))
    cases h
    exact ⟨rfl, rfl, rfl⟩

/-! ## What comes of it -/

/-- The reply to the first step passes, and gives these two texts. -/
def Grants (r : Request) (reply : Reply) (csrf key : String) : Prop :=
  ∃ e, Verdict .upload r reply (.ok e) ∧ e.Carries "csrf_token" csrf ∧ e.Carries "file_key" key

theorem grants_iff {r : Request} {reply : Reply} {csrf key : String}
    (h : Verdict .upload r reply (.ok e)) :
    Grants r reply csrf key ↔ ticket e = .ok ⟨csrf, key⟩ := by
  rw [ticket_eq_ok_iff]
  constructor
  · rintro ⟨e', h', hcsrf, hkey⟩
    cases h.unique h'
    exact ⟨hcsrf, hkey⟩
  · rintro ⟨hcsrf, hkey⟩
    exact ⟨e, h, hcsrf, hkey⟩

theorem not_grants {r : Request} {reply : Reply} {csrf key : String} {why : Fault}
    (h : Verdict .upload r reply (.error why)) : ¬ Grants r reply csrf key := by
  rintro ⟨e, h', -, -⟩
  cases h.unique h'

/-- Every way in which an upload can go once it is announced. -/
inductive TransferCourse (c : Client) (token : String) (d : UploadDescriptor) (now : Instant)
    (l : Live) (announce : Request) : Except Fault RemoteObject → Live → Prop
  | refused {why : Fault} {l' : Live}
    (hfirst : Verdict .upload announce l.nextReply (.error why))
    (hsent : l'.exchanges = l.exchanges ++ [(announce, l.nextReply)]) :
    TransferCourse c token d now l announce (.error why) l'
  | ungranted {e : Envelope} {why : Fault} {l' : Live}
    (hfirst : Verdict .upload announce l.nextReply (.ok e)) (hticket : ticket e = .error why)
    (hsent : l'.exchanges = l.exchanges ++ [(announce, l.nextReply)]) :
    TransferCourse c token d now l announce (.error why) l'
  | unconfirmed {e : Envelope} {t : UploadTicket} {confirm : Request} {why : Fault} {l' : Live}
    (hfirst : Verdict .upload announce l.nextReply (.ok e)) (hticket : ticket e = .ok t)
    (hconfirm : formRequest c token completePath (d.form ++ t.form) = .ok confirm)
    (hsecond : Verdict .upload confirm (l.heard announce).nextReply (.error why))
    (hsent : l'.exchanges = l.exchanges ++
      [(announce, l.nextReply), (confirm, (l.heard announce).nextReply)]) :
    TransferCourse c token d now l announce (.error why) l'
  | confirmed {e e' : Envelope} {t : UploadTicket} {confirm : Request} {l' : Live}
    (hfirst : Verdict .upload announce l.nextReply (.ok e)) (hticket : ticket e = .ok t)
    (hconfirm : formRequest c token completePath (d.form ++ t.form) = .ok confirm)
    (hsecond : Verdict .upload confirm (l.heard announce).nextReply (.ok e'))
    (hsent : l'.exchanges = l.exchanges ++
      [(announce, l.nextReply), (confirm, (l.heard announce).nextReply)]) :
    TransferCourse c token d now l announce (.ok (uploaded d now e')) l'

section Course

variable {now : Instant} {l : Live} {announce : Request}

theorem plan_course (hcomplete : c.Serves completePath) (htoken : isHeaderValue token = true)
    (haccepts : l.peer.accepts = true)
    (hannounce : formRequest c token initiatePath d.form = .ok announce)
    (hsend : announce.url.isSendable = true) :
    TransferCourse c token d now l announce ((plan c token d now).run l).1
      ((plan c token d now).run l).2 := by
  have hreaching : ∀ {r : Request}, r.url.isSendable = true →
      Client.reaching l.peer.accepts (.ok r) = .ok r := by
    intro r hr
    rw [haccepts, Client.reaching_of_sendable hr]
  have hr : Client.reaching (l.add (.logged (announced d))).peer.accepts
      (formRequest c token initiatePath d.form) = .ok announce := by
    rw [hannounce]
    exact hreaching hsend
  have hsent : ((l.add (.logged (announced d))).heard announce).exchanges =
      l.exchanges ++ [(announce, l.nextReply)] := by
    simp
  rw [plan, Plan.run, Plan.run_ask hr, Live.nextReply_add]
  cases hfirst : Client.answered .upload announce l.nextReply with
  | error why =>
    replace hfirst := Client.verdict_iff.mpr hfirst.symm
    exact .refused hfirst hsent
  | ok e =>
    replace hfirst := Client.verdict_iff.mpr hfirst.symm
    cases hticket : ticket e with
    | error why =>
      simp only [hticket, confirmation, Plan.run]
      exact .ungranted hfirst hticket hsent
    | ok t =>
      obtain ⟨confirm, hconfirm, hsend', -⟩ :=
        exists_formRequest hcomplete htoken (d.form ++ t.form)
      have hr' : Client.reaching ((l.add (.logged (announced d))).heard announce).peer.accepts
          (formRequest c token completePath (d.form ++ t.form)) = .ok confirm := by
        rw [hconfirm]
        exact hreaching hsend'
      -- the announcement in the log changes nothing in what the peer answers
      have hreply : ((l.add (.logged (announced d))).heard announce).nextReply =
          (l.heard announce).nextReply := rfl
      simp only [hticket, confirmation]
      rw [Plan.run_ask hr', hreply]
      cases hsecond : Client.answered .upload confirm (l.heard announce).nextReply with
      | error why =>
        replace hsecond := Client.verdict_iff.mpr hsecond.symm
        exact .unconfirmed hfirst hticket hconfirm hsecond (by simp [hreply])
      | ok e' =>
        replace hsecond := Client.verdict_iff.mpr hsecond.symm
        obtain ⟨k, halike, hrun⟩ := Plan.run_noteAll (idReport d e')
          (.note (completed (uploaded d now e')) (.done (.ok (uploaded d now e'))))
          (((l.add (.logged (announced d))).heard announce).heard confirm)
        simp only [hrun, Plan.run]
        exact .confirmed hfirst hticket hconfirm hsecond (by simp [← halike.exchanges, hreply])

namespace TransferCourse

variable {result : Except Fault RemoteObject} {l' : Live}

/-- A granted upload is confirmed with what the grant says. -/
theorem of_grants {csrf key : String} (hcomplete : c.Serves completePath)
    (htoken : isHeaderValue token = true) (h : TransferCourse c token d now l announce result l')
    (hgrants : Grants announce l.nextReply csrf key) :
    ∃ confirm, c.Asks .post completePath
        (some (d.form ++ [("csrf_token", csrf), ("file_key", key)])) confirm ∧
      l'.exchanges = l.exchanges ++
        [(announce, l.nextReply), (confirm, (l.heard announce).nextReply)] ∧
      ((∃ o, result = .ok o) ↔
        ∃ e, Verdict .upload confirm (l.heard announce).nextReply (.ok e)) := by
  cases h with
  | refused hfirst => exact absurd hgrants (not_grants hfirst)
  | ungranted hfirst hticket =>
    rw [grants_iff hfirst, hticket] at hgrants
    cases hgrants
  | unconfirmed hfirst hticket hconfirm hsecond hsent =>
    rw [grants_iff hfirst, hticket] at hgrants
    cases hgrants
    refine ⟨_, asks_of_formRequest hcomplete htoken hconfirm, hsent, by simp, ?_⟩
    rintro ⟨e, he⟩
    cases hsecond.unique he
  | confirmed hfirst hticket hconfirm hsecond hsent =>
    rw [grants_iff hfirst, hticket] at hgrants
    cases hgrants
    exact ⟨_, asks_of_formRequest hcomplete htoken hconfirm, hsent, fun _ => ⟨_, hsecond⟩,
      fun _ => ⟨_, rfl⟩⟩

/-- Without a grant it ends after the announcement. -/
theorem of_not_grants (h : TransferCourse c token d now l announce result l')
    (hnone : ∀ csrf key, ¬ Grants announce l.nextReply csrf key) :
    l'.exchanges = l.exchanges ++ [(announce, l.nextReply)] ∧ ∀ o, result ≠ .ok o := by
  cases h with
  | refused hfirst hsent | ungranted hfirst hticket hsent => exact ⟨hsent, by simp⟩
  | unconfirmed hfirst hticket | confirmed hfirst hticket =>
    exact absurd ((grants_iff hfirst).mpr hticket) (hnone _ _)

/-- What is wrong with a ticket is told of an announcement that passes, and of nothing else. -/
theorem uploadInit_iff (h : TransferCourse c token d now l announce result l') :
    (∃ why, result = .error why ∧ why.kind = .uploadInit) ↔
      (∃ e, Verdict .upload announce l.nextReply (.ok e)) ∧
        ∀ csrf key, ¬ Grants announce l.nextReply csrf key := by
  cases h with
  | refused hfirst =>
    constructor
    · rintro ⟨why, hwhy, hkind⟩
      cases hwhy
      exact absurd hkind hfirst.kind_ne
    · rintro ⟨⟨e, he⟩, -⟩
      cases hfirst.unique he
  | ungranted hfirst hticket =>
    constructor
    · refine fun _ => ⟨⟨_, hfirst⟩, fun csrf key hgrants => ?_⟩
      rw [grants_iff hfirst, hticket] at hgrants
      cases hgrants
    · exact fun _ => ⟨_, rfl, kind_of_ticket hticket⟩
  | unconfirmed hfirst hticket hconfirm hsecond =>
    constructor
    · rintro ⟨why, hwhy, hkind⟩
      cases hwhy
      exact absurd hkind hsecond.kind_ne
    · rintro ⟨-, hnone⟩
      exact absurd ((grants_iff hfirst).mpr hticket) (hnone _ _)
  | confirmed hfirst hticket =>
    constructor
    · rintro ⟨why, hwhy, -⟩
      cases hwhy
    · rintro ⟨-, hnone⟩
      exact absurd ((grants_iff hfirst).mpr hticket) (hnone _ _)

end TransferCourse

end Course

/-- **An upload is announced once, and confirmed once if the announcement is granted.** -/
theorem transfer_handshake (c : Client) (token : String) (d : UploadDescriptor) (now : Instant)
    (l : Live) (hinitiate : c.Serves initiatePath) (hcomplete : c.Serves completePath)
    (htoken : isHeaderValue token = true) (haccepts : l.peer.accepts = true) :
    ∃ result l' announce, (transfer c token d).exec now l = (result, l') ∧
      l'.tokens = l.tokens ∧
      c.Asks .post initiatePath (some [("hash", d.hash), ("filename", d.name),
        ("filesize", Decimal.nat d.size.toNat), ("folder", d.folder.text)]) announce ∧
      (∀ csrf key, Grants announce l.nextReply csrf key → ∃ confirm,
        c.Asks .post completePath
          (announce.form.map (· ++ [("csrf_token", csrf), ("file_key", key)])) confirm ∧
        l'.exchanges = l.exchanges ++
          [(announce, l.nextReply), (confirm, (l.heard announce).nextReply)] ∧
        ((∃ o, result = .ok o) ↔
          ∃ e, Verdict .upload confirm (l.heard announce).nextReply (.ok e))) ∧
      ((∀ csrf key, ¬ Grants announce l.nextReply csrf key) →
        l'.exchanges = l.exchanges ++ [(announce, l.nextReply)] ∧ ∀ o, result ≠ .ok o) ∧
      ((∃ why, result = .error (.failed why) ∧ why.kind = .uploadInit) ↔
        (∃ e, Verdict .upload announce l.nextReply (.ok e)) ∧
          ∀ csrf key, ¬ Grants announce l.nextReply csrf key) ∧
      ∀ o, result = .ok o → o.isFolder = false ∧ o.name = d.name ∧ o.size = d.size := by
  obtain ⟨announce, hannounce, hsend, hasks⟩ := exists_formRequest hinitiate htoken d.form
  have hcourse : TransferCourse c token d now l announce _ _ :=
    plan_course hcomplete htoken haccepts hannounce hsend
  have htokens := (plan c token d now).run_tokens l
  have hgives := fun o => (plan_gives c token d now).of_run (l := l) (a := o)
  have hexec := transfer_follows c token d now l
  generalize (plan c token d now).run l = out at hcourse htokens hgives hexec
  obtain ⟨result, l'⟩ := out
  -- a failure is told as it is, so the parts are those of the course
  have hok : ∀ o, result.mapError (Stop.failed ∘ id) = .ok o ↔ result = .ok o :=
    fun o => mapError_eq_ok_iff
  refine ⟨_, l', announce, hexec, htokens, hasks, ?_, ?_, ?_, ?_⟩
  · intro csrf key hgrants
    simp only [hasks.form, hok]
    exact hcourse.of_grants hcomplete htoken hgrants
  · intro hnone
    simp only [Ne, hok]
    exact hcourse.of_not_grants hnone
  · rw [← hcourse.uploadInit_iff]
    cases result <;> simp [Except.mapError]
  · intro o ho
    exact hgives o ((hok o).mp ho)

/-- A file without content. -/
def sampleFile : UploadDescriptor := ⟨"d41d8cd98f00b204e9800998ecf8427e", "a.txt", 0, .root⟩

def sampleTicket : Reply := Session.answering
  "\x7b\"data\":\x7b\"csrf_token\":\"c\",\"file_key\":\"k\"\x7d\x7d"

def sampleUploaded : Reply := Session.answering "\x7b\"data\":\x7b\"file_id\":7\x7d\x7d"

theorem sampleTicket_grants (r : Request) : Grants r sampleTicket "c" "k" := by
  have htexts : ((Client.answered .upload Client.sampleRequest sampleTicket).toOption.map
      fun e => (e.dataText? "csrf_token", e.dataText? "file_key")) = some (some "c", some "k") := by
    decide +kernel
  obtain ⟨e, hverdict, hlook⟩ := exists_passed htexts r
  obtain ⟨hcsrf, hkey⟩ := Prod.mk.inj hlook
  exact ⟨e, hverdict, Envelope.dataText?_eq_some_iff.mp hcsrf,
    Envelope.dataText?_eq_some_iff.mp hkey⟩

theorem sample_serves_initiate : Session.sample.client.Serves initiatePath :=
  ⟨⟨"http", "", none, some "h", none, "/first_upload", none, none⟩, by decide +kernel, by decide,
    by decide +kernel⟩

theorem sample_serves_complete : Session.sample.client.Serves completePath :=
  ⟨⟨"http", "", none, some "h", none, "/ok_upload", none, none⟩, by decide +kernel, by decide,
    by decide +kernel⟩

theorem transfer_handshake_ticketed : ∃ l' announce confirm,
    (transfer Session.sample.client "t" sampleFile).exec .epoch
        ⟨none, ⟨true, [sampleTicket, sampleUploaded]⟩, []⟩ =
      (.ok (.file "7" "a.txt" 0 .epoch), l') ∧
      l'.exchanges = [(announce, sampleTicket), (confirm, sampleUploaded)] ∧
      announce.form = some [("hash", "d41d8cd98f00b204e9800998ecf8427e"), ("filename", "a.txt"),
        ("filesize", "0"), ("folder", "0")] ∧
      confirm.form = announce.form.map (· ++ [("csrf_token", "c"), ("file_key", "k")]) := by
  have hfile : ((transfer Session.sample.client "t" sampleFile).exec .epoch
      ⟨none, ⟨true, [sampleTicket, sampleUploaded]⟩, []⟩).1 =
        .ok (.file "7" "a.txt" 0 .epoch) := by
    decide +kernel
  obtain ⟨result, l', announce, hexec, -, hannounce, hgranted, -⟩ :=
    transfer_handshake Session.sample.client "t" sampleFile .epoch
      ⟨none, ⟨true, [sampleTicket, sampleUploaded]⟩, []⟩ sample_serves_initiate
      sample_serves_complete (by decide) rfl
  obtain ⟨confirm, hconfirm, hsent, -⟩ := hgranted "c" "k" (sampleTicket_grants announce)
  rw [hexec] at hfile
  obtain rfl := hfile
  exact ⟨l', announce, confirm, hexec, hsent, hannounce.form, hconfirm.form⟩

end Upload

end RemoteDrive
