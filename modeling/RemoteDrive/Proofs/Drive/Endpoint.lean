import RemoteDrive.Proofs.Exchange
import RemoteDrive.Proofs.Drive.Job

/-!
# The endpoints of the service

The service offers ten calls, two of them to the session and eight to the drive. What distinguishes
them for one who looks at the requests is little: method and path, the name of a parameter in the
query, and the names of the fields of a form (`Endpoint`).

A job sends nothing but requests of the eight that are built with its token (`ObjectRequest`), it
does not touch the tokens (`work_steady`), and it tells the log of none (`work_quiet`). The proof goes
through the jobs once (`work_leads`); whatever later has to be known of the requests of a job is a
consequence of how such a request is built.
-/

set_option autoImplicit false

namespace RemoteDrive

/-- The calls that the service offers. -/
inductive Endpoint where
  | authenticate
  | refresh
  | list
  | link
  | makeDir
  | move
  | rename
  | remove
  /-- The first step of an upload. -/
  | announce
  /-- The second step of an upload. -/
  | confirm
deriving DecidableEq

namespace Endpoint

def method : Endpoint → Method
  | .authenticate | .list | .link => .get
  | .refresh | .makeDir | .move | .rename | .remove | .announce | .confirm => .post

def path : Endpoint → String
  | .authenticate => Session.authenticatePath
  | .refresh => Session.refreshPath
  | .list => Drive.listPath
  | .link => Drive.linkPath
  | .makeDir => Drive.makeDirPath
  | .move => Drive.movePath
  | .rename => Drive.renamePath
  | .remove => Drive.removePath
  | .announce => Upload.initiatePath
  | .confirm => Upload.completePath

/-- How long a call may take. -/
def profile : Endpoint → CallProfile
  | .announce | .confirm => .upload
  | _ => .standard

/-- The name of the parameter in the query, for the two endpoints that have one. -/
def parameter? : Endpoint → Option String
  | .list => some "folder_id"
  | .link => some "file_id"
  | _ => none

/-- The names of the fields of the form, for those that have one. -/
def form? : Endpoint → Option (List String)
  | .authenticate | .list | .link => none
  | .refresh => some ["refresh_token"]
  | .makeDir => some ["parent_id", "name"]
  | .move => some ["id", "type", "target_id"]
  | .rename => some ["id", "type", "new_name"]
  | .remove => some ["id", "type"]
  | .announce => some ["hash", "filename", "filesize", "folder"]
  | .confirm => some ["hash", "filename", "filesize", "folder", "csrf_token", "file_key"]

/-- The endpoint is one for the drive. -/
def isForObjects (e : Endpoint) : Bool := e != .authenticate && e != .refresh

end Endpoint

/-- A request of a drive with this token: it has a parameter in its query or a form. -/
inductive Client.ObjectRequest (c : Client) (token : String) (e : Endpoint) (r : Request) : Prop
  | query (name value : String) (hname : e.parameter? = some name)
    (h : (do
      let r ← c.request e.method e.path e.profile
      let r ← r.withBearer token
      return r.withPair name value) = .ok r)
  | form (form : List (String × String)) (hobjects : e.isForObjects = true)
    (hnames : e.form? = some (form.map Prod.fst))
    (h : (do
      let r ← c.request e.method e.path e.profile
      let r ← r.withBearer token
      return r.withForm form) = .ok r)

namespace Drive

variable {α : Type} (d : Drive) (token : String)

/-- The drive's own requests with this token. -/
def Sends (r : Request) : Prop := ∃ e, d.client.ObjectRequest token e r

section Path

variable {d token} {T : Live → Live → Prop}

theorem inside_leads {act : Act Failure α} (c : Context) (h : act.Leads T) :
    (inside c act).Leads T :=
  h.mapFailure (Failure.within c)

theorem lift_leads {act : Act Fault α} (h : act.Leads T) : (lift act).Leads T :=
  h.mapFailure Failure.ofFault

theorem allReports_tokenless (entries : Json) :
    ∀ e ∈ Listing.allReports entries, e.Tokenless := by
  intro e he
  obtain ⟨entry, -, he⟩ := List.mem_flatMap.mp he
  unfold Listing.reports Listing.unreadableTime at he
  split at he
  · split at he
    · rw [List.mem_singleton.mp he]
      exact Event.tokenless_iff.mpr rfl
    · cases he
  · cases he

theorem idReport_tokenless (file : UploadDescriptor) (e : Envelope) :
    ∀ event ∈ Upload.idReport file e, event.Tokenless := by
  intro event hevent
  unfold Upload.idReport at hevent
  split at hevent
  · rw [List.mem_singleton.mp hevent]
    exact Event.tokenless_iff.mpr rfl
  · cases hevent

variable (hT : Live.Path (d.Sends token) T)
include hT

/-- A question at one of the two endpoints with a parameter. -/
theorem query_leads {e : Endpoint} {name : String} (hname : e.parameter? = some name)
    (hmethod : e.method = .get) (hprofile : e.profile = .standard) (value : String)
    (family : EndpointFamily) : (d.query token e.path name value family).Leads T := by
  refine lift_leads (hT.execute (fun r hr => ⟨e, .query name value hname ?_⟩) family)
  rw [hmethod, hprofile]
  exact hr

/-- A form for one of the others. -/
theorem post_leads {e : Endpoint} (form : List (String × String))
    (hobjects : e.isForObjects = true) (hnames : e.form? = some (form.map Prod.fst))
    (hmethod : e.method = .post) (hprofile : e.profile = .standard) :
    (d.post token e.path form).Leads T := by
  refine lift_leads (hT.execute (fun r hr => ⟨e, .form form hobjects hnames ?_⟩) .operation)
  rw [hmethod, hprofile]
  exact hr

theorem initiate_leads (file : UploadDescriptor) :
    (Upload.initiate d.client token file).Leads T := by
  refine hT.bind (hT.log _ rfl) fun _ => hT.bind (hT.execute (fun r hr => ?_) _) fun e => ?_
  · exact ⟨.announce, .form _ rfl rfl hr⟩
  · exact hT.ofExcept _

theorem complete_leads (file : UploadDescriptor) (t : UploadTicket) :
    (Upload.complete d.client token file t).Leads T := by
  refine hT.bind (hT.execute (fun r hr => ⟨.confirm, .form _ rfl rfl hr⟩) _) fun e => ?_
  refine hT.bind (hT.logAll (idReport_tokenless file e)) fun _ => ?_
  exact hT.bind hT.now fun now => hT.pure _

theorem begin_leads (job : Job) : (d.begin token job).Leads T := by
  cases job with
  | list dir =>
    have hquery := query_leads hT (e := .list) rfl rfl rfl dir.text .operation
    refine hT.bind (hT.bind ?_ fun os => hT.pure _) fun outcome => hT.pure _
    refine hT.bind (hT.log _ rfl) fun _ => hT.bind (inside_leads _ hquery) fun e => ?_
    refine hT.bind (hT.logAll (allReports_tokenless _)) fun _ => hT.bind hT.now fun now => ?_
    exact hT.bind (hT.log _ rfl) fun _ => hT.pure _
  | link file =>
    have hquery := query_leads hT (e := .link) rfl rfl rfl file.text .service
    refine hT.bind (hT.bind ?_ fun l => hT.pure _) fun outcome => hT.pure _
    refine hT.bind (hT.log _ rfl) fun _ => inside_leads _ (hT.bind hquery fun e => ?_)
    exact hT.bind (lift_leads (hT.ofExcept _)) fun url => hT.pure _
  | makeDir parent name =>
    have hpost := post_leads hT (e := .makeDir)
      [("parent_id", parent.text), ("name", name)] rfl rfl rfl rfl
    refine hT.bind (hT.bind (inside_leads _ ?_) fun o => hT.pure _) fun _ => hT.pure _
    refine hT.bind hpost fun e => hT.bind hT.now fun now => ?_
    exact hT.bind (hT.log _ rfl) fun _ => hT.pure _
  | move o target =>
    have hpost := post_leads hT (e := .move)
      (objectForm o ++ [("target_id", target.text)]) rfl rfl rfl rfl
    refine hT.bind (hT.bind (inside_leads _ ?_) fun o => hT.pure _) fun _ => hT.pure _
    exact hT.bind hpost fun _ => hT.bind hT.now fun _ => hT.pure _
  | rename o name =>
    have hpost := post_leads hT (e := .rename)
      (objectForm o ++ [("new_name", name)]) rfl rfl rfl rfl
    refine hT.bind (hT.bind (inside_leads _ ?_) fun o => hT.pure _) fun _ => hT.pure _
    exact hT.bind hpost fun _ => hT.bind hT.now fun _ => hT.pure _
  | remove o =>
    have hpost := post_leads hT (e := .remove) (objectForm o) rfl rfl rfl rfl
    refine hT.bind (hT.bind (inside_leads _ ?_) fun _ => ?_) fun _ => hT.pure _
    · exact hT.bind hpost fun _ => hT.pure _
    · exact hT.bind (hT.log _ rfl) fun _ => hT.pure _
  | put target name s =>
    refine inside_leads _ ?_
    exact hT.bind (lift_leads (initiate_leads hT _)) fun ticket => hT.pure _

theorem finish_leads (leg : Leg) : (d.finish token leg).Leads T := by
  cases leg with
  | finished outcome => exact hT.pure _
  | announced file ticket =>
    refine inside_leads _ (hT.bind (lift_leads (complete_leads hT file ticket)) fun o => ?_)
    exact hT.bind (lift_leads (hT.log _ rfl)) fun _ => hT.pure _

theorem work_leads (job : Job) : (d.work token job).Leads T := by
  rw [work_eq]
  exact hT.bind (begin_leads hT job) fun leg => finish_leads hT leg

end Path

theorem begin_steady (job : Job) : (d.begin token job).Steady (d.Sends token) :=
  begin_leads (Live.Steady.path _) job

theorem finish_steady (leg : Leg) : (d.finish token leg).Steady (d.Sends token) :=
  finish_leads (Live.Steady.path _) leg

/-- **A job keeps the tokens and sends its own requests with its token.** -/
theorem work_steady (job : Job) : (d.work token job).Steady (d.Sends token) :=
  work_leads (Live.Steady.path _) job

/-- **And it tells the log of no token.** -/
theorem work_quiet (job : Job) : (d.work token job).Leads Live.Quiet :=
  work_leads (Live.Quiet.path (d.Sends token)) job

end Drive
end RemoteDrive
