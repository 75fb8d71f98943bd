import RemoteDrive.Proofs.Drive.Objects
import RemoteDrive.Proofs.Drive.Requests
import RemoteDrive.Proofs.Url.Form

/-!
# Identifiers in a query

Two operations name their object in the query of the request, where other operations use a form: the
listing of a folder and the link to a file (`Inquiry`). An identifier may hold any character that is
no white space, so it may hold those by which a query is cut into pairs, and the character that ends
a query.

None of them has this meaning in what is sent. The query is written by `Form.encode`, and what that
writes is read back as it was (`Form.decode_encode`). What is left to see is that the written pair is
the whole query. It is put behind the query that the URL has already; but a path of this library
brings none, and a base without query has none below it either (`query_of_request`).
-/

set_option autoImplicit false

namespace RemoteDrive

/-! ## The place of a request -/

/-- What a request is built for: the place of its URL, without the user that it may name. -/
theorem Request.url_of_make {method : Method} {url agent : String} {timeout : UInt64} {r : Request}
    (h : make method url agent timeout = .ok r) :
    ∃ u, Url.parse? url = some u ∧ (r.url = u ∨ r.url = u.withoutUser) := by
  unfold make at h
  split at h
  · cases h
  rename_i u hu
  split at h
  · split at h
    · cases h
      exact ⟨u, hu, .inl rfl⟩
    · cases h
      exact ⟨u, hu, .inr rfl⟩
  · cases h

namespace Client

variable {c : Client} {e : Endpoint} {r : Request}

/-- The base URL has neither query nor fragment. -/
def Unqueried (c : Client) : Prop :=
  ∃ b, Url.parse? c.baseUrl = some b ∧ b.query = none ∧ b.fragment = none

theorem query_of_request (hc : c.Unqueried) (h : c.request e.method e.path e.profile = .ok r) :
    r.url.query = none ∧
      ∃ u, Url.parse? (c.baseUrl ++ e.path) = some u ∧ r.url.path = u.path := by
  obtain ⟨b, hb, hquery, hfragment⟩ := hc
  obtain ⟨u, hu, hurl⟩ := Request.url_of_make h
  have hnone := Url.query_below hb hquery hfragment e.isPlainPath_path hu
  rcases hurl with hurl | hurl <;> rw [hurl] <;> exact ⟨hnone, u, hu, rfl⟩

/-- The place to which a question goes is settled before the token and the parameter are put in. -/
theorem url_of_question {token name value : String} (h : c.question token e name value = .ok r) :
    ∃ place, c.request e.method e.path e.profile = .ok place ∧
      r.url = place.url.withPair name value := by
  obtain ⟨place, hplace, h⟩ := bind_eq_ok h
  obtain ⟨borne, hborne, h⟩ := bind_eq_ok h
  obtain ⟨-, rfl⟩ := Request.withHeader_eq_ok hborne
  cases h
  exact ⟨place, hplace, rfl⟩

end Client

/-! ## The two operations -/

/-- An operation that names its object in the query. -/
inductive Inquiry where
  | list
  | link
deriving DecidableEq

namespace Inquiry

def step (id : RemoteId) : Inquiry → Drive.Step
  | .list => .list id
  | .link => .link id

def endpoint : Inquiry → Endpoint
  | .list => .list
  | .link => .link

/-- The name under which the identifier is sent. -/
def parameter : Inquiry → String
  | .list => "folder_id"
  | .link => "file_id"

def job (id : RemoteId) : Inquiry → Job
  | .list => .list id
  | .link => .link id

variable {i : Inquiry}

theorem parameter?_endpoint : i.endpoint.parameter? = some i.parameter := by
  cases i <;> rfl

theorem job?_step (id : RemoteId) : (i.step id).job? = some (i.job id) := by
  cases i <;> rfl

theorem requests_job (id : RemoteId) (c : Client) (token : String) :
    (i.job id).requests c token =
      [fun r => c.question token i.endpoint i.parameter id.text = .ok r] := by
  cases i <;> rfl

theorem request_of_call {id : RemoteId} {c : Client} {now : Instant} {call : Call Drive.Outcome}
    (h : (i.job id).call? c now = some call) (token : String) :
    call.request token = c.question token i.endpoint i.parameter id.text := by
  cases i <;> (cases h; rfl)

theorem exists_call (id : RemoteId) (c : Client) (now : Instant) :
    ∃ call, (i.job id).call? c now = some call := by
  cases i <;> exact ⟨_, rfl⟩

end Inquiry

namespace Drive

variable {d : Drive} {i : Inquiry} {id id' : RemoteId} {r r' : Request}

/-- In some situation the drive sends this request for the operation, besides those of its
session. -/
def Poses (d : Drive) (i : Inquiry) (id : RemoteId) (r : Request) : Prop :=
  ∃ now l xs reply, ((d.perform (i.step id)).exec now l).2.exchanges = l.exchanges ++ xs ∧
    (r, reply) ∈ xs ∧ ¬ d.session.Own r

theorem question_of_poses (h : d.Poses i id r) :
    ∃ token, d.client.question token i.endpoint i.parameter id.text = .ok r := by
  obtain ⟨now, l, xs, reply, hxs, hmem, hown⟩ := h
  obtain ⟨session, own, hsent, hsession, howns⟩ :=
    exchanges_of_perform (Eq.refl ((d.perform (i.step id)).exec now l))
  obtain rfl := List.append_cancel_left (hsent.symm.trans hxs)
  have hmem' : (r, reply) ∈ own := (List.mem_append.mp hmem).resolve_left fun h =>
    hown (hsession _ h)
  rcases howns with rfl | ⟨token, m, -, hsupplied⟩
  · cases hmem'
  · obtain ⟨job, hjob, hkinds⟩ := hsupplied.requests
    obtain rfl := Option.some.inj ((Inquiry.job?_step id).symm.trans hjob)
    obtain ⟨kind, hkind, hr⟩ := hkinds.exists_kind hmem'
    rw [Inquiry.requests_job, List.mem_singleton] at hkind
    subst hkind
    exact ⟨token, hr⟩

/-- Where such a request goes; the place is the same for all identifiers. -/
theorem place_of_poses (hc : d.client.Unqueried) (h : d.Poses i id r) :
    ∃ place, d.client.request i.endpoint.method i.endpoint.path i.endpoint.profile = .ok place ∧
      r.url = { place.url with query := some (Form.encode [(i.parameter, id.text)]) } := by
  obtain ⟨token, hr⟩ := question_of_poses h
  obtain ⟨place, hplace, hurl⟩ := Client.url_of_question hr
  obtain ⟨hquery, -⟩ := Client.query_of_request hc hplace
  refine ⟨place, hplace, ?_⟩
  rw [hurl, Url.withPair, hquery]

theorem form_injective {name : String} (h : Form.encode [(name, id.text)] =
    Form.encode [(name, id'.text)]) : id = id' := by
  have hpairs := congrArg Form.decode h
  rw [Form.decode_encode, Form.decode_encode] at hpairs
  obtain ⟨text, _, _⟩ := id
  obtain ⟨text', _, _⟩ := id'
  obtain rfl : text = text' := by simpa using hpairs
  rfl

/-- What an operation sends once it has a token: one request, if its URL is not too long. -/
theorem exchanges_of_inquiry {now : Instant} {l m : Live} {token : String}
    (hasked : d.session.ensureValid.exec now l = (.ok token, m))
    (htoken : isHeaderValue token = true) (haccepts : m.peer.accepts = true)
    (hserves : d.client.Serves i.endpoint.path) (id : RemoteId) :
    ∃ r, d.client.question token i.endpoint i.parameter id.text = .ok r ∧
      ((d.perform (i.step id)).exec now l).2.exchanges = m.exchanges ++
        if r.url.text.utf8ByteSize ≤ Url.lengthLimit then [(r, m.nextReply)] else [] := by
  obtain ⟨place, hr, -, -, hsend⟩ :=
    Client.exists_question hserves htoken i.parameter id.text
  refine ⟨_, hr, ?_⟩
  obtain ⟨call, hcall⟩ := Inquiry.exists_call id d.client now
  obtain ⟨k, halike, hexec⟩ := exec_perform (Inquiry.job?_step id) hasked
  obtain ⟨-, hsent⟩ := (plan_makes token hcall).run m
  obtain ⟨-, hafter⟩ := (d.plan token now (i.job id)).run_alike halike
  rw [hexec]
  show ((d.plan token now (i.job id)).run k).2.exchanges = _
  rw [← hafter.exchanges, hsent, Call.exchanged, Inquiry.request_of_call hcall, hr, haccepts]
  -- the peer is reached exactly if the URL can be sent
  have hsendable : (place.withPair i.parameter id.text).url.isSendable = true ↔ _ :=
    Url.isSendable_withPair hsend i.parameter id.text
  by_cases hlength : (place.withPair i.parameter id.text).url.text.utf8ByteSize ≤ Url.lengthLimit
  · rw [Client.reaching_of_sendable (hsendable.mpr hlength), if_pos hlength]
  · simp only [Client.reaching, if_neg fun h => hlength (hsendable.mp h), if_neg hlength]

/-- **An identifier is one value of one parameter, whatever characters it holds.** Below a base
without query and fragment, the query of a listing or a link is read as the one pair of its parameter
and its identifier. Nothing else in the URL depends on the identifier, so that different identifiers
have different queries and nothing more. The request is sent if only the URL is not too long. -/
theorem inquiry_decodes (d : Drive) (hc : d.client.Unqueried) (i : Inquiry) :
    (∀ id r, d.Poses i id r →
      ∃ u q, Url.parse? (d.client.baseUrl ++ i.endpoint.path) = some u ∧ r.url.path = u.path ∧
        r.url.query = some q ∧ Form.decode q = [(i.parameter, id.text)]) ∧
    (∀ id id' r r', d.Poses i id r → d.Poses i id' r' →
      r.url = { r'.url with query := r.url.query } ∧ (r.url.query = r'.url.query ↔ id = id')) ∧
    ∀ id now l token m, d.session.ensureValid.exec now l = (.ok token, m) →
      isHeaderValue token = true → m.peer.accepts = true → d.client.Serves i.endpoint.path →
      ∃ r, d.client.question token i.endpoint i.parameter id.text = .ok r ∧
        ((d.perform (i.step id)).exec now l).2.exchanges = m.exchanges ++
          (if r.url.text.utf8ByteSize ≤ Url.lengthLimit then [(r, m.nextReply)] else []) ∧
        (r.url.text.utf8ByteSize ≤ Url.lengthLimit → d.Poses i id r) := by
  refine ⟨?_, ?_, ?_⟩
  · intro id r h
    obtain ⟨place, hplace, hurl⟩ := place_of_poses hc h
    obtain ⟨-, u, hu, hpath⟩ := Client.query_of_request hc hplace
    refine ⟨u, _, hu, ?_, ?_, Form.decode_encode _⟩
    · rw [hurl, ← hpath]
    · rw [hurl]
  · intro id id' r r' h h'
    obtain ⟨place, hplace, hurl⟩ := place_of_poses hc h
    obtain ⟨place', hplace', hurl'⟩ := place_of_poses hc h'
    obtain rfl : place = place' := Except.ok.inj (hplace.symm.trans hplace')
    rw [hurl, hurl']
    refine ⟨rfl, fun hquery => form_injective (Option.some.inj hquery), ?_⟩
    rintro rfl
    rfl
  · intro id now l token m hasked htoken haccepts hserves
    obtain ⟨r, hr, hsent⟩ := exchanges_of_inquiry hasked htoken haccepts hserves id
    refine ⟨r, hr, hsent, fun hlength => ?_⟩
    obtain ⟨session, hsession, -⟩ := (Session.extends_of_ensureValid hasked).exchanges
    have hbears := bears_of_objectRequest
      (Client.objectRequest_of_question Inquiry.parameter?_endpoint hr)
    rw [if_pos hlength, hsession, List.append_assoc] at hsent
    exact ⟨now, l, _, m.nextReply, hsent, by simp, not_own_of_bears hbears⟩

/-- An identifier of marks, with a control character, a letter of two bytes and one of four. -/
def sampleMarks : RemoteId := ⟨"&id=0#%26+\u0001ž𝄞", by decide, by decide +kernel⟩

/-- A session of a service at a base with a user. -/
def sampleGuest : Session := ⟨.ofBaseUrl "http://u@h/", ⟨"key", "secret"⟩⟩

/-- All marks are sent as one value. -/
theorem inquiry_decodes_marks : ∃ r q, Drive.Poses ⟨sampleGuest, .root⟩ .list sampleMarks r ∧
    r.url.query = some q ∧ Form.decode q = [("folder_id", "&id=0#%26+\u0001ž𝄞")] := by
  have hbase : sampleGuest.client.Unqueried :=
    ⟨⟨"http", "u", none, some "h", none, "/", none, none⟩, by decide +kernel, rfl, rfl⟩
  have hserves : sampleGuest.client.Serves Endpoint.list.path :=
    ⟨⟨"http", "u", none, some "h", none, "/list_files", none, none⟩, by decide +kernel, by decide,
      by decide +kernel⟩
  have hasked : sampleGuest.ensureValid.exec .epoch (sampleMoving .closed) =
      (.ok "t", sampleMoving .closed) := by
    rw [Session.exec_ensureValid_held (by unfold Session.holdsValid; rfl), Session.exec_handOut rfl]
  have hshort : (sampleGuest.client.question "t" .list "folder_id" sampleMarks.text).toOption.map
      (fun r => decide (r.url.text.utf8ByteSize ≤ Url.lengthLimit)) = some true := by
    decide +kernel
  obtain ⟨hdecode, -, hsends⟩ := inquiry_decodes ⟨sampleGuest, .root⟩ hbase .list
  obtain ⟨r, hr, -, hposes⟩ :=
    hsends sampleMarks .epoch _ "t" _ hasked (by decide) rfl hserves
  rw [show sampleGuest.client.question "t" .list "folder_id" sampleMarks.text = .ok r from hr]
    at hshort
  have hposed := hposes (of_decide_eq_true (Option.some.inj hshort))
  obtain ⟨u, q, -, -, hq, hpairs⟩ := hdecode sampleMarks r hposed
  exact ⟨r, q, hposed, hq, hpairs⟩

end Drive
end RemoteDrive
