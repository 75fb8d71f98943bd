import RemoteDrive.Proofs.Drive.Listing
import RemoteDrive.Proofs.Url.Query

/-!
# What the operations on one object say and give

A link, a new folder, another name and a deletion each take one request, and with a token that lasts
it is the only one. What the request says is settled by the arguments, and the reply settles the
rest: the operation fails as the reply does, and otherwise gives what the envelope carries
(`Executes`). A link can fail in one more way, because an envelope may carry no address
(`LinkSettled`).

One thing keeps a request from being sent although its base is all right. The identifier of a link
is part of the URL, and a URL that is too long for a request is not sent (`exec_link_unsent`). The
other three have their arguments in a form, which has no such limit.
-/

set_option autoImplicit false

namespace RemoteDrive

/-! ## The requests -/

namespace Client

variable {c : Client} {token : String} {e : Endpoint}

/-- A question is the call of its path, with one pair in the query. -/
theorem exists_question (h : c.Serves e.path) (htoken : isHeaderValue token = true)
    (name value : String) :
    ∃ place, c.question token e name value = .ok (place.withPair name value) ∧
      c.Asks e.method e.path none place ∧ place.Bears token ∧ place.url.isSendable = true := by
  obtain ⟨r, hbuilt, hasks, hbears, hsend⟩ := exists_borne h htoken e.method e.profile
  exact ⟨r, hbuilt (·.withPair name value), hasks, hbears, hsend⟩

theorem exists_filled (h : c.Serves e.path) (htoken : isHeaderValue token = true)
    (form : List (String × String)) :
    ∃ r, c.filled token e form = .ok r ∧ c.Asks e.method e.path (some form) r ∧
      r.Bears token ∧ r.url.isSendable = true := by
  obtain ⟨r, hbuilt, hasks, hbears, hsend⟩ := exists_borne h htoken e.method e.profile
  exact ⟨r.withForm form, hbuilt (·.withForm form), ⟨hasks.method, hasks.url, rfl⟩, hbears, hsend⟩

end Client

/-! ## The answers -/

/-- The payload carries this address: under the first key, or under the second if there is none under
the first. -/
def Envelope.Links (e : Envelope) (url : String) : Prop :=
  e.Carries "download_link" url ∨
    (∀ other, ¬ e.Carries "download_link" other) ∧ e.Carries "url" url

namespace Drive

/-- The step makes this request and no other, keeps the tokens, and tells the host this answer. -/
def Settles (d : Drive) (now : Instant) (l : Live) (step : Step) (r : Request)
    (answer : Except Fault Outcome) : Prop :=
  ∃ lines l', (d.perform step).exec now l =
      (answer.mapError fun why => .failed ⟨lines, why⟩, l') ∧
    l'.tokens = l.tokens ∧ l'.exchanges = l.exchanges ++ [(r, l.nextReply)]

/-- The answer is a failure exactly if the reply is, and the same one; otherwise it is what the
envelope gives. -/
structure Executes (family : EndpointFamily) (r : Request) (reply : Reply)
    (Gives : Envelope → Outcome → Prop) (answer : Except Fault Outcome) : Prop where
  failed : ∀ why, answer = .error why ↔ Verdict family r reply (.error why)
  passed : ∀ e, Verdict family r reply (.ok e) → ∃ outcome, answer = .ok outcome ∧ Gives e outcome

/-- The answer to a link: the address that the envelope carries, or a failure, which is that of the
reply or the lack of an address. -/
structure LinkSettled (agent : String) (r : Request) (reply : Reply)
    (answer : Except Fault Outcome) : Prop where
  given : ∀ outcome, answer = .ok outcome ↔ ∃ e url, Verdict .service r reply (.ok e) ∧
    e.Links url ∧ outcome = .link ⟨url, [("User-Agent", agent)]⟩
  failed : ∀ why, answer = .error why ↔ Verdict .service r reply (.error why) ∨
    why = .linkUnavailable ∧ ∃ e, Verdict .service r reply (.ok e) ∧ ∀ url, ¬ e.Links url
  unavailable : answer = .error .linkUnavailable ↔
    ∃ e, Verdict .service r reply (.ok e) ∧ ∀ url, ¬ e.Links url
  nonempty : ∀ a, answer = .ok (.link a) → a.url ≠ ""

section Answers

variable {d : Drive} {now : Instant} {l : Live} {step : Step} {job : Job} {call : Call Outcome}
  {r : Request} {reply : Reply} {family : EndpointFamily} {e : Envelope} {url : String}

theorem settles_of_call (hjob : step.job? = some job)
    (hcall : job.call? d.client now = some call) {t : Tokens} (ht : l.tokens = some t)
    (hlasting : t.isExpired now = false) (haccepts : l.peer.accepts = true)
    (hr : call.request t.accessToken = .ok r) (hsend : r.url.isSendable = true) :
    d.Settles now l step r ((Client.answered call.family r l.nextReply).bind call.read) := by
  have hreached : Client.reaching l.peer.accepts (call.request t.accessToken) = .ok r := by
    rw [hr, haccepts, Client.reaching_of_sendable hsend]
  obtain ⟨l', hexec, htokens, hsent⟩ := exec_perform_held hjob hcall ht hlasting
  rw [Call.exchanged_of_reaching hreached] at hsent
  rw [Call.outcome, hreached] at hexec
  exact ⟨[job.context], l', hexec, htokens, hsent⟩

theorem executes_of_read {Gives : Envelope → Outcome → Prop} {read : Envelope → Outcome}
    (h : ∀ e, Gives e (read e)) :
    Executes family r reply Gives
      ((Client.answered family r reply).bind fun e => .ok (read e)) := by
  constructor
  · intro why
    rw [Client.verdict_iff]
    cases Client.answered family r reply with
    | error why' => simp [Except.bind, eq_comm]
    | ok e => exact iff_of_false (fun h => by cases h) (fun h => by cases h)
  · intro e he
    rw [← Client.verdict_iff.mp he]
    exact ⟨read e, rfl, h e⟩

theorem downloadUrl_eq_ok_iff : downloadUrl e = .ok url ↔ e.Links url := by
  simp only [Envelope.Links, ← Envelope.dataText?_eq_some_iff, downloadUrl]
  cases e.dataText? "download_link" with
  | some link => simp
  | none => cases e.dataText? "url" <;> simp

theorem downloadUrl_eq_error_iff {why : Fault} :
    downloadUrl e = .error why ↔ why = .linkUnavailable ∧ ∀ url, ¬ e.Links url := by
  simp only [← downloadUrl_eq_ok_iff]
  unfold downloadUrl
  split <;> simp [eq_comm]

theorem ne_empty_of_links (h : e.Links url) : url ≠ "" := by
  rcases h with ⟨_, -, -, hne⟩ | ⟨-, _, -, -, hne⟩
  · exact hne
  · exact hne

theorem not_verdict_linkUnavailable : ¬ Verdict family r reply (.error .linkUnavailable) := by
  intro h
  have hkind := h.kind_mem
  simp [Fault.kind] at hkind

/-- What a link comes to. -/
def linkAnswer (agent : String) (r : Request) (reply : Reply) : Except Fault Outcome :=
  (Client.answered .service r reply).bind fun e =>
    (fun url => .link ⟨url, [("User-Agent", agent)]⟩) <$> downloadUrl e

theorem linkAnswer_eq_ok_iff {agent : String} {outcome : Outcome} :
    linkAnswer agent r reply = .ok outcome ↔ ∃ e url, Verdict .service r reply (.ok e) ∧
      e.Links url ∧ outcome = .link ⟨url, [("User-Agent", agent)]⟩ := by
  simp only [linkAnswer, Client.verdict_iff, ← downloadUrl_eq_ok_iff]
  cases Client.answered .service r reply with
  | error why => simp [Except.bind]
  | ok e =>
    cases hurl : downloadUrl e with
    | error why => simp [Except.bind, hurl]
    | ok url => simp [Except.bind, hurl, eq_comm]

theorem linkAnswer_eq_error_iff {agent : String} {why : Fault} :
    linkAnswer agent r reply = .error why ↔ Verdict .service r reply (.error why) ∨
      why = .linkUnavailable ∧ ∃ e, Verdict .service r reply (.ok e) ∧ ∀ url, ¬ e.Links url := by
  simp only [linkAnswer, Client.verdict_iff]
  cases Client.answered .service r reply with
  | error why' => simp [Except.bind, eq_comm]
  | ok e =>
    simp only [reduceCtorEq, false_or, Except.ok.injEq, exists_eq_left, ← downloadUrl_eq_error_iff]
    cases hurl : downloadUrl e <;> simp [Except.bind, hurl]

theorem linkSettled (agent : String) (r : Request) (reply : Reply) :
    LinkSettled agent r reply (linkAnswer agent r reply) where
  given _ := linkAnswer_eq_ok_iff
  failed _ := linkAnswer_eq_error_iff
  unavailable := by
    rw [linkAnswer_eq_error_iff, or_iff_right not_verdict_linkUnavailable, and_iff_right rfl]
  nonempty a ha := by
    obtain ⟨e, url, -, hlinks, heq⟩ := linkAnswer_eq_ok_iff.mp ha
    cases heq
    exact ne_empty_of_links hlinks

end Answers

/-! ## The operations -/

section Operations

variable {d : Drive} {now : Instant} {l : Live} {t : Tokens}

/-- A link whose URL cannot be sent fails, and nothing is sent. -/
theorem exec_link_unsent {file : RemoteId} {r : Request} (ht : l.tokens = some t)
    (hlasting : t.isExpired now = false)
    (hr : d.client.question t.accessToken .link "file_id" file.text = .ok r)
    (hunsent : ¬ r.url.isSendable = true) :
    ∃ lines l', (d.perform (.link file)).exec now l =
        (.error (.failed ⟨lines, .notBuilt (some r.url.text)⟩), l') ∧
      l'.tokens = l.tokens ∧ l'.exchanges = l.exchanges := by
  have hjob : (Step.link file).job? = some (.link file) := rfl
  obtain ⟨l', hexec, htokens, hsent⟩ := exec_perform_held (d := d) hjob rfl ht hlasting
  have hunreached : Client.reaching l.peer.accepts
      (d.client.question t.accessToken .link "file_id" file.text) =
        .error (.notBuilt (some r.url.text)) := by
    rw [hr, Client.reaching, if_neg hunsent]
  simp only [Call.outcome, Call.exchanged, hunreached, List.append_nil] at hexec hsent
  exact ⟨[.linking file], l', hexec, htokens, hsent⟩

/-- **What is asked for one object is said in one request, and answered by its reply.** With a token
that lasts, each of the four operations makes the one request that says what is wanted, and fails
exactly if its reply does, if a link without an address is left aside. Only a link whose URL is too
long is not asked for at all. -/
theorem objects_settled (d : Drive) (now : Instant) (l : Live) (t : Tokens)
    (ht : l.tokens = some t) (hlasting : t.isExpired now = false)
    (htoken : isHeaderValue t.accessToken = true) (haccepts : l.peer.accepts = true)
    (hserves : ∀ e ∈ [Endpoint.link, .makeDir, .rename, .remove], d.client.Serves e.path) :
    (∀ file : RemoteId, ∃ place r, d.client.Asks .get "/get_download_url" none place ∧
      r = place.withPair "file_id" file.text ∧ r.Bears t.accessToken ∧
      (r.url.text.utf8ByteSize ≤ Url.lengthLimit →
        ∃ answer, d.Settles now l (.link file) r answer ∧
          LinkSettled d.client.userAgent r l.nextReply answer) ∧
      (Url.lengthLimit < r.url.text.utf8ByteSize →
        ∃ lines l', (d.perform (.link file)).exec now l =
            (.error (.failed ⟨lines, .notBuilt (some r.url.text)⟩), l') ∧
          l'.tokens = l.tokens ∧ l'.exchanges = l.exchanges)) ∧
    (∀ parent name, Name.fault? name = none → ∃ r answer,
      d.client.Asks .post "/create_folder"
        (some [("parent_id", RemoteId.text parent), ("name", name)]) r ∧
      r.Bears t.accessToken ∧ d.Settles now l (.makeDir parent name) r answer ∧
      Executes .operation r l.nextReply (fun e outcome => ∃ id,
        Json.FirstOr Listing.idText? ["folder_id", "id"] e.data "" id ∧
        outcome = .object ⟨id, name, 0, now, true⟩) answer) ∧
    (∀ o name, Name.fault? name = none → ∃ r answer,
      d.client.Asks .post "/rename_item" (some [("id", RemoteObject.id o),
        ("type", if o.isFolder then "folder" else "file"), ("new_name", name)]) r ∧
      r.Bears t.accessToken ∧ d.Settles now l (.rename o name) r answer ∧
      Executes .operation r l.nextReply (fun _ outcome =>
        outcome = .object ⟨o.id, name, o.size, now, o.isFolder⟩) answer) ∧
    ∀ o, ∃ r answer,
      d.client.Asks .post "/delete_item" (some [("id", RemoteObject.id o),
        ("type", if o.isFolder then "folder" else "file")]) r ∧
      r.Bears t.accessToken ∧ d.Settles now l (.remove o) r answer ∧
      Executes .operation r l.nextReply (fun _ outcome => outcome = .done) answer := by
  refine ⟨?_, ?_, ?_, ?_⟩
  · intro file
    obtain ⟨place, hr, hasks, hbears, hsend⟩ :=
      Client.exists_question (hserves .link (by simp)) htoken "file_id" file.text
    have hsendable := Url.isSendable_withPair hsend "file_id" file.text
    have hjob : (Step.link file).job? = some (.link file) := rfl
    refine ⟨place, _, hasks, rfl, hbears, fun hlength => ?_, fun hlength => ?_⟩
    · exact ⟨_, settles_of_call hjob rfl ht hlasting haccepts hr (hsendable.mpr hlength),
        linkSettled _ _ _⟩
    · exact exec_link_unsent ht hlasting hr fun h => Nat.not_le.mpr hlength (hsendable.mp h)
  · intro parent name hname
    have hjob : (Step.makeDir parent name).job? = some (.makeDir parent name) := by
      rw [Step.job?, if_pos hname]
    obtain ⟨r, hr, hasks, hbears, hsend⟩ := Client.exists_filled (hserves .makeDir (by simp)) htoken
      [("parent_id", parent.text), ("name", name)]
    refine ⟨r, _, hasks, hbears, settles_of_call hjob rfl ht hlasting haccepts hr hsend, ?_⟩
    exact executes_of_read fun e => ⟨_, Json.firstOr_iff.mpr rfl, rfl⟩
  · intro o name hname
    have hjob : (Step.rename o name).job? = some (.rename o name) := by
      rw [Step.job?, if_pos hname]
    obtain ⟨r, hr, hasks, hbears, hsend⟩ := Client.exists_filled (hserves .rename (by simp)) htoken
      (objectForm o ++ [("new_name", name)])
    refine ⟨r, _, hasks, hbears, settles_of_call hjob rfl ht hlasting haccepts hr hsend, ?_⟩
    exact executes_of_read fun _ => rfl
  · intro o
    have hjob : (Step.remove o).job? = some (.remove o) := rfl
    obtain ⟨r, hr, hasks, hbears, hsend⟩ := Client.exists_filled (hserves .remove (by simp)) htoken
      (objectForm o)
    refine ⟨r, _, hasks, hbears, settles_of_call hjob rfl ht hlasting haccepts hr hsend, ?_⟩
    exact executes_of_read fun _ => rfl

/-! ### Samples -/

/-- An answer with an empty address and another that is not. -/
def sampleLinked : Reply := Session.answering
  "\x7b\"data\":\x7b\"download_link\":\"\",\"url\":\"http://u\"\x7d\x7d"

theorem sample_serves_objects :
    ∀ e ∈ [Endpoint.link, .makeDir, .rename, .remove], Session.sample.client.Serves e.path := by
  intro e he
  simp only [List.mem_cons, List.not_mem_nil, or_false] at he
  rcases he with rfl | rfl | rfl | rfl
  · exact ⟨⟨"http", "", none, some "h", none, "/get_download_url", none, none⟩, by decide +kernel,
      by decide, by decide +kernel⟩
  · exact ⟨⟨"http", "", none, some "h", none, "/create_folder", none, none⟩, by decide +kernel,
      by decide, by decide +kernel⟩
  · exact ⟨⟨"http", "", none, some "h", none, "/rename_item", none, none⟩, by decide +kernel,
      by decide, by decide +kernel⟩
  · exact ⟨⟨"http", "", none, some "h", none, "/delete_item", none, none⟩, by decide +kernel,
      by decide, by decide +kernel⟩

theorem sampleLinked_links (r : Request) :
    ∃ e, Verdict .service r sampleLinked (.ok e) ∧ e.Links "http://u" := by
  have hurl : (Client.answered .service Client.sampleRequest sampleLinked).toOption.map
      (fun e => (e.dataText? "download_link", e.dataText? "url")) =
        some (none, some "http://u") := by
    decide +kernel
  obtain ⟨e, hverdict, hlook⟩ := exists_passed hurl r
  obtain ⟨hnone, hsome⟩ := Prod.mk.inj hlook
  refine ⟨e, hverdict, .inr ⟨fun other hother => ?_, Envelope.dataText?_eq_some_iff.mp hsome⟩⟩
  cases hnone.symm.trans (Envelope.dataText?_eq_some_iff.mpr hother)

theorem objects_settled_linked : ∃ r, r.method = .get ∧ r.Bears "t" ∧
    Drive.Settles ⟨.sample, .root⟩ .epoch (sampleMoving sampleLinked) (.link .root) r
      (.ok (.link ⟨"http://u", [("User-Agent", Session.sample.client.userAgent)]⟩)) := by
  obtain ⟨place, r, hasks, rfl, hbears, hshort, -⟩ := (objects_settled ⟨.sample, .root⟩ .epoch
    (sampleMoving sampleLinked) ⟨"t", none, (Instant.epoch.addSeconds? 60).getD .epoch⟩ rfl
    (by decide +kernel) (by decide) rfl sample_serves_objects).1 .root
  have hparse : Url.parse? (Session.sample.client.baseUrl ++ "/get_download_url") =
      some ⟨"http", "", none, some "h", none, "/get_download_url", none, none⟩ := by
    decide +kernel
  have hlength : (place.url.withPair "file_id" RemoteId.root.text).text.utf8ByteSize ≤
      Url.lengthLimit := by
    obtain ⟨u, hu, hplace⟩ := hasks.url
    cases hparse.symm.trans hu
    rcases hplace with h | h <;> rw [h] <;> decide +kernel
  obtain ⟨answer, hsettles, hlink⟩ := hshort hlength
  obtain ⟨e, he, hlinks⟩ := sampleLinked_links (place.withPair "file_id" RemoteId.root.text)
  rw [(hlink.given _).mpr ⟨e, _, he, hlinks, rfl⟩] at hsettles
  exact ⟨place.withPair "file_id" RemoteId.root.text, hasks.method, hbears, hsettles⟩

/-- An identifier of so many letters and one more. -/
def lettersId (n : Nat) : RemoteId where
  text := String.ofList (List.replicate (n + 1) 'a')
  ne_empty h := by
    rw [String.ofList_eq_empty_iff, List.replicate_succ] at h
    cases h
  no_blank := by
    rw [String.toList_ofList, List.any_replicate, if_neg (Nat.succ_ne_zero n)]
    decide

theorem length_lettersId (n : Nat) : (lettersId n).text.length = n + 1 := by
  rw [lettersId, String.length_ofList, List.length_replicate]

/-- **A link that is too long is not asked for**, although the token lasts, the service is there and
its answer would carry an address. -/
theorem link_unsent_long :
    Session.holdsValid .epoch (sampleMoving sampleLinked) ∧
      (sampleMoving sampleLinked).peer.accepts = true ∧
      Session.sample.client.Serves linkPath ∧
      (∃ e, Verdict .service Client.sampleRequest sampleLinked (.ok e) ∧ e.Links "http://u") ∧
      ∃ lines url l', (Drive.perform ⟨.sample, .root⟩ (.link (lettersId 65534))).exec .epoch
          (sampleMoving sampleLinked) = (.error (.failed ⟨lines, .notBuilt (some url)⟩), l') ∧
        l'.exchanges = [] := by
  have hserves : Session.sample.client.Serves Endpoint.link.path :=
    sample_serves_objects .link (by simp)
  have htoken : isHeaderValue "t" = true := by decide
  obtain ⟨place, hr, -, -, hsend⟩ :=
    Client.exists_question hserves htoken "file_id" (lettersId 65534).text
  have hlength := Url.length_le_withPair place.url "file_id" (lettersId 65534).text
  rw [length_lettersId] at hlength
  have hunsent : ¬ (place.url.withPair "file_id" (lettersId 65534).text).isSendable = true := by
    rw [Url.isSendable_withPair hsend]
    exact Nat.not_le.mpr hlength
  have hheld : (sampleMoving sampleLinked).tokens =
      some ⟨"t", none, (Instant.epoch.addSeconds? 60).getD .epoch⟩ := rfl
  have hlasting : Tokens.isExpired .epoch
      ⟨"t", none, (Instant.epoch.addSeconds? 60).getD .epoch⟩ = false := by
    decide +kernel
  obtain ⟨lines, l', hexec, -, hnone⟩ :=
    exec_link_unsent (d := ⟨.sample, .root⟩) hheld hlasting hr hunsent
  exact ⟨by unfold Session.holdsValid; rfl, rfl, hserves, sampleLinked_links _, lines, _, l', hexec,
    hnone⟩

end Operations

end Drive
end RemoteDrive
