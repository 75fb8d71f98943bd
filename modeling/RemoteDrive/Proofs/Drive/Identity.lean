import RemoteDrive.Proofs.Drive.Listing

/-!
# Identifiers that are told

The service tells an identifier in one of several places, and the object of the host has the one from
the first place that has any. A number is one, and so is a text, and here lies a trap: the empty text
counts as well. It ends the search and leaves the object without an identifier, whatever stands in
the places behind it.

So an object has an identifier exactly if one of its places has one and no place before that holds an
empty text (`Listing.Found`). This is the same for the entries of a listing, for a new folder and
for an uploaded file, which differ only in their places (`Drive.identified_iff_found`).
-/

set_option autoImplicit false

namespace RemoteDrive

/-- What an identifier can be written in: a number, or a text that is not empty. -/
def Json.IsId (j : Json) : Prop := (∃ n, j = .number n) ∨ ∃ s, j = .text s ∧ s ≠ ""

theorem Decimal.nat_ne_empty (n : Nat) : Decimal.nat n ≠ "" := by
  rw [Decimal.nat, Ne, String.ofList_eq_empty_iff]
  exact Nat.toDigits_ne_nil

theorem append_ne_empty {s t : String} (h : t ≠ "") : s ++ t ≠ "" := by
  rw [Ne, String.append_eq_empty_iff]
  exact fun hboth => h hboth.2

namespace Listing

/-- One of the places has an identifier, and there is no empty text before it. -/
def Found (places : List (Option Json)) : Prop :=
  ∃ before v after, places = before ++ some v :: after ∧ v.IsId ∧ some (.text "") ∉ before

/-- The identifier in the first place that has any. -/
def idIn (places : List (Option Json)) : String := (places.findSome? (·.bind idText?)).getD ""

section Places

variable {places : List (Option Json)} {p : Option Json} {v : Json}

theorem idText?_of_number (n : JsonNumber) : ∃ id, idText? (.number n) = some id ∧ id ≠ "" := by
  cases n with
  | natural n => exact ⟨_, rfl, Decimal.nat_ne_empty _⟩
  | integer n =>
    refine ⟨_, rfl, ?_⟩
    cases n.toInt with
    | ofNat n => exact Decimal.nat_ne_empty n
    | negSucc n => exact append_ne_empty (Decimal.nat_ne_empty (n + 1))
  | real x => exact ⟨_, rfl, append_ne_empty (Decimal.nat_ne_empty _)⟩

theorem isId_iff : v.IsId ↔ ∃ id, idText? v = some id ∧ id ≠ "" := by
  cases v with
  | number n => exact iff_of_true (.inl ⟨n, rfl⟩) (idText?_of_number n)
  | text s => simp [Json.IsId, idText?]
  | null | bool | array | object => simp [Json.IsId, idText?]

/-- Only the empty text is an empty identifier. -/
theorem idText?_eq_empty_iff : idText? v = some "" ↔ v = .text "" := by
  cases v with
  | number n =>
    obtain ⟨id, hid, hne⟩ := idText?_of_number n
    simp [hid, hne]
  | text s => simp [idText?]
  | null | bool | array | object => simp [idText?]

theorem idIn_cons_none (h : p.bind idText? = none) : idIn (p :: places) = idIn places := by
  rw [idIn, List.findSome?_cons, h]
  rfl

theorem idIn_cons_some {id : String} (h : p.bind idText? = some id) :
    idIn (p :: places) = id := by
  rw [idIn, List.findSome?_cons, h]
  rfl

/-- A place that tells nothing is passed over. -/
theorem found_cons_iff (h : p.bind idText? = none) : Found (p :: places) ↔ Found places := by
  constructor
  · rintro ⟨before, v, after, heq, hv, hbefore⟩
    cases before with
    | nil =>
      cases heq
      obtain ⟨id, hid, -⟩ := isId_iff.mp hv
      cases h.symm.trans hid
    | cons q before =>
      cases heq
      exact ⟨before, v, after, rfl, hv, fun hmem => hbefore (List.mem_cons_of_mem _ hmem)⟩
  · rintro ⟨before, v, after, rfl, hv, hbefore⟩
    refine ⟨p :: before, v, after, rfl, hv, fun hmem => ?_⟩
    rcases List.mem_cons.mp hmem with rfl | hmem
    · cases h
    · exact hbefore hmem

/-- Nothing is found behind an empty text. -/
theorem not_found_behind_empty : ¬ Found (some (.text "") :: places) := by
  rintro ⟨before, v, after, heq, hv, hbefore⟩
  cases before with
  | nil =>
    cases heq
    rcases hv with ⟨n, hn⟩ | ⟨s, hs, hne⟩
    · cases hn
    · cases hs
      exact hne rfl
  | cons q before =>
    cases heq
    exact hbefore List.mem_cons_self

/-- **The first place that tells anything decides.** -/
theorem idIn_ne_empty_iff : idIn places ≠ "" ↔ Found places := by
  induction places with
  | nil =>
    refine iff_of_false (fun h => h rfl) ?_
    rintro ⟨before, v, after, heq, -⟩
    cases before <;> cases heq
  | cons p places ih =>
    cases hp : p.bind idText? with
    | none => rw [idIn_cons_none hp, found_cons_iff hp, ih]
    | some id =>
      rw [idIn_cons_some hp]
      obtain ⟨v, rfl, hv⟩ := Option.bind_eq_some_iff.mp hp
      by_cases hid : id = ""
      · subst hid
        obtain rfl := idText?_eq_empty_iff.mp hv
        exact iff_of_false (fun h => h rfl) not_found_behind_empty
      · exact iff_of_true hid ⟨[], v, places, rfl, isId_iff.mpr ⟨id, hv, hid⟩, List.not_mem_nil⟩

/-- Where no place holds an empty text, whatever is told is found. -/
theorem found_iff_of_no_empty (h : some (.text "") ∉ places) :
    Found places ↔ ∃ v, some v ∈ places ∧ v.IsId := by
  constructor
  · rintro ⟨before, v, after, rfl, hv, -⟩
    exact ⟨v, by simp, hv⟩
  · rintro ⟨v, hmem, hv⟩
    obtain ⟨before, after, rfl⟩ := List.append_of_mem hmem
    exact ⟨before, v, after, rfl, hv, fun hbefore => h (List.mem_append_left _ hbefore)⟩

theorem findId?_eq_idIn (keys : List String) (j : Json) :
    (findId? keys j).getD "" = idIn (keys.map (j.field? ·)) := by
  rw [idIn, List.findSome?_map]
  rfl

end Places

end Listing

/-! ## Uploaded files -/

namespace Upload

open Listing (Found idIn)

variable {c : Client} {token : String} {d : UploadDescriptor} {t : UploadTicket} {now : Instant}
  {l l' : Live} {e : Envelope}

/-- Where an answer to the second step can tell the identifier. -/
def idPlaces (e : Envelope) : List (Option Json) :=
  [e.data.field? "file_id", e.data.field? "id", e.root.field? "file_id"]

theorem fileId_eq_idIn : fileId e = idIn (idPlaces e) := by
  rw [fileId, idPlaces, idIn, Envelope.field, ← Drive.bind_idText?]
  simp only [Listing.findId?, Json.firstOf, List.findSome?_cons, List.findSome?_nil]
  cases (e.data.field? "file_id").bind Listing.idText? with
  | some id => rfl
  | none =>
    cases (e.data.field? "id").bind Listing.idText? with
    | some id => rfl
    | none => cases (e.root.field? "file_id").bind Listing.idText? <;> rfl

/-- The second step as one call. -/
def confirming (c : Client) (d : UploadDescriptor) (t : UploadTicket) (now : Instant) :
    Call RemoteObject where
  request token := formRequest c token completePath (d.form ++ t.form)
  family := .upload
  read e := .ok (uploaded d now e)

theorem complete_follows (c : Client) (token : String) (d : UploadDescriptor) (t : UploadTicket)
    (now : Instant) : ∃ p, Follows id now (complete c token d t) p ∧
      p.Makes (confirming c d t now) token := by
  refine ⟨.ask (formRequest c token completePath (d.form ++ t.form)) .upload fun e =>
    .noteAll (idReport d e) <| .done (.ok (uploaded d now e)), ?_, .ask fun e => .noteAll _ .done⟩
  unfold complete
  apply Follows.execute
  intro e
  apply Follows.logAll
  apply Follows.atMoment
  exact .pure _

theorem confirmation_makes (c : Client) (token : String) (d : UploadDescriptor) (t : UploadTicket)
    (now : Instant) : (confirmation c token d now (.ok t)).Makes (confirming c d t now) token :=
  .ask fun _ => .noteAll _ (.note .done)

/-- A confirmation that passes gives the file that it speaks of. -/
theorem exec_complete {r : Request}
    (hr : Client.reaching l.peer.accepts (formRequest c token completePath (d.form ++ t.form)) =
      .ok r)
    (he : Verdict .upload r l.nextReply (.ok e)) :
    ∃ l', (complete c token d t).exec now l = (.ok (uploaded d now e), l') := by
  obtain ⟨p, hfollows, hmakes⟩ := complete_follows c token d t now
  have hresult : (p.run l).1 = .ok (uploaded d now e) := by
    rw [(hmakes.run l).1, Call.outcome_eq_ok_iff]
    exact ⟨r, e, hr, he, rfl⟩
  refine ⟨(p.run l).2, ?_⟩
  rw [hfollows l, hresult]
  rfl

/-- The last of what was exchanged is the second step of an upload; its reply passes, and this is the
envelope. -/
def Confirmed (c : Client) (exchanges : List (Request × Reply)) (e : Envelope) : Prop :=
  ∃ before token d r reply, exchanges = before ++ [(r, reply)] ∧ Confirms c token d r ∧
    Verdict .upload r reply (.ok e)

/-- An upload that succeeds gives the file that its confirmation speaks of. -/
theorem confirmed_of_plan {o : RemoteObject} (h : ((plan c token d now).run l).1 = .ok o) :
    ∃ e, Confirmed c ((plan c token d now).run l).2.exchanges e ∧ o = uploaded d now e := by
  rw [plan, Plan.run, Plan.run] at h ⊢
  generalize l.add (.logged (announced d)) = k at h ⊢
  cases hannounce : Client.reaching k.peer.accepts (formRequest c token initiatePath d.form) with
  | error why =>
    rw [hannounce] at h
    cases h
  | ok announce =>
    simp only [hannounce] at h ⊢
    cases hfirst : Client.answered .upload announce k.nextReply with
    | error why =>
      simp only [hfirst] at h
      cases h
    | ok e₁ =>
      simp only [hfirst] at h ⊢
      cases hticket : ticket e₁ with
      | error why =>
        rw [hticket] at h
        cases h
      | ok t =>
        rw [hticket] at h
        obtain ⟨hresult, hsent⟩ := (confirmation_makes c token d t now).run (k.heard announce)
        rw [hresult, Call.outcome_eq_ok_iff] at h
        obtain ⟨r, e, hr, he, hread⟩ := h
        cases hread
        rw [Call.exchanged_of_reaching hr] at hsent
        have hconfirms : Confirms c token d r := ⟨t, (Client.reaching_eq_ok hr).1⟩
        exact ⟨e, ⟨_, token, d, r, _, hsent, hconfirms, he⟩, rfl⟩

end Upload

/-! ## The operations -/

namespace Drive

open Listing (Found)

variable {d : Drive} {now : Instant} {l l' : Live}

theorem id_of_put {target : RemoteId} {stream : FileStream} {watched : Bool} {outcome : Outcome}
    (h : (d.perform (.put target stream watched)).exec now l = (.ok outcome, l')) :
    ∃ o e, outcome = .object o ∧ Upload.Confirmed d.client l'.exchanges e ∧
      o.id = Upload.fileId e := by
  generalize hresult : (Except.ok outcome : Except (Stop Failure) Outcome) = result at h
  cases perform_course rfl h with
  | misnamed | unread | tokenless => cases hresult
  | @served _ job token m _ hjob hasked hl =>
    cases Step.ready_of_job hjob with
    | put hname hbroken =>
      have hok := mapError_eq_ok_iff.mp hresult.symm
      rw [plan, Plan.run_map] at hok hl
      cases hplan : ((Upload.plan d.client token (.ofSpool stream.name target stream.spooled)
          now).run m).1 with
      | error why =>
        rw [hplan] at hok
        cases hok
      | ok o =>
        obtain ⟨e, hconfirmed, rfl⟩ := Upload.confirmed_of_plan hplan
        rw [hplan] at hok
        cases hok
        rw [hl.exchanges] at hconfirmed
        exact ⟨_, e, rfl, hconfirmed, rfl⟩

/-- **An object has an identifier exactly if one is found in the places where it is told.** An
identifier behind an empty text is lost; where there is no empty text, none is. -/
theorem identified_iff_found (d : Drive) (now : Instant) (l : Live) :
    (∀ dir e, d.Answered now l (.list dir) e →
      ∃ os l', (d.perform (.list dir)).exec now l = (.ok (.objects os), l') ∧
        List.Forall₂ (fun entry o => o.id ≠ "" ↔
            Found [entry.field? "id", entry.field? "file_id", entry.field? "folder_id"])
          ((entries e).filter Json.isObject) os) ∧
    (∀ parent name e, Name.fault? name = none → d.Answered now l (.makeDir parent name) e →
      ∃ o l', (d.perform (.makeDir parent name)).exec now l = (.ok (.object o), l') ∧
        (o.id ≠ "" ↔ Found [e.data.field? "folder_id", e.data.field? "id"])) ∧
    (∀ target stream watched outcome l',
      (d.perform (.put target stream watched)).exec now l = (.ok outcome, l') →
      ∃ o e, outcome = .object o ∧ Upload.Confirmed d.client l'.exchanges e ∧
        (o.id ≠ "" ↔ Found [e.data.field? "file_id", e.data.field? "id", e.root.field? "file_id"])) ∧
    (∀ token file t r e, Client.reaching l.peer.accepts
        (Upload.formRequest d.client token Upload.completePath
          (file.form ++ UploadTicket.form t)) = .ok r →
      Verdict .upload r l.nextReply (.ok e) →
      ∃ o l', (Upload.complete d.client token file t).exec now l = (.ok o, l') ∧
        (o.id ≠ "" ↔ Found [e.data.field? "file_id", e.data.field? "id", e.root.field? "file_id"])) ∧
    ∀ places : List (Option Json), some (.text "") ∉ places →
      (Found places ↔ ∃ v, some v ∈ places ∧ v.IsId) := by
  refine ⟨?_, ?_, ?_, ?_, fun places => Listing.found_iff_of_no_empty⟩
  · intro dir e h
    refine ⟨_, _, Prod.ext (list_ok_iff.mpr ⟨e, h, rfl⟩) rfl, ?_⟩
    refine (Listing.describes_objects now (items e)).imp fun entry o hdescribes => ?_
    rw [Json.firstOr_iff.mp hdescribes.id, ← Listing.findId?, Listing.findId?_eq_idIn]
    exact Listing.idIn_ne_empty_iff
  · intro parent name e hname h
    have hjob : (Step.makeDir parent name).job? = some (.makeDir parent name) := by
      rw [Step.job?, if_pos hname]
    refine ⟨created name now e, _, Prod.ext ((perform_ok_iff hjob rfl).mpr ⟨e, h, rfl⟩) rfl, ?_⟩
    rw [created, RemoteObject.folder, Listing.findId?_eq_idIn]
    exact Listing.idIn_ne_empty_iff
  · intro target stream watched outcome l' h
    obtain ⟨o, e, houtcome, hconfirmed, hid⟩ := id_of_put h
    refine ⟨o, e, houtcome, hconfirmed, ?_⟩
    rw [hid, Upload.fileId_eq_idIn]
    exact Listing.idIn_ne_empty_iff
  · intro token file t r e hr he
    obtain ⟨l', hexec⟩ := Upload.exec_complete hr he
    refine ⟨_, l', hexec, ?_⟩
    rw [Upload.uploaded, RemoteObject.file, Upload.fileId_eq_idIn]
    exact Listing.idIn_ne_empty_iff

/-- An entry with its identifier under the second key. -/
def sampleSecond : Reply := Session.answering
  "\x7b\"data\":\x7b\"items\":[\x7b\"id\":null,\"file_id\":7\x7d]\x7d\x7d"

theorem identified_iff_found_second : ∃ e entry o l',
    Answered ⟨.sample, .root⟩ .epoch (sampleMoving sampleSecond) (.list .root) e ∧
      entries e = [entry] ∧
      (Drive.perform ⟨.sample, .root⟩ (.list .root)).exec .epoch (sampleMoving sampleSecond) =
        (.ok (.objects [o]), l') ∧
      o.id = "7" ∧
      Found [entry.field? "id", entry.field? "file_id", entry.field? "folder_id"] := by
  have hresult : ((Drive.perform ⟨.sample, .root⟩ (.list .root)).exec .epoch
      (sampleMoving sampleSecond)).1 = .ok (.objects [.file "7" "" 0 .epoch]) := by
    decide +kernel
  have hseen : (Client.answered .operation Client.sampleRequest sampleSecond).toOption.map
      (fun e => (entries e).map Json.isObject) = some [true] := by
    decide +kernel
  obtain ⟨e, hverdict, hlook⟩ := exists_envelope sampleSecond _ hseen
  simp only [List.map_eq_cons_iff, List.map_eq_nil_iff] at hlook
  obtain ⟨entry, _, hes, hobject, rfl⟩ := hlook
  have hanswered : Answered ⟨.sample, .root⟩ .epoch (sampleMoving sampleSecond) (.list .root) e :=
    sample_answered rfl (by decide +kernel) hverdict
  obtain ⟨os, l', hexec, hids⟩ :=
    (identified_iff_found ⟨.sample, .root⟩ .epoch (sampleMoving sampleSecond)).1 .root e hanswered
  rw [hexec] at hresult
  cases hresult
  rw [hes, List.filter_cons_of_pos hobject] at hids
  obtain ⟨hid, -⟩ := List.forall₂_cons.mp hids
  exact ⟨e, entry, _, l', hanswered, hes, hexec, rfl, hid.mp (by decide)⟩

/-- An entry with an empty text under the first key and a number under the second. -/
def sampleBlank : Reply := Session.answering
  "\x7b\"data\":\x7b\"items\":[\x7b\"id\":\"\",\"file_id\":7\x7d]\x7d\x7d"

/-- **An identifier is lost behind an empty text.** -/
theorem id_lost_behind_empty : ∃ e entry o l',
    Answered ⟨.sample, .root⟩ .epoch (sampleMoving sampleBlank) (.list .root) e ∧
      entries e = [entry] ∧ (∃ v, entry.field? "file_id" = some v ∧ v.IsId) ∧
      (Drive.perform ⟨.sample, .root⟩ (.list .root)).exec .epoch (sampleMoving sampleBlank) =
        (.ok (.objects [o]), l') ∧ o.id = "" := by
  have hresult : ((Drive.perform ⟨.sample, .root⟩ (.list .root)).exec .epoch
      (sampleMoving sampleBlank)).1 = .ok (.objects [.file "" "" 0 .epoch]) := by
    decide +kernel
  have hseen : (Client.answered .operation Client.sampleRequest sampleBlank).toOption.map
      (fun e => (entries e).map fun x => (x.field? "file_id").bind Listing.idText?) =
        some [some "7"] := by
    decide +kernel
  obtain ⟨e, hverdict, hlook⟩ := exists_envelope sampleBlank _ hseen
  simp only [List.map_eq_cons_iff, List.map_eq_nil_iff] at hlook
  obtain ⟨entry, _, hes, htold, rfl⟩ := hlook
  obtain ⟨v, hfield, hv⟩ := Option.bind_eq_some_iff.mp htold
  exact ⟨e, entry, _, _, sample_answered rfl (by decide +kernel) hverdict, hes,
    ⟨v, hfield, Listing.isId_iff.mpr ⟨"7", hv, by decide⟩⟩, Prod.ext hresult rfl, rfl⟩

end Drive
end RemoteDrive
