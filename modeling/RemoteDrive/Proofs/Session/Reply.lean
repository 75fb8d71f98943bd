import RemoteDrive.Proofs.Number.Integer
import RemoteDrive.Proofs.Record
import RemoteDrive.Proofs.Verdict
import RemoteDrive.Proofs.Session.Grant

/-!
# What a reply grants

A session goes by the reply, and this file says what a reply grants in words of its own: what the
status is, what the fields of the body hold, and what the payload writes. A reply that accepts the
credentials is described by `Reply.Admits`, one that accepts the refresh token by `Reply.Renews`,
and neither mentions the functions by which the session looks at a reply. That the session finds a
grant in just these replies is what `authOutcome_eq_ok_iff` and `refreshOutcome_eq_ok_iff` say.

The two differ in what they take for a sign of success. The credentials are accepted if the status
field says so or else the message does in certain words. A refresh asks for two signs at once, and
words do not help.
-/

set_option autoImplicit false

namespace RemoteDrive

open Json (FirstUnder)

/-! ## The payload -/

namespace Json

/-- A text that may be missing, or null, which is the same. -/
inductive MayWrite : Option Json → Option String → Prop
  | missing : MayWrite none none
  | null : MayWrite (some .null) none
  | text (s : String) : MayWrite (some (.text s)) (some s)

/-- A number of seconds, zero if it is missing. It is written as an integer of one signed word. -/
inductive Lasts : Option Json → Int64 → Prop
  | missing : Lasts none 0
  | number {n : JsonNumber} {v : Int64} (h : n.Writes v.toInt) : Lasts (some (.number n)) v

end Json

open Json (MayWrite Lasts)

namespace Slot

variable {slot : Slot Json}

theorem text_eq_some_iff {t : Option String} : slot.text = some t ↔ MayWrite slot.node? t := by
  rw [text, orElse_eq]
  cases slot.node? with
  | none =>
    constructor
    · intro h
      cases h
      exact .missing
    · intro h
      cases h
      rfl
  | some d =>
    constructor
    · intro h
      cases d with
      | null =>
        cases h
        exact .null
      | text s =>
        cases h
        exact .text s
      | bool | number | array | object => cases h
    · intro h
      cases h <;> rfl

theorem lifetime_eq_some_iff {v : Int64} :
    slot.orElse 0 RichDocument.integer? = some v ↔ Lasts slot.node? v := by
  rw [orElse_eq]
  cases slot.node? with
  | none =>
    constructor
    · intro h
      cases h
      exact .missing
    · intro h
      cases h
      rfl
  | some d =>
    constructor
    · intro h
      cases d with
      | number n => exact .number (JsonNumber.toInteger?_eq_some_iff.mp h)
      | null | bool | text | array | object => cases h
    · intro h
      cases h with
      | number hn => exact JsonNumber.toInteger?_eq_some_iff.mpr hn

/-- The default of a text is empty, so a text that is not empty is there. -/
theorem filled_eq_some_iff {s : String} (hs : s ≠ "") :
    slot.orElse "" Document.text? = some s ↔ slot.node? = some (.text s) := by
  rw [orElse_eq]
  cases slot.node? with
  | none => simp [hs.symm]
  | some d => cases d <;> simp [Document.text?, Json.text?]

end Slot

/-- The payload writes this grant, with both tokens. -/
structure AuthGrant.WrittenIn (g : AuthGrant) (payload : Json) : Prop where
  isRecord : payload.IsRecord 4
  access : payload.entry? "access_token" 0 = some (.text g.accessToken)
  access_ne : g.accessToken ≠ ""
  refresh : payload.entry? "refresh_token" 1 = some (.text g.refreshToken)
  refresh_ne : g.refreshToken ≠ ""
  lifetime : Lasts (payload.entry? "expires_in" 2) g.lifetime
  tokenType : MayWrite (payload.entry? "token_type" 3) g.tokenType

/-- The payload writes this grant, with an access token. -/
structure RefreshGrant.WrittenIn (g : RefreshGrant) (payload : Json) : Prop where
  isRecord : payload.IsRecord 3
  access : payload.entry? "access_token" 0 = some (.text g.accessToken)
  access_ne : g.accessToken ≠ ""
  lifetime : Lasts (payload.entry? "expires_in" 1) g.lifetime
  refresh : MayWrite (payload.entry? "refresh_token" 2) g.refreshToken

section Payload

variable {payload : Json}

theorem AuthGrant.read?_eq_some_iff {g : AuthGrant} (haccess : g.accessToken ≠ "")
    (hrefresh : g.refreshToken ≠ "") : AuthGrant.read? payload = some g ↔ g.WrittenIn payload := by
  refine Json.bind_slots?_iff (fun h => h.isRecord) fun slots hnodes hrecord => ?_
  simp only [List.mapIdx_cons, List.mapIdx_nil, List.map_eq_cons_iff, List.map_eq_nil_iff]
    at hnodes
  obtain ⟨access, _, rfl, ha, refresh, _, rfl, hr, lifetime, _, rfl, hl, tokenType, _, rfl, ht,
    rfl⟩ := hnodes
  simp only [Option.bind_eq_bind, Option.bind_eq_some_iff, pure, Option.some.injEq]
  constructor
  · rintro ⟨_, hat, _, hrt, _, hlt, _, htt, rfl⟩
    exact
      { isRecord := hrecord
        access := ha ▸ (Slot.filled_eq_some_iff haccess).mp hat
        access_ne := haccess
        refresh := hr ▸ (Slot.filled_eq_some_iff hrefresh).mp hrt
        refresh_ne := hrefresh
        lifetime := hl ▸ Slot.lifetime_eq_some_iff.mp hlt
        tokenType := ht ▸ Slot.text_eq_some_iff.mp htt }
  · intro h
    refine ⟨g.accessToken, ?_, g.refreshToken, ?_, g.lifetime, ?_, g.tokenType, ?_, rfl⟩
    · exact (Slot.filled_eq_some_iff haccess).mpr (ha.trans h.access)
    · exact (Slot.filled_eq_some_iff hrefresh).mpr (hr.trans h.refresh)
    · exact Slot.lifetime_eq_some_iff.mpr (hl.symm ▸ h.lifetime)
    · exact Slot.text_eq_some_iff.mpr (ht.symm ▸ h.tokenType)

theorem RefreshGrant.read?_eq_some_iff {g : RefreshGrant} (haccess : g.accessToken ≠ "") :
    RefreshGrant.read? payload = some g ↔ g.WrittenIn payload := by
  refine Json.bind_slots?_iff (fun h => h.isRecord) fun slots hnodes hrecord => ?_
  simp only [List.mapIdx_cons, List.mapIdx_nil, List.map_eq_cons_iff, List.map_eq_nil_iff]
    at hnodes
  obtain ⟨access, _, rfl, ha, lifetime, _, rfl, hl, refresh, _, rfl, hr, rfl⟩ := hnodes
  simp only [Option.bind_eq_bind, Option.bind_eq_some_iff, pure, Option.some.injEq]
  constructor
  · rintro ⟨_, hat, _, hlt, _, hrt, rfl⟩
    exact
      { isRecord := hrecord
        access := ha ▸ (Slot.filled_eq_some_iff haccess).mp hat
        access_ne := haccess
        lifetime := hl ▸ Slot.lifetime_eq_some_iff.mp hlt
        refresh := hr ▸ Slot.text_eq_some_iff.mp hrt }
  · intro h
    refine ⟨g.accessToken, ?_, g.lifetime, ?_, g.refreshToken, ?_, rfl⟩
    · exact (Slot.filled_eq_some_iff haccess).mpr (ha.trans h.access)
    · exact Slot.lifetime_eq_some_iff.mpr (hl.symm ▸ h.lifetime)
    · exact Slot.text_eq_some_iff.mpr (hr.symm ▸ h.refresh)

end Payload

/-! ## The reply -/

/-- An answer of success has come whole, and it is an object of these fields. -/
def Reply.Brings (reply : Reply) (fields : List (String × Json)) : Prop :=
  ∃ a, reply = .answer a ∧ a.Succeeds ∧ a.whole = true ∧
    Json.ofBytes? a.body = some (.object fields)

theorem Reply.Brings.unique {reply : Reply} {fields fields' : List (String × Json)}
    (h : reply.Brings fields) (h' : reply.Brings fields') : fields = fields' := by
  obtain ⟨a, rfl, -, -, hbody⟩ := h
  obtain ⟨_, hsame, -, -, hbody'⟩ := h'
  cases hsame
  cases hbody.symm.trans hbody'
  rfl

theorem Reply.not_brings_closed (fields : List (String × Json)) : ¬ Reply.closed.Brings fields := by
  rintro ⟨a, hsame, -⟩
  cases hsame

theorem Client.outcome_eq_ok_iff {family : EndpointFamily} {r : Request} {reply : Reply}
    {e : Envelope} : outcome family r reply = .ok e ↔
      ∃ fields, reply.Brings fields ∧ e = .ofObject family (.object fields) := by
  constructor
  · intro h
    obtain ⟨a, rfl, hstatus, hwhole, hdecode⟩ := outcome_eq_ok h
    obtain ⟨fields, hbody, rfl⟩ := Envelope.decode_eq_ok hdecode
    refine ⟨fields, ⟨a, rfl, ?_, hwhole, hbody⟩, rfl⟩
    simpa [isSuccessStatus, Answer.Succeeds] using hstatus
  · rintro ⟨fields, ⟨a, rfl, hstatus, hwhole, hbody⟩, rfl⟩
    simp only [outcome, isSuccessStatus_of_succeeds hstatus, hwhole, Envelope.decode, hbody]
    rfl

namespace Session

/-- The status is a number, and cut to an integer it is 200. -/
def ReportsSuccess (fields : List (String × Json)) : Prop :=
  ∃ n, fields.lookup "status" = some (.number n) ∧ n.cut = 200

/-- The signs that the credentials are accepted, either of which is enough. -/
def SaysAccepted (fields : List (String × Json)) : Prop :=
  ReportsSuccess fields ∨ FirstUnder Json.text? ["message", "msg"] (.object fields) "认证成功"

/-- The signs that the refresh token is accepted, both of which are needed. -/
def SaysRefreshed (fields : List (String × Json)) : Prop :=
  fields.lookup "success" = some (.bool true) ∧ ReportsSuccess fields

section Signs

variable {fields : List (String × Json)}

theorem code_eq_success_iff :
    (Envelope.ofObject .service (.object fields)).code = some successCode ↔
      ReportsSuccess fields := by
  have hcode : (Envelope.ofObject .service (.object fields)).code =
      ((fields.lookup "status").bind Json.number?).map codeOfNumber := by
    simp only [Envelope.ofObject, EndpointFamily.codeKeys, Json.firstOf, List.findSome?_cons,
      List.findSome?_nil, Json.field?]
    cases (fields.lookup "status").bind Json.number? <;> rfl
  rw [hcode, Option.map_eq_some_iff]
  constructor
  · rintro ⟨n, hn, hsuccess⟩
    obtain ⟨status, hstatus, hnumber⟩ := Option.bind_eq_some_iff.mp hn
    cases status with
    | number m =>
      cases hnumber
      refine ⟨n, hstatus, ?_⟩
      rw [codeOfNumber_eq_successCode] at hsuccess
      -- a code is a binary64 number before it is cut, and 200 is small enough for that
      exact (JsonNumber.toInt_toBinary64 (by decide)).mp hsuccess
    | null | bool | text | array | object => cases hnumber
  · rintro ⟨n, hstatus, hn⟩
    refine ⟨n, by rw [hstatus]; rfl, ?_⟩
    rw [codeOfNumber_eq_successCode]
    exact (JsonNumber.toInt_toBinary64 (by decide)).mpr hn

theorem isAccepted_iff :
    isAccepted (.ofObject .service (.object fields)) = true ↔ SaysAccepted fields := by
  simp only [isAccepted, Bool.or_eq_true, beq_iff_eq, SaysAccepted]
  rw [code_eq_success_iff]
  exact or_congr_right Json.firstOf_eq_some_iff

theorem isRefreshed_iff :
    isRefreshed (.ofObject .service (.object fields)) = true ↔ SaysRefreshed fields := by
  have hsuccess : (Envelope.ofObject .service (.object fields)).success = some true ↔
      fields.lookup "success" = some (.bool true) := by
    simp only [Envelope.ofObject, Json.field?]
    cases fields.lookup "success" with
    | none => simp
    | some j => cases j <;> simp [Json.bool?]
  simp only [isRefreshed, Bool.and_eq_true, beq_iff_eq, SaysRefreshed]
  rw [code_eq_success_iff, hsuccess]

end Signs

end Session

/-! ## What a reply grants -/

/-- The reply accepts the credentials and grants this. -/
def Reply.Admits (reply : Reply) (g : AuthGrant) : Prop :=
  ∃ fields, reply.Brings fields ∧ Session.SaysAccepted fields ∧
    ∃ payload, fields.lookup "data" = some payload ∧ g.WrittenIn payload

/-- The reply accepts the refresh token and grants this. -/
def Reply.Renews (reply : Reply) (g : RefreshGrant) : Prop :=
  ∃ fields, reply.Brings fields ∧ Session.SaysRefreshed fields ∧
    ∃ payload, fields.lookup "data" = some payload ∧ g.WrittenIn payload

namespace Envelope

variable {γ : Type} {e : Envelope} {default g : γ} {read : Json → Option γ}

/-- A record that is not the one that stands in for null was read. -/
theorem dataAs_eq_ok_iff (hne : g ≠ default) :
    e.dataAs default read = .ok g ↔ e.data.isNull = false ∧ read e.data = some g := by
  unfold dataAs
  cases hnull : e.data.isNull with
  | true => simp [hne.symm]
  | false => cases read e.data <;> simp

theorem dataAs_eq_error {why : Fault} (h : e.dataAs default read = .error why) :
    why = .unexpectedData := by
  unfold dataAs at h
  split at h
  · cases h
  · cases hread : read e.data with
    | some g =>
      rw [hread] at h
      cases h
    | none =>
      rw [hread] at h
      cases h
      rfl

/-- Where there is no payload it is null, and null is no record. -/
theorem record_data_iff {P : Json → Prop} {fields : List (String × Json)} {family : EndpointFamily}
    (hP : ¬ P .null) : P (Envelope.ofObject family (.object fields)).data ↔
      ∃ payload, fields.lookup "data" = some payload ∧ P payload := by
  have hdata : (Envelope.ofObject family (.object fields)).data =
      (fields.lookup "data").getD .null := rfl
  rw [hdata]
  cases fields.lookup "data" with
  | none => simpa using hP
  | some payload => simp

end Envelope

namespace Session

theorem grantIn_eq_ok_iff {γ : Type} {wrap : Fault → Fault} {read : Envelope → Except Fault γ}
    {r : Request} {reply : Reply} {g : γ} : grantIn wrap read r reply = .ok g ↔
      ∃ fields, reply.Brings fields ∧ read (.ofObject .service (.object fields)) = .ok g := by
  constructor
  · intro h
    obtain ⟨e, he, hread⟩ := bind_eq_ok h
    obtain ⟨fields, hbrings, rfl⟩ := Client.outcome_eq_ok_iff.mp (mapError_eq_ok_iff.mp he)
    exact ⟨fields, hbrings, hread⟩
  · rintro ⟨fields, hbrings, hread⟩
    rw [grantIn, Client.outcome_eq_ok_iff.mpr ⟨fields, hbrings, rfl⟩]
    exact hread

theorem authGrant_eq_ok_iff {e : Envelope} {g : AuthGrant} :
    authGrant e = .ok g ↔ isAccepted e = true ∧ g.WrittenIn e.data := by
  have hread : g.accessToken ≠ "" → g.refreshToken ≠ "" →
      (e.dataAs .empty AuthGrant.read? = .ok g ↔ e.data.isNull = false ∧ g.WrittenIn e.data) := by
    intro haccess hrefresh
    -- the default has no tokens, so a grant that has them was read
    rw [Envelope.dataAs_eq_ok_iff (fun h => haccess (by rw [h]; rfl)),
      AuthGrant.read?_eq_some_iff haccess hrefresh]
  constructor
  · intro h
    obtain ⟨hdata, haccess, hrefresh⟩ := authGrant_eq_ok h
    refine ⟨?_, ((hread haccess hrefresh).mp hdata).2⟩
    by_cases haccepted : isAccepted e = true
    · exact haccepted
    · rw [authGrant, if_neg haccepted] at h
      cases h
  · rintro ⟨haccepted, hg⟩
    have hdata := (hread hg.access_ne hg.refresh_ne).mpr ⟨Json.isNull_of_isRecord hg.isRecord, hg⟩
    rw [authGrant, if_pos haccepted, hdata]
    exact if_neg (not_or_intro hg.access_ne hg.refresh_ne)

theorem refreshGrant_eq_ok_iff {e : Envelope} {g : RefreshGrant} :
    refreshGrant e = .ok g ↔ isRefreshed e = true ∧ g.WrittenIn e.data := by
  have hread : g.accessToken ≠ "" →
      (e.dataAs .empty RefreshGrant.read? = .ok g ↔
        e.data.isNull = false ∧ g.WrittenIn e.data) := by
    intro haccess
    rw [Envelope.dataAs_eq_ok_iff (fun h => haccess (by rw [h]; rfl)),
      RefreshGrant.read?_eq_some_iff haccess]
  constructor
  · intro h
    obtain ⟨hdata, haccess⟩ := refreshGrant_eq_ok h
    refine ⟨?_, ((hread haccess).mp hdata).2⟩
    by_cases hrefreshed : isRefreshed e = true
    · exact hrefreshed
    · rw [refreshGrant, if_neg hrefreshed] at h
      cases h
  · rintro ⟨hrefreshed, hg⟩
    have hdata := (hread hg.access_ne).mpr ⟨Json.isNull_of_isRecord hg.isRecord, hg⟩
    rw [refreshGrant, if_pos hrefreshed, hdata]
    exact if_neg hg.access_ne

/-- **A grant is what an accepting reply writes**, whichever request it answers. -/
theorem authOutcome_eq_ok_iff {r : Request} {reply : Reply} {g : AuthGrant} :
    authOutcome r reply = .ok g ↔ reply.Admits g := by
  have hnull : ¬ g.WrittenIn .null := fun h => h.isRecord
  refine grantIn_eq_ok_iff.trans (exists_congr fun fields => and_congr_right fun _ => ?_)
  rw [authGrant_eq_ok_iff, isAccepted_iff, Envelope.record_data_iff hnull]

theorem refreshOutcome_eq_ok_iff {r : Request} {reply : Reply} {g : RefreshGrant} :
    refreshOutcome r reply = .ok g ↔ reply.Renews g := by
  have hnull : ¬ g.WrittenIn .null := fun h => h.isRecord
  refine grantIn_eq_ok_iff.trans (exists_congr fun fields => and_congr_right fun _ => ?_)
  rw [refreshGrant_eq_ok_iff, isRefreshed_iff, Envelope.record_data_iff hnull]

section Granted

variable {r : Request} {reply : Reply} {why : Fault}

theorem admits_iff_eq {g g' : AuthGrant} (h : authOutcome r reply = .ok g) :
    reply.Admits g' ↔ g' = g := by
  rw [← authOutcome_eq_ok_iff (r := r), h, Except.ok.injEq, eq_comm]

theorem renews_iff_eq {g g' : RefreshGrant} (h : refreshOutcome r reply = .ok g) :
    reply.Renews g' ↔ g' = g := by
  rw [← refreshOutcome_eq_ok_iff (r := r), h, Except.ok.injEq, eq_comm]

theorem not_admits (h : authOutcome r reply = .error why) (g : AuthGrant) : ¬ reply.Admits g := by
  intro hadmits
  cases h.symm.trans (authOutcome_eq_ok_iff.mpr hadmits)

theorem not_renews (h : refreshOutcome r reply = .error why) (g : RefreshGrant) :
    ¬ reply.Renews g := by
  intro hrenews
  cases h.symm.trans (refreshOutcome_eq_ok_iff.mpr hrenews)

end Granted

end Session

end RemoteDrive
