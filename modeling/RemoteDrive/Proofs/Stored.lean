import RemoteDrive.Session.Tokens
import RemoteDrive.Proofs.Time.Layouts

/-!
# Stored values

What the library stores it writes as JSON and reads with the same readers that take what others
wrote. Each of these readers gives back the value that was written (`stored_read_back`), because
the writer gives a record all its fields, in the order in which the reader names them, so that the
reader is given each of them (`Json.slots?_object`) and its defaults never apply.

A moment is stored in RFC 3339 with as many digits behind the point as it needs, none, three, six or
nine. The reader of a stored moment is not the one that reads the moments of the service: it
allows white space between the parts and reads any year. It takes what was written for what it is
all the same (`Timestamp.readDocument?_document`), in a leap second as well.

An identifier is stored as its text. So every text could be where one is expected, and the reader
applies the check that makes an identifier (`RemoteId.exists_read?_iff`).
-/

set_option autoImplicit false

namespace RemoteDrive

open Text (dropBlanks)

namespace Timestamp

variable {t : Instant} {w : WallClock} {rest : List Char}

theorem literal_dropBlanks {c : Char} (h : Text.isBlank c = false) (s : List Char) :
    literal c (dropBlanks (c :: s)) = some s := by
  rw [dropBlanks_cons h, literal_self]

theorem suffices_fractionWidth (nanos : ℕ) : Suffices (fractionWidth nanos) nanos := by
  unfold fractionWidth
  split
  · rename_i h
    subst h
    decide
  split
  · exact ⟨by decide, Nat.dvd_of_mod_eq_zero (by assumption)⟩
  split
  · exact ⟨by decide, Nat.dvd_of_mod_eq_zero (by assumption)⟩
  · exact ⟨by decide, Nat.one_dvd nanos⟩

theorem document_eq (t : Instant) : document t =
    strictText (WallClock.ofInstant t 0) (fractionWidth (WallClock.ofInstant t 0).nanos) "Z" := rfl

/-- **A stored moment is read as it was.** -/
theorem readDocument?_document (t : Instant) : readDocument? (document t) = some t := by
  have hcalendar := WallClock.inCalendar_ofInstant t
  have hmoment := WallClock.toInstant?_ofInstant (Int.zero_emod 60) hcalendar
  have hvalid := WallClock.isValid_ofInstant (Int.zero_emod 60) hcalendar
  rw [document_eq]
  generalize WallClock.ofInstant t 0 = w at *
  obtain ⟨-, -, -, -, -, hnanos⟩ := WallClock.isValid_iff.mp hvalid
  have hdigits := twoDigits_of_isValid hvalid
  have hdash : Text.isBlank '-' = false := by decide
  have hcolon : Text.isBlank ':' = false := by decide
  rw [readDocument?, toList_strictText, dateText_append, timeText_append]
  refine (bind_of_some (lenientYear_yearText _ (Decimal.endsRun_cons (by decide)))).trans ?_
  refine (bind_of_some (literal_dropBlanks hdash _)).trans ?_
  refine (bind_of_some (lenient_two hdigits.month)).trans ?_
  refine (bind_of_some (literal_dropBlanks hdash _)).trans ?_
  refine (bind_of_some (lenient_two hdigits.day)).trans ?_
  refine (bind_of_some rfl).trans ?_
  refine (bind_of_some (lenient_two hdigits.hour)).trans ?_
  refine (bind_of_some (literal_dropBlanks hcolon _)).trans ?_
  refine (bind_of_some (lenient_two hdigits.minute)).trans ?_
  refine (bind_of_some (literal_dropBlanks hcolon _)).trans ?_
  refine (bind_of_some (lenient_two hdigits.second)).trans ?_
  refine (bind_of_some (fraction_fractionText (suffices_fractionWidth _) hnanos
    writesOffset_universal.endsRun writesOffset_universal.noPoint)).trans ?_
  exact hmoment

end Timestamp

/-! ## Records -/

namespace Json

variable {fields : List (String × Json)} {names : List String}

theorem lookup_of_nodup {name : String} {j : Json} (h : (fields.map Prod.fst).Nodup)
    (hmem : (name, j) ∈ fields) : fields.lookup name = some j := by
  obtain ⟨before, behind, rfl⟩ := List.append_of_mem hmem
  refine List.lookup_eq_some_iff.mpr ⟨before, behind, rfl, fun field hfield => ?_⟩
  rw [List.map_append, List.nodup_append] at h
  have hne := h.2.2 field.1 (List.mem_map_of_mem hfield) name (by simp)
  exact bne_iff_ne.mpr hne.symm

/-- A record gives a reader that asks for all its fields what it holds. -/
theorem slots?_object (hnames : fields.map Prod.fst = names) (h : names.Nodup) :
    Document.slots? names (Json.object fields) = some (fields.map fun field => .given field.2) := by
  subst hnames
  refine congrArg some ?_
  rw [List.map_map]
  refine List.map_congr_left fun field hfield => ?_
  simp only [Function.comp_apply, lookup_of_nodup h hfield]

@[simp]
theorem text?_text (s : String) : Document.text? (Json.text s) = some s := rfl

@[simp]
theorem word?_natural (n : UInt64) : Document.word? (Json.number (.natural n)) = some n := rfl

@[simp]
theorem bool?_bool (b : Bool) : RichDocument.bool? (Json.bool b) = some b := rfl

@[simp]
theorem items?_array (items : List Json) : RichDocument.items? (Json.array items) = some items :=
  rfl

/-- A text that may be missing is a text or null. -/
theorem optional_text (s : Option String) : (Slot.given (s.elim .null Json.text)).optional
    RichDocument.isNull Document.text? = some s := by
  cases s <;> rfl

end Json

theorem RemoteId.read?_toJson (id : RemoteId) : read? id.toJson = some id := by
  rw [read?, toJson, Json.text?_text, Option.bind_some, ofString_text]
  rfl

namespace RemoteObject

@[simp]
theorem readInstant?_document (t : Instant) :
    readInstant? (Json.text (Timestamp.document t)) = some t := by
  rw [readInstant?, Json.text?_text, Option.bind_some, Timestamp.readDocument?_document]

theorem read?_toJson (o : RemoteObject) : read? o.toJson = some o := by
  have hslots : Document.slots? ["id", "name", "size", "modified", "is_folder"] o.toJson = some
      [.given (.text o.id), .given (.text o.name), .given (.number (.natural o.size)),
        .given (.text (Timestamp.document o.modified)), .given (.bool o.isFolder)] :=
    Json.slots?_object rfl (by decide)
  rw [read?, hslots]
  simp [Slot.required]

end RemoteObject

theorem ArchiveMeta.mapM_read?_toJson (entries : List RemoteObject) :
    (entries.map RemoteObject.toJson).mapM RemoteObject.read? = some entries := by
  induction entries with
  | nil => rfl
  | cons o entries ih =>
    rw [List.map_cons, List.mapM_cons, RemoteObject.read?_toJson, ih]
    rfl

theorem ArchiveMeta.read?_toJson (a : ArchiveMeta) : read? a.toJson = some a := by
  have hslots : Document.slots? ["comment", "encrypted", "entries"] a.toJson = some
      [.given (a.comment.elim .null .text), .given (.bool a.encrypted),
        .given (.array (a.entries.map RemoteObject.toJson))] :=
    Json.slots?_object rfl (by decide)
  rw [read?, hslots]
  simp only [Slot.required, Json.optional_text, Json.bool?_bool, Json.items?_array,
    mapM_read?_toJson, Option.bind_eq_bind, Option.bind_some, Option.pure_def]

theorem StorageDetails.read?_toJson (s : StorageDetails) : read? s.toJson = some s := by
  have hslots : Document.slots? ["total_space", "free_space"] s.toJson = some
      [.given (.number (.natural s.totalSpace)), .given (.number (.natural s.freeSpace))] :=
    Json.slots?_object rfl (by decide)
  rw [read?, hslots]
  simp [Slot.required]

theorem Tokens.read?_toJson (t : Tokens) : read? t.toJson = some t := by
  have hslots : Document.slots? ["access_token", "refresh_token", "expires_at"] t.toJson = some
      [.given (.text t.accessToken), .given (t.refreshToken.elim .null .text),
        .given (.text (Timestamp.document t.expiresAt))] :=
    Json.slots?_object rfl (by decide)
  rw [read?, hslots]
  simp [Slot.required, Json.optional_text]

theorem Credentials.read?_toJson (c : Credentials) : read? c.toJson = some c := by
  have hslots : Document.slots? ["api_key", "api_secret"] c.toJson = some
      [.given (.text c.apiKey), .given (.text c.apiSecret)] :=
    Json.slots?_object rfl (by decide)
  rw [read?, hslots]
  simp [Slot.orElse]

theorem HttpSettings.read?_toJson (h : HttpSettings) : read? h.toJson = some h := by
  have hslots : Document.slots? ["base_url", "user_agent", "request_timeout_secs",
      "upload_timeout_secs"] h.toJson = some
      [.given (.text h.baseUrl), .given (.text h.userAgent),
        .given (.number (.natural h.requestTimeout)),
        .given (.number (.natural h.uploadTimeout))] :=
    Json.slots?_object rfl (by decide)
  rw [read?, hslots]
  simp [Slot.orElse]

theorem Config.read?_toJson (c : Config) : read? c.toJson = some c := by
  have hslots : Document.slots? ["credentials", "root_id", "http"] c.toJson = some
      [.given c.credentials.toJson, .given (.text c.rootId), .given c.http.toJson] :=
    Json.slots?_object rfl (by decide)
  rw [read?, hslots]
  simp [Slot.orElse, Credentials.read?_toJson, HttpSettings.read?_toJson]

/-! ## Identifiers -/

namespace RemoteId

variable {s : String} {id : RemoteId}

theorem exists_ofString_iff :
    (∃ id, ofString s = .ok id) ↔ s ≠ "" ∧ ∀ c ∈ s.toList, Text.isBlank c = false := by
  have hblank : s.toList.any Text.isBlank = false ↔ ∀ c ∈ s.toList, Text.isBlank c = false := by
    simp only [List.any_eq_false, Bool.not_eq_true]
  rw [← hblank]
  unfold ofString
  split
  · simp [*]
  split <;> simp [*]

theorem toOption_ofString : (ofString s).toOption = some id ↔ ofString s = .ok id := by
  cases ofString s <;> simp [Except.toOption]

variable {δ : Type} [Document δ] {d : δ}

theorem read?_eq_some_iff :
    read? d = some id ↔ ∃ s, Document.text? d = some s ∧ ofString s = .ok id := by
  simp only [read?, Option.bind_eq_some_iff, toOption_ofString]

/-- An identifier is read where a text stands that may be one, and nowhere else. -/
theorem exists_read?_iff : (∃ id, read? d = some id) ↔
    ∃ s, Document.text? d = some s ∧ s ≠ "" ∧ ∀ c ∈ s.toList, Text.isBlank c = false := by
  simp only [read?_eq_some_iff, ← exists_ofString_iff]
  constructor
  · rintro ⟨id, s, hs, hid⟩
    exact ⟨s, hs, id, hid⟩
  · rintro ⟨s, hs, id, hid⟩
    exact ⟨id, s, hs, hid⟩

end RemoteId

/-- **What was stored is read back, and only an identifier is read as one.** -/
theorem stored_read_back :
    (∀ id : RemoteId, RemoteId.read? id.toJson = some id) ∧
      (∀ o : RemoteObject, RemoteObject.read? o.toJson = some o) ∧
      (∀ t : Tokens, Tokens.read? t.toJson = some t) ∧
      (∀ a : ArchiveMeta, ArchiveMeta.read? a.toJson = some a) ∧
      (∀ s : StorageDetails, StorageDetails.read? s.toJson = some s) ∧
      (∀ c : Config, Config.read? c.toJson = some c) ∧
      ∀ (δ : Type) [Document δ] (d : δ),
        (∀ id, RemoteId.read? d = some id ↔
          ∃ s, Document.text? d = some s ∧ RemoteId.ofString s = .ok id) ∧
        ((∃ id, RemoteId.read? d = some id) ↔ ∃ s, Document.text? d = some s ∧ s ≠ "" ∧
          ∀ c ∈ s.toList, Text.isBlank c = false) :=
  ⟨RemoteId.read?_toJson, RemoteObject.read?_toJson, Tokens.read?_toJson,
    ArchiveMeta.read?_toJson, StorageDetails.read?_toJson, Config.read?_toJson,
    fun _ _ _ => ⟨fun _ => RemoteId.read?_eq_some_iff, RemoteId.exists_read?_iff⟩⟩

end RemoteDrive
