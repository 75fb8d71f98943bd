import RemoteDrive.Proofs.Drive.Echo

/-!
# What a listing gives back

A listing turns each entry that is an object into an object of the host, in the order in which they
come, and passes over everything else. `Describes` says what an entry says of an object, field by
field and without a search: which keys count and in what order, and what holds if none of them does.
It leaves nothing open, so that it is the same to say that an entry gives an object
(`object?_eq_some_iff`).

What an entry says under other keys is not looked at. Which keys these are depends on its kind: a
folder has no size of its own, and files and folders report their time under different keys.
`SaysSame` compares two entries by what their kind reads.
-/

set_option autoImplicit false

namespace RemoteDrive

/-! ## The first key that answers, or else -/

namespace Json

variable {α : Type} {ask : Json → Option α} {keys : List String} {j : Json} {default a : α}

/-- What `ask` reads under the first of `keys` under which it reads anything, and `default` if it
reads nothing. -/
def FirstOr (ask : Json → Option α) (keys : List String) (j : Json) (default a : α) : Prop :=
  FirstUnder ask keys j a ∨ (∀ b, ¬ FirstUnder ask keys j b) ∧ a = default

theorem firstOr_iff : FirstOr ask keys j default a ↔ a = (j.firstOf ask keys).getD default := by
  cases hfirst : j.firstOf ask keys with
  | none => simp [FirstOr, firstOf_eq_none_iff.mp hfirst]
  | some b =>
    have hunder : ∀ c, FirstUnder ask keys j c ↔ b = c := by
      intro c
      rw [← firstOf_eq_some_iff, hfirst, Option.some.injEq]
    simp only [FirstOr, hunder, Option.getD_some]
    constructor
    · rintro (h | ⟨hnone, -⟩)
      · exact h.symm
      · exact absurd rfl (hnone b)
    · rintro rfl
      exact .inl rfl

end Json

open Json (FirstUnder FirstOr)

/-! ## Entries -/

namespace Listing

/-- The two ways in which an entry says that it is a folder. -/
def SaysFolder (entry : Json) : Prop :=
  entry.field? "is_folder" = some (.bool true) ∨ entry.field? "type" = some (.text "folder")

/-- The first text under the keys writes this time; it is `now` if there is none, or if that one
writes no time. -/
def Timed (now : Instant) (keys : List String) (entry : Json) (t : Instant) : Prop :=
  (∃ raw, FirstUnder Json.text? keys entry raw ∧ Timestamp.read? raw = some t) ∨
    (∀ raw, FirstUnder Json.text? keys entry raw → Timestamp.read? raw = none) ∧ t = now

/-- The entry speaks of this object. -/
structure Describes (now : Instant) (entry : Json) (o : RemoteObject) : Prop where
  kind : o.isFolder = true ↔ SaysFolder entry
  id : FirstOr idText? ["id", "file_id", "folder_id"] entry "" o.id
  name : FirstOr Json.text? ["name", "filename"] entry "" o.name
  folderTime : SaysFolder entry →
    Timed now ["created_at", "updated_at", "modified"] entry o.modified
  fileTime : ¬ SaysFolder entry →
    Timed now ["uploaded_at", "updated_at", "modified"] entry o.modified
  folderSize : SaysFolder entry → o.size = 0
  fileSize : ¬ SaysFolder entry → ∀ n, entry.field? "size" = some (.number n) →
    o.size = byteCount n
  noSize : (∀ n, entry.field? "size" ≠ some (.number n)) → o.size = 0

/-- What is read of an entry of one kind or the other. -/
def keysRead : Bool → List String
  | true => ["is_folder", "type", "id", "file_id", "folder_id", "name", "filename", "created_at",
      "updated_at", "modified"]
  | false => ["is_folder", "type", "id", "file_id", "folder_id", "name", "filename", "uploaded_at",
      "updated_at", "modified", "size"]

/-- Both are objects or neither is, and they say the same where their kind is read. -/
def SaysSame (x y : Json) : Prop :=
  x.isObject = y.isObject ∧ ∃ folder : Bool, (folder = true ↔ SaysFolder x) ∧
    ∀ key ∈ keysRead folder, x.field? key = y.field? key

section Entries

variable {now : Instant} {entry x y : Json} {o o' : RemoteObject} {keys : List String}
  {t t' : Instant}

theorem isFolder_iff : isFolder entry = true ↔ SaysFolder entry := by
  have hflag : ((entry.field? "is_folder").bind Json.bool?).getD false = true ↔
      entry.field? "is_folder" = some (.bool true) := by
    cases entry.field? "is_folder" with
    | none => simp
    | some v => cases v <;> simp [Json.bool?]
  rw [isFolder, Bool.or_eq_true, hflag, beq_iff_eq, Drive.bind_text?_eq_some_iff, SaysFolder]

theorem read?_empty : Timestamp.read? "" = none := by decide

theorem timed_iff :
    Timed now keys entry t ↔ t = timeOr now ((entry.firstOf Json.text? keys).getD "") := by
  simp only [Timed, ← Json.firstOf_eq_some_iff]
  cases entry.firstOf Json.text? keys with
  | none => simp [timeOr, read?_empty]
  | some raw => cases hraw : Timestamp.read? raw <;> simp [timeOr, hraw, eq_comm]

theorem size_of_number {n : JsonNumber} (h : entry.field? "size" = some (.number n)) :
    size entry = byteCount n := by
  rw [size, h]

theorem size_of_none (h : ∀ n, entry.field? "size" ≠ some (.number n)) : size entry = 0 := by
  unfold size
  split
  · exact absurd ‹_› (h _)
  · rfl

theorem describes_of_object? (h : object? now entry = some o) : Describes now entry o := by
  unfold object? at h
  split at h
  · cases hkind : isFolder entry with
    | true =>
      have hfolder : SaysFolder entry := isFolder_iff.mp hkind
      rw [hkind] at h
      cases h
      refine ⟨iff_of_true rfl hfolder, Json.firstOr_iff.mpr rfl, Json.firstOr_iff.mpr rfl,
        fun _ => timed_iff.mpr ?_, absurd hfolder, fun _ => rfl, absurd hfolder, fun _ => rfl⟩
      rw [rawTime, hkind]
      rfl
    | false =>
      have hfile : ¬ SaysFolder entry := by
        rw [← isFolder_iff, hkind]
        exact Bool.false_ne_true
      rw [hkind] at h
      cases h
      refine ⟨iff_of_false Bool.false_ne_true hfile, Json.firstOr_iff.mpr rfl,
        Json.firstOr_iff.mpr rfl, fun h => absurd h hfile, fun _ => timed_iff.mpr ?_,
        fun h => absurd h hfile, fun _ n => size_of_number, size_of_none⟩
      rw [rawTime, hkind]
      rfl
  · cases h

theorem Timed.unique (h : Timed now keys entry t) (h' : Timed now keys entry t') : t = t' :=
  (timed_iff.mp h).trans (timed_iff.mp h').symm

/-- An entry speaks of one object. -/
theorem Describes.unique (h : Describes now entry o) (h' : Describes now entry o') : o = o' := by
  have hid : o.id = o'.id := (Json.firstOr_iff.mp h.id).trans (Json.firstOr_iff.mp h'.id).symm
  have hname : o.name = o'.name :=
    (Json.firstOr_iff.mp h.name).trans (Json.firstOr_iff.mp h'.name).symm
  have hkind : o.isFolder = o'.isFolder := Bool.eq_iff_iff.mpr (h.kind.trans h'.kind.symm)
  have htime : o.modified = o'.modified := by
    by_cases hfolder : SaysFolder entry
    · exact (h.folderTime hfolder).unique (h'.folderTime hfolder)
    · exact (h.fileTime hfolder).unique (h'.fileTime hfolder)
  have hsize : o.size = o'.size := by
    by_cases hfolder : SaysFolder entry
    · rw [h.folderSize hfolder, h'.folderSize hfolder]
    by_cases hnumber : ∃ n, entry.field? "size" = some (.number n)
    · obtain ⟨n, hn⟩ := hnumber
      rw [h.fileSize hfolder n hn, h'.fileSize hfolder n hn]
    · have hnone := not_exists.mp hnumber
      rw [h.noSize hnone, h'.noSize hnone]
  obtain ⟨id, name, size, modified, isFolder⟩ := o
  obtain ⟨id', name', size', modified', isFolder'⟩ := o'
  simp only [RemoteObject.mk.injEq]
  exact ⟨hid, hname, hsize, htime, hkind⟩

/-- **An entry gives the object that it speaks of.** -/
theorem object?_eq_some_iff :
    object? now entry = some o ↔ entry.isObject = true ∧ Describes now entry o := by
  constructor
  · intro h
    refine ⟨?_, describes_of_object? h⟩
    unfold object? at h
    split at h
    · assumption
    · cases h
  · rintro ⟨hobject, h⟩
    obtain ⟨o', ho'⟩ : ∃ o', object? now entry = some o' := by
      rw [object?, if_pos hobject]
      exact ⟨_, rfl⟩
    rw [ho', h.unique (describes_of_object? ho')]

theorem idKeys_read (folder : Bool) : ∀ key ∈ idKeys, key ∈ keysRead folder := by
  cases folder <;> decide

theorem nameKeys_read (folder : Bool) : ∀ key ∈ nameKeys, key ∈ keysRead folder := by
  cases folder <;> decide

theorem timeKeys_read (folder : Bool) : ∀ key ∈ timeKeys folder, key ∈ keysRead folder := by
  cases folder <;> decide

/-- No other field makes a difference. -/
theorem object?_congr (h : SaysSame x y) (now : Instant) : object? now x = object? now y := by
  obtain ⟨hobject, folder, hfolder, hsame⟩ := h
  have hkind : isFolder x = folder := Bool.eq_iff_iff.mpr (isFolder_iff.trans hfolder.symm)
  have hkind' : isFolder y = folder := by
    rw [← hkind, isFolder, isFolder, hsame "is_folder" (by cases folder <;> decide),
      hsame "type" (by cases folder <;> decide)]
  have hid : findId? idKeys x = findId? idKeys y :=
    Json.firstOf_congr fun key hkey => hsame key (idKeys_read folder key hkey)
  have hname : x.firstOf Json.text? nameKeys = y.firstOf Json.text? nameKeys :=
    Json.firstOf_congr fun key hkey => hsame key (nameKeys_read folder key hkey)
  have htime : rawTime x = rawTime y := by
    rw [rawTime, rawTime, hkind, hkind',
      Json.firstOf_congr fun key hkey => hsame key (timeKeys_read folder key hkey)]
  simp only [object?, hobject, hid, hname, htime, hkind, hkind']
  cases folder with
  | true => rfl
  | false =>
    have hsize : size x = size y := by
      rw [size, size, hsame "size" (by decide)]
    simp only [hsize]

end Entries

/-! ## Lists of entries -/

section Lists

variable {es es' : List Json}

/-- One object for each entry that is one, in the order of the entries. -/
theorem describes_objects (now : Instant) (entries : Json) :
    List.Forall₂ (Describes now) ((entries.array?.getD []).filter Json.isObject)
      (objects now entries) := by
  rw [objects]
  induction entries.array?.getD [] with
  | nil => exact .nil
  | cons entry es ih =>
    cases hentry : object? now entry with
    | none =>
      have hobject : ¬ entry.isObject = true := by
        intro hobject
        rw [object?, if_pos hobject] at hentry
        cases hentry
      rwa [List.filter_cons_of_neg hobject, List.filterMap_cons_none hentry]
    | some o =>
      obtain ⟨hobject, hdescribes⟩ := object?_eq_some_iff.mp hentry
      rw [List.filter_cons_of_pos hobject, List.filterMap_cons_some hentry]
      exact .cons hdescribes ih

theorem objects_of_no_array {entries : Json} (h : ∀ es, entries ≠ .array es) (now : Instant) :
    objects now entries = [] := by
  cases entries with
  | array es => exact absurd rfl (h es)
  | null | bool | number | text | object => rfl

theorem filterMap_object?_congr (h : List.Forall₂ SaysSame es es') (now : Instant) :
    es.filterMap (object? now) = es'.filterMap (object? now) := by
  induction h with
  | nil => rfl
  | cons hentry _ ih => rw [List.filterMap_cons, List.filterMap_cons, object?_congr hentry, ih]

end Lists

end Listing

/-! ## The whole listing -/

namespace Drive

open Listing (Describes SaysSame)

variable {d : Drive} {now : Instant} {l : Live} {dir : RemoteId}

theorem list_ok_iff {outcome : Outcome} :
    ((d.perform (.list dir)).exec now l).1 = .ok outcome ↔
      ∃ e, d.Answered now l (.list dir) e ∧
        outcome = .objects (Listing.objects now (items e)) := by
  have hjob : (Step.list dir).job? = some (.list dir) := rfl
  rw [perform_ok_iff hjob rfl]
  simp only [Except.ok.injEq, eq_comm]

/-- **A listing gives the objects that its entries describe**, one for each entry that is an object
and in their order, and none if there is no list of entries. Entries that say the same where they
are read give the same objects. -/
theorem list_gives (d : Drive) (now : Instant) (l : Live) (dir : RemoteId) :
    (∀ e, d.Answered now l (.list dir) e →
      ∃ os l', (d.perform (.list dir)).exec now l = (.ok (.objects os), l') ∧
        (∀ es, items e = .array es →
          List.Forall₂ (Describes now) (es.filter Json.isObject) os) ∧
        ((∀ es, items e ≠ .array es) → os = []) ∧
        ∀ m e', d.Answered now m (.list dir) e' →
          List.Forall₂ SaysSame (entries e) (entries e') →
          ∃ m', (d.perform (.list dir)).exec now m = (.ok (.objects os), m')) ∧
    ∀ outcome l', (d.perform (.list dir)).exec now l = (.ok outcome, l') →
      ∃ e, d.Answered now l (.list dir) e := by
  refine ⟨fun e h => ?_, fun outcome l' h => ?_⟩
  · refine ⟨_, _, Prod.ext (list_ok_iff.mpr ⟨e, h, rfl⟩) rfl, ?_, ?_, ?_⟩
    · intro es hes
      rw [hes]
      exact Listing.describes_objects now (.array es)
    · intro hnone
      exact Listing.objects_of_no_array hnone now
    · intro m e' h' hsame
      have hobjects : Listing.objects now (items e) = Listing.objects now (items e') :=
        Listing.filterMap_object?_congr hsame now
      exact ⟨_, Prod.ext (list_ok_iff.mpr ⟨e', h', by rw [hobjects]⟩) rfl⟩
  · obtain ⟨e, he, -⟩ := list_ok_iff.mp (congrArg Prod.fst h)
    exact ⟨e, he⟩

/-! ### Samples -/

/-- Three entries: no object, a folder that says in one of the two ways that it is none, and a file
with a time that is none. -/
def sampleMixed : Reply := Session.answering
  ("\x7b\"data\":\x7b\"items\":[7,\x7b\"id\":true,\"file_id\":12,\"is_folder\":false," ++
    "\"type\":\"folder\"\x7d,\x7b\"filename\":\"a\",\"size\":2,\"modified\":\"x\"\x7d]\x7d\x7d")

theorem list_gives_mixed : ∃ e es os l',
    Answered ⟨.sample, .root⟩ .epoch (sampleMoving sampleMixed) (.list .root) e ∧
      items e = .array es ∧
      (Drive.perform ⟨.sample, .root⟩ (.list .root)).exec .epoch (sampleMoving sampleMixed) =
        (.ok (.objects os), l') ∧
      os = [.folder "12" "" .epoch, .file "" "a" 2 .epoch] ∧
      List.Forall₂ (Describes .epoch) (es.filter Json.isObject) os := by
  have hresult : ((Drive.perform ⟨.sample, .root⟩ (.list .root)).exec .epoch
      (sampleMoving sampleMixed)).1 =
        .ok (.objects [.folder "12" "" .epoch, .file "" "a" 2 .epoch]) := by
    decide +kernel
  have hseen : (Client.answered .operation Client.sampleRequest sampleMixed).toOption.map
      (fun e => (items e).array?.isSome) = some true := by
    decide +kernel
  obtain ⟨e, hverdict, hitems⟩ := exists_envelope sampleMixed _ hseen
  obtain ⟨es, hes⟩ : ∃ es, items e = .array es := by
    cases hentries : items e with
    | array es => exact ⟨es, rfl⟩
    | null | bool | number | text | object =>
      rw [hentries] at hitems
      cases hitems
  have hanswered : Answered ⟨.sample, .root⟩ .epoch (sampleMoving sampleMixed) (.list .root) e :=
    sample_answered rfl (by decide +kernel) hverdict
  obtain ⟨os, l', hexec, hdescribes, -⟩ :=
    (list_gives ⟨.sample, .root⟩ .epoch (sampleMoving sampleMixed) .root).1 e hanswered
  rw [hexec] at hresult
  cases hresult
  exact ⟨e, es, _, l', hanswered, hes, hexec, rfl, hdescribes es hes⟩

end Drive
end RemoteDrive
