import RemoteDrive.Proofs.Drive.Answer

/-!
# What a move gives back

The answer to a move may repeat the moved object, among others. The object that the host is given
takes its name and its time from there, and is otherwise the one that it has moved. `Moved` says
which of the entries of an answer counts, and what is taken from it: the first whose identifier is
the object's, and of that a name that is not empty and a time that can be read. What stands behind
it makes no difference (`Moved.of_behind`).

A listing reads the same entries and goes further. It looks for an identifier under three names and
for a name under two, where a move knows one of each. So an entry that a listing takes for the moved
object may leave it under its old name, or be passed over altogether, and `move_of_listed` says when
that happens.
-/

set_option autoImplicit false

namespace RemoteDrive
namespace Drive

/-! ## Entries -/

/-- The entries that an answer repeats; none if it has anything but a list for them. -/
def entries (e : Envelope) : List Json := (items e).array?.getD []

/-- The entry is an object, and under `id` it has this text, or a number that is written so. -/
inductive Identifies (id : String) : Json → Prop
  | text {fields : List (String × Json)} (h : fields.lookup "id" = some (.text id)) :
    Identifies id (.object fields)
  | number {fields : List (String × Json)} {n : JsonNumber}
    (h : fields.lookup "id" = some (.number n)) (hn : Listing.idText? (.number n) = some id) :
    Identifies id (.object fields)

def Renames (name : String) (entry : Json) : Prop :=
  entry.field? "name" = some (.text name) ∧ name ≠ ""

def Dates (t : Instant) (entry : Json) : Prop :=
  ∃ raw, entry.field? "created_at" = some (.text raw) ∧ Timestamp.read? raw = some t

/-- `o'` is what becomes of `o` at the moment `now` if the answer repeats it in this entry. -/
structure Refined (o : RemoteObject) (now : Instant) (entry : Json) (o' : RemoteObject) : Prop where
  id : o'.id = o.id
  size : o'.size = o.size
  kind : o'.isFolder = o.isFolder
  named : ∀ name, Renames name entry → o'.name = name
  unnamed : (∀ name, ¬ Renames name entry) → o'.name = o.name
  dated : ∀ t, Dates t entry → o'.modified = t
  undated : (∀ t, ¬ Dates t entry) → o'.modified = now

/-- `o'` is what becomes of `o` at the moment `now` if the answer repeats these entries. -/
inductive Moved (o : RemoteObject) (now : Instant) : List Json → RemoteObject → Prop
  | unrepeated : Moved o now [] (o.withModified now)
  | passedOver {entry : Json} {rest : List Json} {o' : RemoteObject}
    (hentry : ¬ Identifies o.id entry) (h : Moved o now rest o') : Moved o now (entry :: rest) o'
  | repeated {entry : Json} {rest : List Json} {o' : RemoteObject}
    (hentry : Identifies o.id entry) (h : Refined o now entry o') : Moved o now (entry :: rest) o'

section Entries

variable {entry : Json} {id : String}

theorem identifies_iff :
    Listing.idText? (entry.fieldOrNull "id") = some id ↔ Identifies id entry := by
  constructor
  · intro h
    cases entry with
    | object fields =>
      rw [Json.fieldOrNull, Json.field?] at h
      cases hid : fields.lookup "id" with
      | none =>
        rw [hid] at h
        cases h
      | some v =>
        rw [hid] at h
        cases v with
        | text s =>
          cases h
          exact .text hid
        | number n => exact .number hid h
        | null | bool | array | object => cases h
    | null | bool | number | text | array => cases h
  · intro h
    cases h with
    | text hid =>
      rw [Json.fieldOrNull, Json.field?, hid]
      rfl
    | number hid hn =>
      rw [Json.fieldOrNull, Json.field?, hid]
      exact hn

theorem bind_idText? {key : String} :
    (entry.field? key).bind Listing.idText? = Listing.idText? (entry.fieldOrNull key) := by
  rw [Json.fieldOrNull]
  cases entry.field? key <;> rfl

theorem bind_text?_eq_some_iff {key s : String} :
    (entry.field? key).bind Json.text? = some s ↔ entry.field? key = some (.text s) := by
  cases entry.field? key with
  | none => simp
  | some v => cases v <;> simp [Json.text?]

theorem renames_iff {name : String} :
    ((entry.field? "name").bind Json.text?).filter (· ≠ "") = some name ↔ Renames name entry := by
  rw [Option.filter_eq_some_iff, bind_text?_eq_some_iff, decide_eq_true_iff, Renames]

theorem dates_iff {t : Instant} :
    ((entry.field? "created_at").bind Json.text?).bind Timestamp.read? = some t ↔
      Dates t entry := by
  simp only [Option.bind_eq_some_iff, ← bind_text?_eq_some_iff, Dates]

end Entries

/-! ## The moved object -/

section Object

variable {o o' o'' : RemoteObject} {now : Instant} {entry : Json} {es before after : List Json}

theorem Refined.unique (h : Refined o now entry o') (h' : Refined o now entry o'') : o' = o'' := by
  have hname : o'.name = o''.name := by
    by_cases hnamed : ∃ name, Renames name entry
    · obtain ⟨name, hname⟩ := hnamed
      rw [h.named name hname, h'.named name hname]
    · have hnone := not_exists.mp hnamed
      rw [h.unnamed hnone, h'.unnamed hnone]
  have htime : o'.modified = o''.modified := by
    by_cases hdated : ∃ t, Dates t entry
    · obtain ⟨t, ht⟩ := hdated
      rw [h.dated t ht, h'.dated t ht]
    · have hnone := not_exists.mp hdated
      rw [h.undated hnone, h'.undated hnone]
  obtain ⟨id, name, size, modified, isFolder⟩ := o'
  obtain ⟨id', name', size', modified', isFolder'⟩ := o''
  simp only [RemoteObject.mk.injEq]
  exact ⟨h.id.trans h'.id.symm, hname, h.size.trans h'.size.symm, htime, h.kind.trans h'.kind.symm⟩

/-- One object comes of the entries. -/
theorem Moved.unique (h : Moved o now es o') (h' : Moved o now es o'') : o' = o'' := by
  -- an entry counts or does not, so both derivations take the same step
  induction h with
  | unrepeated =>
    cases h' with
    | unrepeated => rfl
  | passedOver hentry _ ih =>
    cases h' with
    | passedOver _ h' => exact ih h'
    | repeated hentry' => exact absurd hentry' hentry
  | repeated hentry h =>
    cases h' with
    | passedOver hentry' => exact absurd hentry hentry'
    | repeated _ h' => exact h.unique h'

/-- Whatever stands behind an entry that counts makes no difference. -/
theorem Moved.of_behind {after' : List Json} (h : Moved o now (before ++ entry :: after) o')
    (hentry : Identifies o.id entry) : Moved o now (before ++ entry :: after') o' := by
  induction before with
  | nil =>
    cases h with
    | passedOver hpassed => exact absurd hentry hpassed
    | repeated _ h => exact .repeated hentry h
  | cons x before ih =>
    cases h with
    | passedOver hx h => exact .passedOver hx (ih h)
    | repeated hx h => exact .repeated hx h

/-- Entries that do not count make no difference where they stand in front. -/
theorem Moved.of_before (h : Moved o now (before ++ es) o')
    (hbefore : ∀ x ∈ before, ¬ Identifies o.id x) : Moved o now es o' := by
  induction before with
  | nil => exact h
  | cons x before ih =>
    cases h with
    | passedOver _ h => exact ih h fun y hy => hbefore y (List.mem_cons_of_mem x hy)
    | repeated hx => exact absurd hx (hbefore x List.mem_cons_self)

/-- The object with what an entry says of it. -/
def edited (o : RemoteObject) (now : Instant) (entry : Json) : RemoteObject :=
  let name := ((entry.field? "name").bind Json.text?).filter (· ≠ "")
  let time := ((entry.field? "created_at").bind Json.text?).bind Timestamp.read?
  (o.withModified (time.getD now)).withName (name.getD o.name)

theorem refined_edited (o : RemoteObject) (now : Instant) (entry : Json) :
    Refined o now entry (edited o now entry) where
  id := rfl
  size := rfl
  kind := rfl
  named name hname := by
    simp only [edited, RemoteObject.withName, renames_iff.mpr hname, Option.getD_some]
  unnamed hnone := by
    have hfilter := Option.eq_none_iff_forall_ne_some.mpr fun name h =>
      hnone name (renames_iff.mp h)
    simp only [edited, RemoteObject.withName, hfilter, Option.getD_none]
  dated t ht := by
    simp only [edited, RemoteObject.withName, RemoteObject.withModified, dates_iff.mpr ht,
      Option.getD_some]
  undated hnone := by
    have hbind := Option.eq_none_iff_forall_ne_some.mpr fun t h => hnone t (dates_iff.mp h)
    simp only [edited, RemoteObject.withName, RemoteObject.withModified, hbind, Option.getD_none]

/-- A move takes the object from the first entry with its identifier. -/
theorem moved_entries (o : RemoteObject) (now : Instant) (e : Envelope) :
    Moved o now (entries e) (moved o now e) := by
  have hall : ∀ es : List Json, Moved o now es (edited o now
      ((es.find? fun x => Listing.idText? (x.fieldOrNull "id") == some o.id).getD .null)) := by
    intro es
    -- the search and the inductive go over the entries in the same order
    induction es with
    | nil => exact .unrepeated
    | cons x es ih =>
      rw [List.find?_cons]
      split
      · rename_i hx
        exact .repeated (identifies_iff.mp (beq_iff_eq.mp hx)) (refined_edited o now x)
      · rename_i hx
        exact .passedOver (mt identifies_iff.mpr (beq_eq_false_iff_ne.mp hx)) ih
  exact hall (entries e)

end Object

/-! ## The whole move -/

/-- A move of `o` is answered, the answer passes, and this is its envelope. -/
def MoveAnswered (d : Drive) (now : Instant) (l : Live) (o : RemoteObject) (target : RemoteId)
    (e : Envelope) : Prop :=
  ∃ token m r, d.session.ensureValid.exec now l = (.ok token, m) ∧
    Client.reaching m.peer.accepts
      (d.client.filled token .move (objectForm o ++ [("target_id", target.text)])) = .ok r ∧
    Verdict .operation r m.nextReply (.ok e)

section Move

variable {d : Drive} {now : Instant} {l : Live} {o : RemoteObject} {target : RemoteId}

theorem moveAnswered_iff {e : Envelope} :
    d.MoveAnswered now l o target e ↔ d.Answered now l (.move o target) e := by
  constructor
  · rintro ⟨token, m, r, hasked, hr, hverdict⟩
    exact ⟨_, token, m, r, rfl, hasked, hr, hverdict⟩
  · rintro ⟨call, token, m, r, hcall, hasked, hr, hverdict⟩
    obtain rfl := Option.some.inj hcall
    exact ⟨token, m, r, hasked, hr, hverdict⟩

/-- A move succeeds exactly if it is answered, and what it gives depends on the answer. -/
theorem move_ok_iff {outcome : Outcome} :
    ((d.perform (.move o target)).exec now l).1 = .ok outcome ↔
      ∃ e, d.MoveAnswered now l o target e ∧ outcome = .object (moved o now e) := by
  have hjob : (Step.move o target).job? = some (.move o target) := rfl
  rw [perform_ok_iff hjob rfl]
  simp only [moveAnswered_iff, Except.ok.injEq, eq_comm]

theorem exec_move {e : Envelope} (h : d.MoveAnswered now l o target e) :
    ∃ l', (d.perform (.move o target)).exec now l = (.ok (.object (moved o now e)), l') :=
  ⟨_, Prod.ext (move_ok_iff.mpr ⟨e, h, rfl⟩) rfl⟩

/-- **A moved object is the object, refined by the first entry that repeats it.** A move gives an
object exactly if its answer passes, and the entries of the answer say which one. -/
theorem move_gives (d : Drive) (now : Instant) (l : Live) (o : RemoteObject) (target : RemoteId) :
    (∀ e, d.MoveAnswered now l o target e →
      ∃ o' l', (d.perform (.move o target)).exec now l = (.ok (.object o'), l') ∧
        Moved o now (entries e) o' ∧
        ∀ before entry after after', entries e = before ++ entry :: after →
          Identifies o.id entry → Moved o now (before ++ entry :: after') o') ∧
    ∀ outcome l', (d.perform (.move o target)).exec now l = (.ok outcome, l') →
      ∃ e, d.MoveAnswered now l o target e := by
  refine ⟨fun e h => ?_, fun outcome l' h => ?_⟩
  · obtain ⟨l', hexec⟩ := exec_move h
    have hmoved := moved_entries o now e
    refine ⟨moved o now e, l', hexec, hmoved, ?_⟩
    intro before entry after after' hes hentry
    rw [hes] at hmoved
    exact hmoved.of_behind hentry
  · obtain ⟨e, he, -⟩ := move_ok_iff.mp (congrArg Prod.fst h)
    exact ⟨e, he⟩

end Move

/-! ### Samples -/

def sampleMoved : RemoteObject := .file "12" "a.txt" 42 .epoch

/-- A token that lasts for a minute yet, and a peer that will answer this. -/
def sampleMoving (reply : Reply) : Live :=
  ⟨some ⟨"t", none, (Instant.epoch.addSeconds? 60).getD .epoch⟩, ⟨true, [reply]⟩, []⟩

theorem exists_envelope {β : Type} (reply : Reply) (look : Envelope → β) {seen : β}
    (h : (Client.answered .operation Client.sampleRequest reply).toOption.map look = some seen) :
    ∃ e, Verdict .operation Client.sampleRequest reply (.ok e) ∧ look e = seen :=
  exists_passed h Client.sampleRequest

/-- A job of the sample drive is answered by what its peer will answer. -/
theorem sample_answered {job : Job} {call : Call Outcome} {reply : Reply} {e : Envelope}
    (hcall : job.call? Session.sample.client .epoch = some call)
    (hreached : (Client.reaching true (call.request "t")).isOk = true)
    (h : Verdict call.family Client.sampleRequest reply (.ok e)) :
    Answered ⟨.sample, .root⟩ .epoch (sampleMoving reply) job e := by
  have hasked : Session.sample.ensureValid.exec .epoch (sampleMoving reply) =
      (.ok "t", sampleMoving reply) := by
    rw [Session.exec_ensureValid_held (by unfold Session.holdsValid; rfl), Session.exec_handOut rfl]
  cases hr : Client.reaching true (call.request "t") with
  | error why =>
    rw [hr] at hreached
    cases hreached
  | ok r => exact ⟨call, "t", sampleMoving reply, r, hcall, hasked, hr, h.passed_of_passed r⟩

theorem sample_moveAnswered {reply : Reply} {e : Envelope}
    (h : Verdict .operation Client.sampleRequest reply (.ok e)) :
    MoveAnswered ⟨.sample, .root⟩ .epoch (sampleMoving reply) sampleMoved .root e :=
  moveAnswered_iff.mpr (sample_answered rfl (by decide +kernel) h)

/-- Three entries, of which the second and the third have the identifier 12. -/
def sampleEcho : Reply := Session.answering
  ("\x7b\"code\":200,\"data\":\x7b\"items\":[\x7b\"id\":11\x7d," ++
    "\x7b\"id\":12.2,\"name\":\"b.txt\"\x7d,\x7b\"id\":\"12\",\"name\":\"c.txt\"\x7d]\x7d\x7d")

theorem move_gives_echoed : ∃ e x y z o' l', entries e = [x, y, z] ∧
    (Drive.perform ⟨.sample, .root⟩ (.move sampleMoved .root)).exec .epoch
      (sampleMoving sampleEcho) = (.ok (.object o'), l') ∧
    o' = .file "12" "b.txt" 42 .epoch ∧ Moved sampleMoved .epoch [x, y] o' := by
  have hresult : ((Drive.perform ⟨.sample, .root⟩ (.move sampleMoved .root)).exec .epoch
      (sampleMoving sampleEcho)).1 = .ok (.object (.file "12" "b.txt" 42 .epoch)) := by
    decide +kernel
  have hseen : (Client.answered .operation Client.sampleRequest sampleEcho).toOption.map
      (fun e => (entries e).map fun x => Listing.idText? (x.fieldOrNull "id")) =
        some [some "11", some "12", some "12"] := by
    decide +kernel
  obtain ⟨e, hverdict, hids⟩ := exists_envelope sampleEcho _ hseen
  simp only [List.map_eq_cons_iff, List.map_eq_nil_iff] at hids
  obtain ⟨x, _, hes, -, y, _, rfl, hy, z, _, rfl, -, rfl⟩ := hids
  obtain ⟨o', l', hexec, -, hbehind⟩ := (move_gives ⟨.sample, .root⟩ .epoch
    (sampleMoving sampleEcho) sampleMoved .root).1 e (sample_moveAnswered hverdict)
  have hmoved := hbehind [x] y [z] [] hes (identifies_iff.mp hy)
  rw [hexec] at hresult
  cases hresult
  exact ⟨e, x, y, z, _, l', hes, hexec, rfl, hmoved⟩

/-! ## Moves and listings -/

/-- The first entry that a listing takes for an object with this identifier stands behind `before`,
and `o'` is what it takes it for. -/
structure Listed (now : Instant) (id : String) (before : List Json) (entry : Json)
    (o' : RemoteObject) : Prop where
  first : ∀ x ∈ before, ∀ y, Listing.object? now x = some y → y.id ≠ id
  object : Listing.object? now entry = some o'
  id : o'.id = id

section Listed

variable {o o' o₁ : RemoteObject} {now : Instant} {id : String} {entry : Json}
  {before after : List Json}

theorem listed_fields (h : Listing.object? now entry = some o') :
    o'.id = (Listing.findId? Listing.idKeys entry).getD "" ∧
      o'.name = (entry.firstOf Json.text? Listing.nameKeys).getD "" := by
  unfold Listing.object? at h
  split at h
  · cases h
    split <;> exact ⟨rfl, rfl⟩
  · cases h

/-- What a move takes for the object is an object of this identifier to a listing, too. -/
theorem listed_of_identifies (h : Identifies id entry) (now : Instant) :
    ∃ o', Listing.object? now entry = some o' ∧ o'.id = id := by
  have hobject : entry.isObject = true := by
    cases h <;> rfl
  have hfirst : Listing.findId? Listing.idKeys entry = some id := by
    rw [Listing.findId?, Json.firstOf, Listing.idKeys, List.findSome?_cons, bind_idText?,
      identifies_iff.mpr h]
  obtain ⟨o', ho'⟩ : ∃ o', Listing.object? now entry = some o' := by
    rw [Listing.object?, if_pos hobject]
    exact ⟨_, rfl⟩
  refine ⟨o', ho', ?_⟩
  rw [(listed_fields ho').1, hfirst, Option.getD_some]

/-- A name under the first of its keys is the name to a listing. -/
theorem name_of_listed {name : String} (h : Listing.object? now entry = some o')
    (hname : entry.field? "name" = some (.text name)) : o'.name = name := by
  have hfirst : entry.firstOf Json.text? Listing.nameKeys = some name := by
    rw [Json.firstOf, Listing.nameKeys, List.findSome?_cons, bind_text?_eq_some_iff.mpr hname]
  rw [(listed_fields h).2, hfirst, Option.getD_some]

theorem Moved.of_listed (hmoved : Moved o now (before ++ entry :: after) o₁)
    (hlisted : Listed now o.id before entry o') (hname : o'.name ≠ "") :
    (Identifies o.id entry →
      (∀ name, entry.field? "name" = some (.text name) → o₁.name = o'.name) ∧
      ((∀ name, entry.field? "name" ≠ some (.text name)) → o₁.name = o.name)) ∧
    (¬ Identifies o.id entry → Moved o now after o₁) := by
  have hbefore : ∀ x ∈ before, ¬ Identifies o.id x := by
    intro x hx hid
    obtain ⟨y, hy, hyid⟩ := listed_of_identifies hid now
    exact hlisted.first x hx y hy hyid
  have hrest := hmoved.of_before hbefore
  refine ⟨fun hid => ?_, fun hid => ?_⟩
  · cases hrest with
    | passedOver hpassed => exact absurd hid hpassed
    | repeated _ h =>
      refine ⟨fun name hfield => ?_, fun hnone => ?_⟩
      · have hsame := name_of_listed hlisted.object hfield
        rw [hsame]
        exact h.named name ⟨hfield, hsame ▸ hname⟩
      · exact h.unnamed fun name hnamed => hnone name hnamed.1
  · cases hrest with
    | passedOver _ h => exact h
    | repeated hid' => exact absurd hid' hid

end Listed

/-- **A move and a listing agree on an entry that has its identifier under `id` and its name under
`name`.** If the name is elsewhere the object keeps its old one, and an entry that has the
identifier elsewhere is passed over, as if the answer had repeated only what stands behind it. -/
theorem move_of_listed (d : Drive) (now : Instant) (l : Live) (o : RemoteObject) (target : RemoteId)
    {e : Envelope} {before : List Json} {entry : Json} {after : List Json} {o' : RemoteObject}
    (h : d.MoveAnswered now l o target e) (hes : entries e = before ++ entry :: after)
    (hlisted : Listed now o.id before entry o') (hname : o'.name ≠ "") :
    ∃ o₁ l', (d.perform (.move o target)).exec now l = (.ok (.object o₁), l') ∧
      (Identifies o.id entry →
        (∀ name, entry.field? "name" = some (.text name) → o₁.name = o'.name) ∧
        ((∀ name, entry.field? "name" ≠ some (.text name)) → o₁.name = o.name)) ∧
      (¬ Identifies o.id entry → Moved o now after o₁) := by
  obtain ⟨l', hexec⟩ := exec_move h
  have hmoved := moved_entries o now e
  rw [hes] at hmoved
  exact ⟨moved o now e, l', hexec, hmoved.of_listed hlisted hname⟩

/-- An answer that repeats the object under another name and under another key. -/
def sampleOther : Reply := Session.answering
  "\x7b\"data\":\x7b\"items\":[\x7b\"file_id\":12,\"name\":\"b.txt\"\x7d]\x7d\x7d"

theorem move_of_listed_other : ∃ o₁ l',
    (Drive.perform ⟨.sample, .root⟩ (.move sampleMoved .root)).exec .epoch
      (sampleMoving sampleOther) = (.ok (.object o₁), l') ∧ Moved sampleMoved .epoch [] o₁ := by
  have hseen : (Client.answered .operation Client.sampleRequest sampleOther).toOption.map
      (fun e => (entries e).map fun x =>
        (Listing.object? .epoch x, Listing.idText? (x.fieldOrNull "id"))) =
        some [(some (.file "12" "b.txt" 0 .epoch), none)] := by
    decide +kernel
  obtain ⟨e, hverdict, hlook⟩ := exists_envelope sampleOther _ hseen
  simp only [List.map_eq_cons_iff, List.map_eq_nil_iff, Prod.mk.injEq] at hlook
  obtain ⟨entry, _, hes, ⟨hobject, hid⟩, rfl⟩ := hlook
  have hlisted : Listed .epoch "12" [] entry (.file "12" "b.txt" 0 .epoch) :=
    ⟨by simp, hobject, rfl⟩
  obtain ⟨o₁, l', hexec, -, hpassed⟩ := move_of_listed ⟨.sample, .root⟩ .epoch
    (sampleMoving sampleOther) sampleMoved .root (sample_moveAnswered hverdict) hes hlisted
    (by decide)
  refine ⟨o₁, l', hexec, hpassed fun hidentifies => ?_⟩
  cases hid.symm.trans (identifies_iff.mpr hidentifies)

/-- An answer that repeats the object under another name, which it has under the second key. -/
def sampleRenamed : Reply := Session.answering
  "\x7b\"data\":\x7b\"items\":[\x7b\"id\":12,\"filename\":\"b.txt\"\x7d]\x7d\x7d"

/-- **A move does not see a name that a listing sees.** -/
theorem move_overlooks_name : ∃ e entry o' l',
    MoveAnswered ⟨.sample, .root⟩ .epoch (sampleMoving sampleRenamed) sampleMoved .root e ∧
      entries e = [entry] ∧ Listed .epoch sampleMoved.id [] entry o' ∧ o'.name = "b.txt" ∧
      (Drive.perform ⟨.sample, .root⟩ (.move sampleMoved .root)).exec .epoch
        (sampleMoving sampleRenamed) = (.ok (.object (.file "12" "a.txt" 42 .epoch)), l') := by
  have hresult : ((Drive.perform ⟨.sample, .root⟩ (.move sampleMoved .root)).exec .epoch
      (sampleMoving sampleRenamed)).1 = .ok (.object (.file "12" "a.txt" 42 .epoch)) := by
    decide +kernel
  have hseen : (Client.answered .operation Client.sampleRequest sampleRenamed).toOption.map
      (fun e => (entries e).map fun x => Listing.object? .epoch x) =
        some [some (.file "12" "b.txt" 0 .epoch)] := by
    decide +kernel
  obtain ⟨e, hverdict, hlook⟩ := exists_envelope sampleRenamed _ hseen
  simp only [List.map_eq_cons_iff, List.map_eq_nil_iff] at hlook
  obtain ⟨entry, _, hes, hobject, rfl⟩ := hlook
  have hlisted : Listed .epoch "12" [] entry (.file "12" "b.txt" 0 .epoch) :=
    ⟨by simp, hobject, rfl⟩
  exact ⟨e, entry, _, _, sample_moveAnswered hverdict, hes, hlisted, rfl, Prod.ext hresult rfl⟩

end Drive
end RemoteDrive
