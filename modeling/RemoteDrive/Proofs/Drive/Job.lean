import RemoteDrive.Drive.Job
import RemoteDrive.Proofs.Act

/-!
# Operations as jobs

The two ways in which an operation is cut give the operation back: into a preparation and a job
(`perform_eq`), and a job into its requests (`work_eq`). Naming the failures of a part names the
failures of the whole, which is all that these equations rest on (`Act.mapFailure_bind`).

So what is proved of an operation is proved of three parts: of its preparation, which only takes
notes (`prepare_notes`) and none of a token (`prepare_remarks`), of the session, and of the job with
a token (`exec_carryOut`).
-/

set_option autoImplicit false

namespace RemoteDrive

namespace Drive

variable {α : Type} {d : Drive} {now : Instant} {l l' : Live}

/-! ## Preparations -/

section Remarks

theorem inside_takes {K : Occurrence → Prop} {act : Act Failure α} (c : Context) (h : act.Takes K) :
    (inside c act).Takes K :=
  h.mapFailure (Failure.within c)

theorem lift_takes {K : Occurrence → Prop} {act : Act Fault α} (h : act.Takes K) :
    (lift act).Takes K :=
  h.mapFailure Failure.ofFault

theorem remark_log (e : Event) (h : (e.fields.all fun p => !tokenKeys.contains p.1) = true) :
    (Act.log e : Act Failure Unit).Takes Occurrence.Remark :=
  .record (Event.tokenless_iff.mpr h)

theorem checkName_remarks (name : String) : (checkName name).Takes Occurrence.Remark := by
  unfold checkName
  split
  · exact .fail _
  · exact .pure ()

theorem readOn_remarks (declared : UInt64) (watched : Bool) (reads : List Read) (s : Spool) :
    (Spool.readOn declared watched reads s).Takes Occurrence.Remark := by
  -- on the reads, as the reading goes; what has been read so far is in `s`
  induction reads generalizing s with
  | nil => exact .pure s
  | cons r rest ih =>
    cases r with
    | failure text => exact (Act.Takes.record trivial).bind fun _ => .fail _
    | bytes data =>
      refine (Act.Takes.record trivial).bind fun _ => ?_
      split
      · exact .pure s
      · cases watched with
        | false => exact ih _
        | true => exact (Act.Takes.record trivial).bind fun _ => ih _

theorem sizeReport_tokenless (stream : FileStream) (s : Spool) :
    ∀ e ∈ Spool.sizeReport stream s, e.Tokenless := by
  intro e he
  unfold Spool.sizeReport at he
  split at he
  · rw [List.mem_singleton.mp he]
    exact Event.tokenless_iff.mpr rfl
  · cases he

theorem spool_remarks (stream : FileStream) (watched : Bool) :
    (spool stream watched).Takes Occurrence.Remark := by
  refine inside_takes _ (lift_takes ((readOn_remarks _ _ _ _).bind fun s => ?_))
  exact (Act.Takes.logAll (sizeReport_tokenless stream s)).bind fun _ => .pure s

/-- **Before it needs a token an operation only makes remarks.** -/
theorem prepare_remarks {step : Step} {first : Act Failure Job} (h : prepare? step = some first) :
    first.Takes Occurrence.Remark := by
  cases step with
  | list | link =>
    cases h
    exact .pure _
  | makeDir | rename =>
    cases h
    exact (checkName_remarks _).bind fun _ => (remark_log _ rfl).bind fun _ => .pure _
  | move | remove =>
    cases h
    exact (remark_log _ rfl).bind fun _ => .pure _
  | put target stream watched =>
    cases h
    refine (checkName_remarks _).bind fun _ => (remark_log _ rfl).bind fun _ => ?_
    exact (spool_remarks stream watched).bind fun s => .pure _
  | init | shutdown | archiveMeta | listArchive | extract | decompress | details => cases h

end Remarks

theorem prepare_notes {step : Step} {first : Act Failure Job} (h : prepare? step = some first) :
    first.Notes :=
  (prepare_remarks h).notes fun _ _ => id

/-! ## An operation in its parts -/

/-- **An operation on objects is its preparation and then its job.** -/
theorem perform_eq {step : Step} {first : Act Failure Job} (h : prepare? step = some first) :
    d.perform step = first >>= d.carryOut := by
  cases step with
  | list dir =>
    cases h
    simp [perform, list, carryOut, tokenFor, Job.told, work, Act.mapFailure_id]
  | link file =>
    cases h
    simp [perform, link, carryOut, tokenFor, Job.told, work, Act.mapFailure_id]
  | makeDir parent name =>
    cases h
    simp [perform, makeDir, carryOut, tokenFor, Job.told, work, inside, Act.mapFailure_bind]
  | move o target =>
    cases h
    simp [perform, move, carryOut, tokenFor, Job.told, work, inside, Act.mapFailure_bind]
  | rename o name =>
    cases h
    simp [perform, rename, carryOut, tokenFor, Job.told, work, inside, Act.mapFailure_bind]
  | remove o =>
    cases h
    simp [perform, remove, carryOut, tokenFor, Job.told, work, inside, Act.mapFailure_bind]
  | put target stream watched =>
    cases h
    simp [perform, put, carryOut, tokenFor, Job.told, work, Act.mapFailure_id]
  | init | shutdown | archiveMeta | listArchive | extract | decompress | details => cases h

/-- **A job is its first request and then what is left.** -/
theorem work_eq (token : String) (job : Job) :
    d.work token job = d.begin token job >>= d.finish token := by
  cases job with
  | put target name s =>
    simp [work, begin, finish, putWith, Upload.transfer, inside, lift, Act.mapFailure_bind,
      Act.mapFailure_map, UploadDescriptor.ofSpool]
  | list | link | makeDir | move | rename | remove => simp [begin, finish]

/-- How the session's answer to a job is told by the job. -/
theorem exec_tokenFor (job : Job) :
    (d.tokenFor job).exec now l =
      match d.session.ensureValid.exec now l with
      | (.ok token, l') => (.ok token, l')
      | (.error (.failed why), l') => (.error (.failed (job.told ⟨[.accessToken], why⟩)), l')
      | (.error .outsideCalendar, l') => (.error .outsideCalendar, l') := by
  simp only [tokenFor, accessToken, inside, lift, Act.exec_mapFailure]
  rcases d.session.ensureValid.exec now l with ⟨(_ | _) | _, _⟩ <;> rfl

/-- **With a token the job is done, and without one it ends as the session has left it.** -/
theorem exec_carryOut (job : Job) :
    (d.carryOut job).exec now l =
      match d.session.ensureValid.exec now l with
      | (.ok token, l') => (d.work token job).exec now l'
      | (.error (.failed why), l') => (.error (.failed (job.told ⟨[.accessToken], why⟩)), l')
      | (.error .outsideCalendar, l') => (.error .outsideCalendar, l') := by
  rw [carryOut, Act.exec_bind, exec_tokenFor]
  rcases d.session.ensureValid.exec now l with ⟨(_ | _) | _, _⟩ <;> rfl

end Drive
end RemoteDrive
