import RemoteDrive.Proofs.Drive.Plan

/-!
# What is told of a file

An upload has two halves in time. First the file is read, and nothing is sent; then the session and
the service are called, and nothing is read. So what the service is told cannot depend on a stream
that breaks off later, and a stream that breaks leaves no trace but the reads.

The first half is the preparation of the step, which only takes notes. For the second it is enough
to look at the reads of a situation (`Live.reads`): the courses of the session and the plans leave
them as they were. What is told then is what the spool has been given, which is why the forms of
both steps say the digest and the size of the bytes that were read (`Request.Describes`).
-/

set_option autoImplicit false

namespace RemoteDrive

/-! ## Nothing is read for a token or with it -/

namespace Session

variable {s : Session} {now : Instant} {l l' : Live}

theorem reads_of_refresh {result : Except (Stop Fault) Unit}
    (h : s.refresh.exec now l = (result, l')) : l'.reads = l.reads := by
  cases refresh_course h <;> simp

theorem reads_of_authenticate {result : Except (Stop Fault) Unit}
    (h : s.authenticate.exec now l = (result, l')) : l'.reads = l.reads := by
  cases authenticate_course h <;> simp

theorem reads_of_ensureValid {result : Except (Stop Fault) String}
    (h : s.ensureValid.exec now l = (result, l')) : l'.reads = l.reads := by
  have hrenewing : (renewing now l).reads = l.reads := l.reads_logged _
  cases ensureValid_course h with
  | held => rfl
  | refreshed hv hr | lost hv hr => exact (reads_of_refresh hr).trans hrenewing
  | authenticated hv hr ha | refused hv hr ha =>
    have hrefresh := (reads_of_refresh hr).trans hrenewing
    rw [reads_of_authenticate ha, Live.reads_logged, hrefresh]

end Session

theorem Plan.reads_run {α : Type} (p : Plan α) (l : Live) : (p.run l).2.reads = l.reads := by
  fun_induction Plan.run p l with
  | case1 | case3 => rfl
  | case2 event rest l ih => rw [ih, Live.reads_logged]
  | case4 request family next l r => exact l.reads_heard r
  | case5 request family next l r _ e _ ih => rw [ih, Live.reads_heard]

/-- Where the reads have stayed, nothing that has been added is one. -/
theorem Live.not_read_of_reads {l l' : Live} {os : List Occurrence}
    (hos : l'.history = l.history ++ os) (hreads : l'.reads = l.reads) :
    ∀ what, .read what ∉ os := by
  intro what hwhat
  have hadded : l'.reads = l.reads ++ ({ l with history := os } : Live).reads := by
    simp [Live.reads, hos]
  rw [hreads, List.self_eq_append_right] at hadded
  have hmem : what ∈ ({ l with history := os } : Live).reads :=
    List.mem_filterMap.mpr ⟨.read what, hwhat, rfl⟩
  simp [hadded] at hmem

namespace Drive

variable {d : Drive} {now : Instant} {l l' k : Live}

/-- With a job nothing is read any more. -/
theorem carryOut_reads {job : Job} {result : Except (Stop Failure) Outcome}
    (h : (d.carryOut job).exec now k = (result, l')) :
    l'.reads = k.reads ∧ k.history <+: l'.history := by
  rw [exec_carryOut] at h
  rcases hanswer : d.session.ensureValid.exec now k with ⟨(why | _) | token, m⟩
  all_goals
    have hreads := Session.reads_of_ensureValid hanswer
    have hextends := Session.extends_of_ensureValid hanswer
    have hgrown := hextends.history_prefix
    rw [hanswer] at h
  · cases h
    exact ⟨hreads, hgrown⟩
  · cases h
    exact ⟨hreads, hgrown⟩
  · have hwork := d.work_steady token job now m
    have hplan := d.work_follows token now job m
    rw [show (d.work token job).exec now m = (result, l') from h] at hwork hplan
    obtain ⟨-, rfl⟩ := Prod.mk.inj hplan
    exact ⟨(Plan.reads_run _ m).trans hreads, hgrown.trans hwork.history_prefix⟩

end Drive

/-! ## What a spool says of a file -/

/-- The request names the digest of these bytes and their number, and no other of either. The number
is counted in a word, as the program and the service count it. -/
def Request.Describes (content : List UInt8) (r : Request) : Prop :=
  ∃ form, r.form = some form ∧
    form.filter (·.1 = "hash") = [("hash", Hex.encode (Md5.digest content))] ∧
    form.filter (·.1 = "filesize") = [("filesize", Decimal.nat (content.length % UInt64.size))]

namespace Upload

variable {c : Client} {token path name : String} {folder : RemoteId} {s : Spool}
  {content : List UInt8} {r : Request}

theorem form_of_formRequest {form : List (String × String)}
    (h : formRequest c token path form = .ok r) : r.form = some form := by
  obtain ⟨r₁, -, h⟩ := bind_eq_ok h
  obtain ⟨r₂, -, h⟩ := bind_eq_ok h
  cases h
  rfl

theorem toNat_size_ofSpool (h : s.Holds content) :
    (UploadDescriptor.ofSpool name folder s).size.toNat = content.length % UInt64.size := by
  simp [UploadDescriptor.ofSpool, h.size, UInt64.size]

theorem describes_of_form (h : s.Holds content) {ticket : List (String × String)}
    (hticket : ∀ field ∈ ticket, field.1 ≠ "hash" ∧ field.1 ≠ "filesize")
    (hr : r.form = some ((UploadDescriptor.ofSpool name folder s).form ++ ticket)) :
    r.Describes content := by
  have hhash : ticket.filter (·.1 = "hash") = [] := by
    simpa [List.filter_eq_nil_iff] using fun a b hab => (hticket (a, b) hab).1
  have hsize : ticket.filter (·.1 = "filesize") = [] := by
    simpa [List.filter_eq_nil_iff] using fun a b hab => (hticket (a, b) hab).2
  refine ⟨_, hr, ?_, ?_⟩
  · rw [List.filter_append, hhash, ← h.hash]
    rfl
  · rw [List.filter_append, hsize, ← toNat_size_ofSpool h]
    rfl

theorem describes_of_announces (h : s.Holds content)
    (hr : Announces c token (.ofSpool name folder s) r) : r.Describes content := by
  have hform := form_of_formRequest hr
  rw [← List.append_nil (UploadDescriptor.form _)] at hform
  exact describes_of_form h (by simp) hform

theorem describes_of_confirms (h : s.Holds content)
    (hr : Confirms c token (.ofSpool name folder s) r) : r.Describes content := by
  obtain ⟨t, hr⟩ := hr
  refine describes_of_form h ?_ (form_of_formRequest hr)
  simp [UploadTicket.form]

end Upload

namespace Drive

variable {d : Drive} {now : Instant} {l l' k : Live}

/-- Where the job is an upload, what is sent with the token describes what is in its spool. -/
theorem carryOut_put {target : RemoteId} {name : String} {s : Spool} {content : List UInt8}
    (hs : s.Holds content) {result : Except (Stop Failure) Outcome}
    (h : (d.carryOut (.put target name s)).exec now k = (result, l')) :
    ∃ session own, l'.exchanges = k.exchanges ++ (session ++ own) ∧
      (∀ x ∈ session, d.session.Own x.1) ∧ (∀ x ∈ own, x.1.Describes content) ∧
      ∀ outcome, result = .ok outcome → ∃ o, outcome = .object o ∧ o.isFolder = false ∧
        o.size.toNat = content.length % UInt64.size := by
  rw [exec_carryOut] at h
  rcases hanswer : d.session.ensureValid.exec now k with ⟨(why | _) | token, m⟩
  all_goals
    obtain ⟨session, hsession, hown⟩ := (Session.extends_of_ensureValid hanswer).exchanges
    rw [hanswer] at h
  -- without a token the session's requests are all there are
  · cases h
    exact ⟨session, [], by simpa using hsession, hown, by simp, by simp⟩
  · cases h
    exact ⟨session, [], by simpa using hsession, hown, by simp, by simp⟩
  · have hplan := d.work_follows token now (.put target name s) m
    rw [show (d.work token _).exec now m = (result, l') from h] at hplan
    obtain ⟨rfl, rfl⟩ := Prod.mk.inj hplan
    have hsends := (Upload.plan_sends d.client token (.ofSpool name target s) now).map
      Outcome.object
    obtain ⟨own, hexchanges, hsent⟩ := hsends.exchanges_run m
    refine ⟨session, own, ?_, hown, ?_, ?_⟩
    · rw [← List.append_assoc, ← hsession]
      exact hexchanges
    · intro x hx
      obtain ⟨kind, hkind, hx⟩ := hsent.exists_kind hx
      simp only [List.mem_cons, List.not_mem_nil, or_false] at hkind
      rcases hkind with rfl | rfl
      · exact Upload.describes_of_announces hs hx
      · exact Upload.describes_of_confirms hs hx
    · intro outcome houtcome
      have hgives : (d.plan token now (.put target name s)).Gives fun outcome =>
          ∃ o, outcome = .object o ∧ o.isFolder = false ∧
            o.size.toNat = content.length % UInt64.size := by
        refine (Upload.plan_gives d.client token (.ofSpool name target s) now).map _ ?_
        rintro o ⟨hfile, -, hsize⟩
        exact ⟨o, rfl, hfile, hsize ▸ Upload.toNat_size_ofSpool hs⟩
      exact hgives.of_run (mapError_eq_ok_iff.mp houtcome)

/-! ## The whole upload -/

/-- **The service is told of a file what has been read, once all of it has been read.** A stream that
breaks leaves the session and the service alone. -/
theorem put_describes_what_was_read (d : Drive) (target : RemoteId) (stream : FileStream)
    (watched : Bool) (hname : Name.fault? stream.name = none) (now : Instant) (l : Live) :
    ∃ result l' before after,
      (d.perform (.put target stream watched)).exec now l = (result, l') ∧
      l'.history = l.history ++ (before ++ after) ∧ l'.reads = l.reads ++ stream.made ∧
      (∀ r reply, .sent r reply ∉ before) ∧ (∀ what, .read what ∉ after) ∧
      (∀ text, stream.broken? = some text →
        result = .error (.failed ⟨[.reading stream.name], .stated .io text⟩) ∧ after = [] ∧
          l'.tokens = l.tokens ∧ l'.peer = l.peer) ∧
      (stream.broken? = none →
        ∃ session own, l'.exchanges = l.exchanges ++ (session ++ own) ∧
          (∀ x ∈ session, d.session.Own x.1) ∧ (∀ x ∈ own, x.1.Describes stream.content) ∧
          ∀ outcome, result = .ok outcome → ∃ o, outcome = .object o ∧ o.isFolder = false ∧
            o.size.toNat = stream.content.length % UInt64.size) := by
  obtain ⟨first, hfirst⟩ : ∃ first, prepare? (.put target stream watched) = some first := ⟨_, rfl⟩
  obtain ⟨k, hprepare, hreads⟩ := exec_prepare_put hfirst hname now l
  obtain ⟨ready, before, hbefore, hnotes⟩ := prepare_notes hfirst now
  -- so the reads are among the notes that come before
  obtain ⟨-, rfl⟩ := Prod.mk.inj (hprepare.symm.trans (hnotes l))
  cases hbroken : stream.broken? with
  | some text =>
    rw [hbroken] at hprepare
    have hexec : (first >>= d.carryOut).exec now l = _ := Act.exec_bind_error hprepare
    rw [← perform_eq hfirst] at hexec
    refine ⟨_, _, before, [], hexec, by simp, hreads, hbefore, by simp, ?_, by simp⟩
    intro text' htext
    cases htext
    exact ⟨rfl, rfl, rfl, rfl⟩
  | none =>
    rw [hbroken] at hprepare
    rcases hjob : (d.carryOut (.put target stream.name stream.spooled)).exec now
      { l with history := l.history ++ before } with ⟨result, l'⟩
    obtain ⟨hkept, after, hafter⟩ := carryOut_reads hjob
    refine ⟨result, l', before, after, ?_, ?_, hkept.trans hreads, hbefore, ?_, by simp, ?_⟩
    · rw [perform_eq hfirst, Act.exec_bind_ok hprepare]
      exact hjob
    · rw [← hafter, List.append_assoc]
    · exact Live.not_read_of_reads hafter.symm hkept
    · intro _
      have hsame := (Live.Alike.noted l hbefore).exchanges
      obtain ⟨session, own, hsent, hput⟩ := carryOut_put stream.holds_spooled hjob
      exact ⟨session, own, hsame ▸ hsent, hput⟩

theorem put_describes_one_byte : ∃ l' before after session own o,
    (Drive.perform ⟨.sample, .root⟩ (.put .root sampleStream false)).exec .epoch sampleUploading =
        (.ok (.object o), l') ∧
      l'.history = before ++ after ∧ (∀ r reply, .sent r reply ∉ before) ∧
      (∀ what, .read what ∉ after) ∧ l'.exchanges = session ++ own ∧
      (l'.exchanges.map fun x => x.1.form.bind (·.lookup "hash")) =
        [none, some "0cc175b9c0f1b6a831c399e269772661",
          some "0cc175b9c0f1b6a831c399e269772661"] ∧
      (∀ x ∈ own, x.1.Describes [0x61]) ∧ o.size.toNat = 1 := by
  have hcontent : sampleStream.content = [0x61] ∧ sampleStream.broken? = none := by
    decide +kernel
  have hfacts :
      ((Drive.perform ⟨.sample, .root⟩ (.put .root sampleStream false)).exec .epoch
        sampleUploading).1 = .ok (.object (.file "7" "a.txt" 1 .epoch)) ∧
      (((Drive.perform ⟨.sample, .root⟩ (.put .root sampleStream false)).exec .epoch
        sampleUploading).2.exchanges.map fun x => x.1.form.bind (·.lookup "hash")) =
          [none, some "0cc175b9c0f1b6a831c399e269772661",
            some "0cc175b9c0f1b6a831c399e269772661"] := by
    decide +kernel
  obtain ⟨result, l', before, after, hexec, hhistory, -, hbefore, hafter, -, hwhole⟩ :=
    put_describes_what_was_read ⟨.sample, .root⟩ .root sampleStream false (by decide +kernel) .epoch
      sampleUploading
  obtain ⟨session, own, hsent, -, hdescribes, hsize⟩ := hwhole hcontent.2
  rw [hexec] at hfacts
  obtain ⟨rfl, hhashes⟩ := hfacts
  obtain ⟨o, ho, -, hsize⟩ := hsize _ rfl
  cases ho
  rw [hcontent.1] at hdescribes hsize
  exact ⟨l', before, after, session, own, _, hexec, hhistory, hbefore, hafter, hsent, hhashes,
    hdescribes, hsize⟩

end Drive
end RemoteDrive
