import RemoteDrive.Drive.Crowd
import RemoteDrive.Proofs.Drive.Requests

/-!
# A crowd asks the service once

Jobs that are carried out at the same time ask the session one after another. If the first answer is
a token that lasts, every other answer is the same token, and the service is not asked again: there
is one renewal at the most, and it is made by the job that had the session to itself first
(`asked_once`). That holds of every order of the moves and whatever the peer replies to the jobs.

A crowd is in one of two stages. As long as nobody has asked, nothing has happened
(`Crowd.Unasked`). From the first answer on, the tokens are those that it left, and nothing is sent
but with this token (`Handed`). One move leads from the first stage to the second; all others stay
where they are.
-/

set_option autoImplicit false

namespace RemoteDrive

namespace Crowd

variable {c : Crowd} {i : Nat} {t : Task}

/-- A task after a move is the one that has moved, or it was there before. -/
theorem mem_enter {phase : Phase} {t' : Task} (h : t' ∈ (c.enter i t phase).tasks) :
    t' = ⟨t.job, phase⟩ ∨ t' ∈ c.tasks :=
  (List.mem_or_eq_of_mem_set h).symm

theorem getElem?_enter {phase : Phase} {j : Nat} {t' : Task}
    (h : (c.enter i t phase).tasks[j]? = some t') :
    j = i ∧ t' = ⟨t.job, phase⟩ ∨ c.tasks[j]? = some t' := by
  by_cases hj : i = j
  · subst hj
    refine .inl ⟨rfl, ?_⟩
    have hi : i < (c.tasks.set i ⟨t.job, phase⟩).length := (List.getElem?_eq_some_iff.mp h).1
    rw [enter, List.getElem?_set_self (by simpa using hi)] at h
    exact (Option.some.inj h).symm
  · right
    rwa [enter, List.getElem?_set_ne hj] at h

end Crowd

namespace Drive

variable {d : Drive} {now : Instant} {l l₁ : Live} {token : String}

/-! ## One job alone -/

theorem advance_set {owner : Option Nat} {tasks : List Task} {i : Nat} {job : Job} {phase : Phase}
    (hi : i < tasks.length) :
    d.advance now ⟨l, owner, tasks.set i ⟨job, phase⟩⟩ i =
      d.advanceTask now ⟨l, owner, tasks.set i ⟨job, phase⟩⟩ i ⟨job, phase⟩ := by
  rw [advance, List.getElem?_set_self hi]

/-- **A job that is not interrupted is carried out**: five moves take it from its wait to its
end. -/
theorem interleave_alone {c : Crowd} {i : Nat} {job : Job} (howner : c.owner = none)
    (h : c.tasks[i]? = some ⟨job, .waiting⟩) :
    ∃ answer, d.interleave now [i, i, i, i, i] c =
      ⟨((d.carryOut job).exec now c.live).2, none,
        c.tasks.set i ⟨job, .ended answer ((d.carryOut job).exec now c.live).1⟩⟩ := by
  obtain ⟨l, owner, tasks⟩ := c
  have hi : i < tasks.length := (List.getElem?_eq_some_iff.mp h).1
  have hfirst : d.advance now ⟨l, owner, tasks⟩ i = ⟨l, some i, tasks.set i ⟨job, .holding⟩⟩ := by
    rw [advance, h]
    exact if_pos howner
  show ∃ answer, d.advance now (d.advance now (d.advance now (d.advance now (d.advance now
    ⟨l, owner, tasks⟩ i) i) i) i) i = _
  rw [hfirst, carryOut]
  rcases he : (d.tokenFor job).exec now l with ⟨stop | token, l₁⟩
  · refine ⟨.error stop, ?_⟩
    simp only [advance_set hi, advanceTask, Crowd.enter, List.set_set, he,
      Act.exec_bind_error he]
  · refine ⟨.ok token, ?_⟩
    rw [Act.exec_bind_ok he, work_eq]
    rcases hb : (d.begin token job).exec now l₁ with ⟨stop | leg, l₂⟩
    · simp only [advance_set hi, advanceTask, Crowd.enter, List.set_set, he, hb,
        Act.exec_bind_error hb]
    · simp only [advance_set hi, advanceTask, Crowd.enter, List.set_set, he, hb,
        Act.exec_bind_ok hb]

/-! ## The two stages -/

/-- Nobody has asked the session yet, and nothing has happened. -/
structure Unasked (l : Live) (c : Crowd) : Prop where
  live : c.live = l
  answers : ∀ t ∈ c.tasks, t.phase.answer? = none
  /-- Only one job has the session to itself. -/
  owner : ∀ i t, c.tasks[i]? = some t → t.phase = .holding → c.owner = some i

/-- Since the situation `l₁` every answer of the session was this token. -/
structure Handed (d : Drive) (token : String) (l₁ : Live) (c : Crowd) : Prop where
  steady : l₁.Steady (d.Sends token) c.live
  answers : ∀ t ∈ c.tasks, ∀ answer, t.phase.answer? = some answer → answer = .ok token

theorem unasked_start (l : Live) (jobs : List Job) : Unasked l (.start l jobs) := by
  refine ⟨rfl, ?_, ?_⟩
  · intro t ht
    obtain ⟨job, -, rfl⟩ := List.mem_map.mp ht
    rfl
  · intro i t ht hholding
    obtain ⟨job, -, rfl⟩ := List.mem_map.mp (List.mem_of_getElem? ht)
    cases hholding

/-- What a move adds to the answers is enough. -/
theorem Handed.enter {c : Crowd} {i : Nat} {t : Task} {phase : Phase} {owner : Option Nat}
    {l : Live} (h : d.Handed token l₁ c) (hl : c.live.Steady (d.Sends token) l)
    (hphase : ∀ answer, phase.answer? = some answer → answer = .ok token) :
    d.Handed token l₁ ⟨l, owner, (c.enter i t phase).tasks⟩ := by
  refine ⟨h.steady.trans hl, fun t' ht' answer hanswer => ?_⟩
  rcases Crowd.mem_enter ht' with rfl | ht'
  · exact hphase answer hanswer
  · exact h.answers t' ht' answer hanswer

/-- The session answers with the token that it holds, as long as that lasts. -/
theorem exec_tokenFor_again (hasked : d.session.ensureValid.exec now l = (.ok token, l₁))
    (hvalid : Session.holdsValid now l₁) {m : Live} (hm : m.tokens = l₁.tokens) (job : Job) :
    (d.tokenFor job).exec now m = (.ok token, m) := by
  obtain ⟨⟨t, ht, rfl⟩, -⟩ := Session.ensureValid_eq_ok hasked
  have hmvalid : Session.holdsValid now m := by
    rw [Session.holdsValid, hm]
    exact hvalid
  rw [exec_tokenFor, Session.exec_ensureValid_held hmvalid, Session.exec_handOut (hm.trans ht)]

/-- **Once the session has handed out a token that lasts, it stays with it.** -/
theorem handed_advance (hasked : d.session.ensureValid.exec now l = (.ok token, l₁))
    (hvalid : Session.holdsValid now l₁) {c : Crowd} (h : d.Handed token l₁ c) (i : Nat) :
    d.Handed token l₁ (d.advance now c i) := by
  unfold advance
  cases ht : c.tasks[i]? with
  | none => exact h
  | some t =>
    have hanswer := h.answers t (List.mem_of_getElem? ht)
    obtain ⟨job, phase⟩ := t
    cases phase with
    | waiting =>
      by_cases hfree : c.owner = none
      · simp only [advanceTask, hfree, if_true]
        exact h.enter (.refl _) (by simp [Phase.answer?])
      · simp only [advanceTask, hfree, if_false]
        exact h
    | holding =>
      simp only [advanceTask, exec_tokenFor_again hasked hvalid h.steady.tokens]
      exact h.enter (.refl _) (by simp [Phase.answer?])
    | answered answer =>
      obtain rfl : answer = .ok token := hanswer answer rfl
      exact h.enter (.refl _) (by simp [Phase.answer?])
    | ready token' =>
      obtain rfl : token' = token := Except.ok.inj (hanswer _ rfl)
      have hbegin := d.begin_steady token' job now c.live
      simp only [advanceTask]
      rcases hexec : (d.begin token' job).exec now c.live with ⟨stop | leg, l₂⟩
      all_goals
        rw [hexec] at hbegin
        exact h.enter hbegin (by simp [Phase.answer?])
    | underway token' leg =>
      obtain rfl : token' = token := Except.ok.inj (hanswer _ rfl)
      exact h.enter (d.finish_steady token' leg now c.live) (by simp [Phase.answer?])
    | ended answer result => exact h

theorem handed_interleave (hasked : d.session.ensureValid.exec now l = (.ok token, l₁))
    (hvalid : Session.holdsValid now l₁) (order : List Nat) {c : Crowd}
    (h : d.Handed token l₁ c) : d.Handed token l₁ (d.interleave now order c) := by
  induction order generalizing c with
  | nil => exact h
  | cons i order ih => exact ih (handed_advance hasked hvalid h i)

/-- The one move that leads from the first stage to the second is made by the owner of the
session. -/
theorem unasked_advance (hasked : d.session.ensureValid.exec now l = (.ok token, l₁)) {c : Crowd}
    (h : Unasked l c) (i : Nat) :
    Unasked l (d.advance now c i) ∨
      c.owner = some i ∧ (d.advance now c i).live = l₁ ∧ d.Handed token l₁ (d.advance now c i) := by
  unfold advance
  cases ht : c.tasks[i]? with
  | none => exact .inl h
  | some t =>
    have hanswer := h.answers t (List.mem_of_getElem? ht)
    have howner := h.owner i t ht
    obtain ⟨job, phase⟩ := t
    cases phase with
    | waiting =>
      left
      by_cases hfree : c.owner = none
      · simp only [advanceTask, hfree, if_true]
        refine ⟨h.live, fun t' ht' => ?_, fun j t' ht' hholding => ?_⟩
        · rcases Crowd.mem_enter ht' with rfl | ht'
          · rfl
          · exact h.answers t' ht'
        · rcases Crowd.getElem?_enter ht' with ⟨rfl, -⟩ | ht'
          · rfl
          · exact absurd (h.owner j t' ht' hholding) (by simp [hfree])
      · simp only [advanceTask, hfree, if_false]
        exact h
    | holding =>
      right
      have hexec : (d.tokenFor job).exec now c.live = (.ok token, l₁) := by
        rw [exec_tokenFor, h.live, hasked]
      simp only [advanceTask, hexec]
      refine ⟨howner rfl, trivial, .refl l₁, fun t' ht' answer hsaid => ?_⟩
      rcases Crowd.mem_enter ht' with rfl | ht'
      · exact (Option.some.inj hsaid).symm
      · rw [h.answers t' ht'] at hsaid
        cases hsaid
    | answered | ready | underway | ended => cases hanswer

/-- The stages of a whole order of moves. -/
theorem unasked_interleave (hasked : d.session.ensureValid.exec now l = (.ok token, l₁))
    (hvalid : Session.holdsValid now l₁) (order : List Nat) {c : Crowd} (h : Unasked l c) :
    Unasked l (d.interleave now order c) ∨
      ∃ before i after, order = before ++ i :: after ∧
        Unasked l (d.interleave now before c) ∧ (d.interleave now before c).owner = some i ∧
        (d.interleave now (before ++ [i]) c).live = l₁ ∧
        d.Handed token l₁ (d.interleave now order c) := by
  induction order generalizing c with
  | nil => exact .inl h
  | cons i order ih =>
    rcases unasked_advance hasked h i with hnext | ⟨howner, hlive, hhanded⟩
    · rcases ih hnext with hlast | ⟨before, j, after, rfl, hbefore⟩
      · exact .inl hlast
      · exact .inr ⟨i :: before, j, after, rfl, hbefore⟩
    · refine .inr ⟨[], i, order, rfl, h, howner, hlive, ?_⟩
      exact handed_interleave hasked hvalid order hhanded

theorem jobs_advance (d : Drive) (now : Instant) (c : Crowd) (i : Nat) :
    (d.advance now c i).tasks.map Task.job = c.tasks.map Task.job := by
  unfold advance
  cases ht : c.tasks[i]? with
  | none => rfl
  | some t =>
    have henter : ∀ phase, (c.enter i t phase).tasks.map Task.job = c.tasks.map Task.job := by
      intro phase
      obtain ⟨hi, rfl⟩ := List.getElem?_eq_some_iff.mp ht
      have hlength : i < (c.tasks.map Task.job).length := by simpa using hi
      have hjob : c.tasks[i].job = (c.tasks.map Task.job)[i] := by simp
      show (c.tasks.set i ⟨c.tasks[i].job, phase⟩).map Task.job = _
      rw [List.map_set, hjob, List.set_getElem_self]
    show (d.advanceTask now c i t).tasks.map Task.job = _
    unfold advanceTask
    split
    · split
      · exact henter _
      · rfl
    · exact henter _
    · exact henter _
    · exact henter _
    · split <;> exact henter _
    · exact henter _
    · rfl

/-- Nobody joins a crowd, and nobody leaves it. -/
theorem jobs_interleave (d : Drive) (now : Instant) (order : List Nat) (c : Crowd) :
    (d.interleave now order c).tasks.map Task.job = c.tasks.map Task.job := by
  induction order generalizing c with
  | nil => rfl
  | cons i order ih => exact (ih _).trans (jobs_advance d now c i)

/-- **Jobs at the same time renew the tokens once.** If the session's first answer is a token that
lasts, then in whatever order the jobs move, nobody has asked yet, or there was one move in which
the session was renewed: it was made by the owner of the session, with one refresh and one show of
the credentials at the most. What has been sent since shows this token and is no request of the
session, every answer is this token, and the tokens are still those of that move. -/
theorem asked_once (d : Drive) (now : Instant) (l l₁ : Live) (token : String) (jobs : List Job)
    (order : List Nat) (hasked : d.session.ensureValid.exec now l = (.ok token, l₁))
    (hvalid : Session.holdsValid now l₁) :
    (d.interleave now order (.start l jobs)).tasks.map Task.job = jobs ∧
    (Unasked l (d.interleave now order (.start l jobs)) ∨
      ∃ before i after first second rest, order = before ++ i :: after ∧
        Unasked l (d.interleave now before (.start l jobs)) ∧
        (d.interleave now before (.start l jobs)).owner = some i ∧
        (d.interleave now (before ++ [i]) (.start l jobs)).live = l₁ ∧
        l₁.exchanges = l.exchanges ++ (first ++ second) ∧ first.length ≤ 1 ∧ second.length ≤ 1 ∧
        (∀ x ∈ first, ∃ shown, d.session.refreshRequest shown = .ok x.1) ∧
        (∀ x ∈ second, d.session.authenticateRequest = .ok x.1) ∧
        (d.interleave now order (.start l jobs)).live.exchanges = l₁.exchanges ++ rest ∧
        (∀ x ∈ rest, x.1.Bears token ∧ ¬ d.session.Own x.1) ∧
        (∀ t ∈ (d.interleave now order (.start l jobs)).tasks, ∀ answer,
          t.phase.answer? = some answer → answer = .ok token) ∧
        (d.interleave now order (.start l jobs)).live.tokens = l₁.tokens) := by
  have hjobs : (d.interleave now order (.start l jobs)).tasks.map Task.job = jobs := by
    rw [jobs_interleave]
    show (jobs.map fun job => (⟨job, .waiting⟩ : Task)).map Task.job = jobs
    rw [List.map_map]
    exact List.map_id jobs
  refine ⟨hjobs, ?_⟩
  rcases unasked_interleave hasked hvalid order (unasked_start l jobs) with hnobody | hone
  · exact .inl hnobody
  · obtain ⟨before, i, after, horder, hbefore, howner, hlive, hhanded⟩ := hone
    obtain ⟨first, second, hsent, hfirst, hsecond, hrefreshes, hshows⟩ :=
      Session.exchanges_of_ensureValid hasked
    obtain ⟨rest, hrest, hsends⟩ := hhanded.steady.toExtends.exchanges
    refine .inr ⟨before, i, after, first, second, rest, horder, hbefore, howner, hlive, hsent,
      hfirst, hsecond, fun x hx => ?_, hshows, hrest, fun x hx => ?_, hhanded.answers,
      hhanded.steady.tokens⟩
    · obtain ⟨-, shown, -, hr⟩ := hrefreshes x hx
      exact ⟨shown, hr⟩
    · obtain ⟨e, hrequest⟩ := hsends x hx
      have hbears := bears_of_objectRequest hrequest
      exact ⟨hbears, not_own_of_bears hbears⟩

/-- Two jobs that take turns; the second has to wait for the session. -/
def sampleOrder : List Nat := [0, 1, 0, 1, 0, 1, 0, 1, 1, 0, 1, 1]

/-- Their drive refreshes once, and both show the new token. -/
theorem asked_once_two :
    ∃ before i after, sampleOrder = before ++ i :: after ∧
      (Drive.interleave ⟨.sample, .root⟩ .epoch before
        (.start sampleRenewing [.list .root, .link .root])).owner = some i ∧
      (Drive.interleave ⟨.sample, .root⟩ .epoch sampleOrder
        (.start sampleRenewing [.list .root, .link .root])).live.requests.map (·.url.text) =
          ["http://h/refresh_token", "http://h/list_files?folder_id=0",
            "http://h/get_download_url?file_id=0"] ∧
      ∀ t ∈ (Drive.interleave ⟨.sample, .root⟩ .epoch sampleOrder
        (.start sampleRenewing [.list .root, .link .root])).tasks,
        ∀ answer, t.phase.answer? = some answer → answer = .ok "b" := by
  have hasked : (Session.sample.ensureValid.exec .epoch sampleRenewing).1 = .ok "b" ∧
      SessionState.ofTokens .epoch
        (Session.sample.ensureValid.exec .epoch sampleRenewing).2.tokens = .authenticated := by
    decide +kernel
  have hrequests : (Drive.interleave ⟨.sample, .root⟩ .epoch sampleOrder
      (.start sampleRenewing [.list .root, .link .root])).live.requests.map (·.url.text) =
        ["http://h/refresh_token", "http://h/list_files?folder_id=0",
          "http://h/get_download_url?file_id=0"] := by
    decide +kernel
  obtain ⟨-, hnobody | hone⟩ := asked_once ⟨.sample, .root⟩ .epoch sampleRenewing _ "b"
    [.list .root, .link .root] sampleOrder (Prod.ext hasked.1 rfl) hasked.2
  · rw [hnobody.live] at hrequests
    simp [sampleRenewing, Live.requests] at hrequests
  · obtain ⟨before, i, after, -, -, -, horder, -, howner, -, -, -, -, -, -, -, -, hanswers, -⟩ := hone
    exact ⟨before, i, after, horder, howner, hrequests, hanswers⟩

end Drive
end RemoteDrive
