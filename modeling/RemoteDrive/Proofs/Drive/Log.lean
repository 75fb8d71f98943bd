import RemoteDrive.Proofs.Drive.Secrecy
import RemoteDrive.Proofs.Drive.Tokens
import RemoteDrive.Proofs.Session.Log

/-!
# Tokens in the log of a drive

A drive tells the log much, but a field for a token only through its session: its preparations make
remarks (`prepare_remarks`) and its jobs are quiet (`work_quiet`). So what a step tells of tokens is
what the session tells (`tells_perform`).

That the fields are the only way from a token to the log is said of two runs. The tokens of one may
be any others than those of the other, as long as they begin alike; then the logs are the same
(`log_masks_tokens`). A token that the service repeats at a place where it names no token is told from
there, and one that has no more characters than are shown is told whole (`short_token_shown`).
-/

set_option autoImplicit false

namespace RemoteDrive

namespace Drive

variable {d : Drive}

/-! ## Steps and turns -/

theorem tells_carryOut (job : Job) (now : Instant) (l : Live) :
    d.session.Tells l ((d.carryOut job).exec now l).2 := by
  rw [exec_carryOut]
  rcases hasked : d.session.ensureValid.exec now l with ⟨(why | _) | token, l'⟩
  · exact Session.tells_ensureValid hasked
  · exact Session.tells_ensureValid hasked
  · exact (Session.tells_ensureValid hasked).andQuiet (d.work_quiet token job now l')
      (d.work_steady token job now l').toExtends

theorem tells_perform (step : Step) (now : Instant) (l : Live) :
    d.session.Tells l ((d.perform step).exec now l).2 := by
  cases hfirst : prepare? step with
  | some first =>
    have hquiet := (prepare_remarks hfirst).quiet now l
    have hsteady := (prepare_notes hfirst).steady (P := Request.None) now l
    rw [perform_eq hfirst, Act.exec_bind]
    generalize first.exec now l = out at hquiet hsteady ⊢
    obtain ⟨stop | job, k⟩ := out
    · exact .of_quiet hquiet
    · exact (tells_carryOut job now k).afterQuiet hquiet hsteady
  | none =>
    cases step with
    | init =>
      rw [exec_init]
      rcases ha : d.session.authenticate.exec now l with ⟨(why | _) | _, l'⟩
      · exact Session.tells_authenticate ha
      · exact Session.tells_authenticate ha
      · exact (Session.tells_authenticate ha).andQuiet (.logged _ (Event.tokenless_iff.mpr rfl))
          (Q := Request.None) (.logged _ _)
    | shutdown =>
      rw [perform, Session.exec_map Drive.shutdown fun _ => Outcome.done]
      exact .of_quiet (Session.quiet_invalidate now l)
    | archiveMeta | listArchive | extract | decompress | details => exact .of_quiet (.refl l)
    | list | link | makeDir | move | rename | remove | put => cases hfirst

theorem runs (d : Drive) : Runs d.turn d.run := ⟨fun _ => rfl, fun _ _ _ => rfl⟩

theorem tells_turn (t : Turn Step) (l : Live) : d.session.Tells l (d.turn t l).2 :=
  .ofAwaiting t.replies (tells_perform t.step t.now (l.awaiting t.replies))

theorem turn_kin (t t' : Turn Step) (l m : Live) (h : t.Kin Eq t') (hlm : l.Kin m) :
    (d.turn t l).2.Kin (d.turn t' m).2 := by
  have hd : d.Twins d := ⟨d.session.twins_self, rfl⟩
  unfold turn
  rw [← h.now, ← h.step]
  exact (perform_related hd kin_likeness t.step t.now _ _ (hlm.awaiting h.replies)).2

/-! ## Runs -/

/-- **Of a token the log shows how it begins.** Where a run tells a field for a token, the token was
granted in the same turn or held at its start, and the field masks it. And this is all that comes of a
token to the log: it is told the same in a run with other tokens, held, handed in or granted, if they
begin like these. -/
theorem log_masks_tokens :
    (∀ (s : Session) (ts : List (Turn Session.Step)) (l : Live), ∃ es,
      (s.run ts l).2.events = l.events ++ es ∧ ∀ e ∈ es, ∀ name field,
        (name, field) ∈ e.fields → name ∈ tokenKeys → ∃ before t after, ts = before ++ t :: after ∧
          s.Shows (s.run before l).2 (s.turn t (s.run before l).2).2 name field) ∧
    (∀ (d : Drive) (ts : List (Turn Step)) (l : Live), ∃ es,
      (d.run ts l).2.events = l.events ++ es ∧ ∀ e ∈ es, ∀ name field,
        (name, field) ∈ e.fields → name ∈ tokenKeys → ∃ before t after, ts = before ++ t :: after ∧
          d.session.Shows (d.run before l).2 (d.turn t (d.run before l).2).2 name field) ∧
    (∀ (s : Session) (ts ts' : List (Turn Session.Step)) (l m : Live),
      List.Forall₂ (Turn.Kin Session.Step.Kin) ts ts' → l.Kin m →
        (s.run ts l).2.events = (s.run ts' m).2.events) ∧
    ∀ (d : Drive) (ts ts' : List (Turn Step)) (l m : Live),
      List.Forall₂ (Turn.Kin Eq) ts ts' → l.Kin m →
        (d.run ts l).2.events = (d.run ts' m).2.events := by
  refine ⟨fun s => s.runs.shows Session.tells_turn, fun d => d.runs.shows tells_turn, ?_, ?_⟩
  · intro s ts ts' l m hts hlm
    exact (s.runs.related s.runs Session.turn_kin hts hlm).events
  · intro d ts ts' l m hts hlm
    exact (d.runs.related d.runs turn_kin hts hlm).events

/-- A reply that grants tokens of eleven characters, which end so. -/
def sampleGrant (last : String) : Reply := Session.answering
  ("\x7b\"status\":200,\"data\":\x7b\"access_token\":\"abcdefghij" ++ last ++
    "\",\"refresh_token\":\"klmnopqrst" ++ last ++ "\"\x7d\x7d")

/-- The code and the tokens of a reply that has no more than these. -/
def sampleGranted? : Json → Option (JsonNumber × String × String)
  | .object [("status", .number n),
      ("data", .object [("access_token", .text s), ("refresh_token", .text t)])] => some (n, s, t)
  | _ => none

theorem sampleGranted?_eq_some {j : Json} {n : JsonNumber} {s t : String}
    (h : sampleGranted? j = some (n, s, t)) : j = .object [("status", .number n),
      ("data", .object [("access_token", .text s), ("refresh_token", .text t)])] := by
  unfold sampleGranted? at h
  split at h
  · cases h
    rfl
  · cases h

theorem sampleGrant_kin : (sampleGrant "1").Kin (sampleGrant "2") := by
  have hbrings : ∀ last body, (Json.ofBytes? (Utf8.encode body.toList)).bind sampleGranted? =
      some (.natural 200, "abcdefghij" ++ last, "klmnopqrst" ++ last) →
      (Session.answering body).Brings [("status", .number (.natural 200)),
        ("data", .object [("access_token", .text ("abcdefghij" ++ last)),
          ("refresh_token", .text ("klmnopqrst" ++ last))])] := by
    intro last body h
    obtain ⟨j, hj, hgranted⟩ := Option.bind_eq_some_iff.mp h
    rw [sampleGranted?_eq_some hgranted] at hj
    exact ⟨_, rfl, ⟨by simp, by simp⟩, rfl, hj⟩
  have hkin : ∀ start ∈ ["abcdefghij", "klmnopqrst"],
      Secret.Kin (start ++ "1") (start ++ "2") := by
    intro start hstart
    simp only [List.mem_cons, List.not_mem_nil, or_false] at hstart
    rcases hstart with rfl | rfl
    · exact ⟨by decide, by decide⟩
    · exact ⟨by decide, by decide⟩
  refine .brings (hbrings "1" _ (by decide +kernel)) (hbrings "2" _ (by decide +kernel)) ?_
  refine .cons ⟨rfl, .inl rfl⟩ (.cons ⟨rfl, .inr ⟨rfl, .object ?_⟩⟩ .nil)
  refine .cons ⟨rfl, .token (by decide) (hkin _ (by simp))⟩ (.cons ⟨rfl, ?_⟩ .nil)
  exact .token (by decide) (hkin _ (by simp))

/-- A folder is listed with tokens that have ended. The refresh fails, and new tokens are granted. -/
def sampleEntering (last : String) : List (Turn Step) :=
  [⟨.list .root, .epoch, [.closed, sampleGrant last]⟩]

/-- Such tokens. -/
def sampleEnded (last : String) : Live :=
  .start (some ⟨last, some ("refreshing" ++ last), .epoch⟩) true

/-- The log of such a listing shows how two of the tokens begin, and cannot tell which they were. -/
theorem log_masks_tokens_listing :
    (Drive.run ⟨.sample, .root⟩ (sampleEntering "1") (sampleEnded "1")).2.events =
        (Drive.run ⟨.sample, .root⟩ (sampleEntering "2") (sampleEnded "2")).2.events ∧
      (Drive.run ⟨.sample, .root⟩ (sampleEntering "1") (sampleEnded "1")).2.requests ≠
        (Drive.run ⟨.sample, .root⟩ (sampleEntering "2") (sampleEnded "2")).2.requests ∧
      ((Drive.run ⟨.sample, .root⟩ (sampleEntering "1") (sampleEnded "1")).2.events.flatMap
        Event.fields).filter (fun p => tokenKeys.contains p.1) =
          [("refresh_token", "refreshing***"), ("access_token", "abcdefghij***")] := by
  have hturns : List.Forall₂ (Turn.Kin Eq) (sampleEntering "1") (sampleEntering "2") :=
    .cons ⟨rfl, rfl, .cons (.same _) (.cons sampleGrant_kin .nil)⟩ .nil
  have hstart : (sampleEnded "1").Kin (sampleEnded "2") :=
    ⟨congrArg some (congrArg₂ (TokensOutline.mk · · _) (by decide) (congrArg some (by decide))),
      rfl, .nil, rfl⟩
  refine ⟨?_, by decide +kernel, by decide +kernel⟩
  exact log_masks_tokens.2.2.2 _ _ _ _ _ hturns hstart

/-- A token of eleven characters, and the service repeats it as its kind. -/
def sampleRepeating : Reply := Session.answering
  ("\x7b\"status\":200,\"data\":\x7b\"access_token\":\"abcdefghijk\",\"refresh_token\":\"r\"," ++
    "\"token_type\":\"abcdefghijk\"\x7d\x7d")

/-- **A mask hides nothing of a token that is short.** A token of three characters is told whole, with
asterisks behind it. And what the service repeats is told as it says it. -/
theorem short_token_shown :
    (Session.run .sample [⟨.refresh, .epoch, []⟩]
        (.start (some ⟨"old", some "abc", .epoch⟩) true)).2.events =
      [.debug "Refreshing access token" [("refresh_token", "abc***")]] ∧
    "abc".toList <:+: "abc***".toList ∧ (∀ shown, "abc***" = shown ++ "***" → shown = "abc") ∧
    ((Session.run .sample [⟨.authenticate, .epoch, [sampleRepeating]⟩]
        (.start none true)).2.events.map Event.fields) =
      [[], [("access_token", "abcdefghij***"), ("token_type", "abcdefghijk"),
        ("expires_in", "0")]] := by
  refine ⟨by decide +kernel, by decide, fun shown h => ?_, by decide +kernel⟩
  exact (String.append_left_inj "***").mp h.symm

end Drive

end RemoteDrive
