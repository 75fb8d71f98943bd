import RemoteDrive.Proofs.Session.Grant

/-!
# When a token that is handed out has not ended

A session hands out what it holds after it has done what it can. A token that was held has not
ended, which is why it is handed out; a new one has the end that the service gave it, and nobody
looks at that again. So a new token has not ended exactly where it was granted for a positive number
of seconds (`holdsValid_of_renewed`), and the service may say less than that, or nothing. `HandedOut`
says what is then known of a token, and `handedOut_of_ensureValid` that it is known of each.
-/

set_option autoImplicit false

namespace RemoteDrive

namespace Instant

theorem make?_eq_some {seconds : Int} {nanos : Nat} {t : Instant}
    (h : make? seconds nanos = some t) : t.seconds = seconds ∧ t.nanos = nanos := by
  unfold make? at h
  split at h
  · cases h
    exact ⟨rfl, rfl⟩
  · cases h

/-- Only a step ahead leads past where one stands, also out of a leap second. -/
theorem le_of_addSeconds? {now t : Instant} {n : Int} (h : now.addSeconds? n = some t) :
    t.le now = true ↔ n ≤ 0 := by
  simp only [le, Bool.or_eq_true, Bool.and_eq_true, decide_eq_true_eq, beq_iff_eq]
  unfold addSeconds? at h
  split at h
  · -- a leap second has the number of the second before it, so its nanoseconds decide a step back
    split at h
    · obtain ⟨hs, hn⟩ := make?_eq_some h
      omega
    · split at h
      · obtain ⟨hs, hn⟩ := make?_eq_some h
        omega
      · cases h
        omega
  · obtain ⟨hs, hn⟩ := make?_eq_some h
    omega

end Instant

namespace Session

variable {s : Session} {now : Instant} {l l' : Live}

theorem holdsValid_some {t : Tokens} (h : l.tokens = some t) :
    holdsValid now l ↔ t.isExpired now = false := by
  unfold holdsValid
  rw [h, SessionState.ofTokens]
  cases t.isExpired now <;> simp

/-- **New tokens last from now on exactly if they were granted for a positive time.** -/
theorem holdsValid_of_renewed {x : Request × Reply} {g : Grant} (h : s.Renewed now l l' x g) :
    holdsValid now l' ↔ 0 < g.lifetime.toInt := by
  obtain ⟨t, ht, hl'⟩ := h.tokens
  rw [holdsValid_some hl', Tokens.isExpired, ← Bool.not_eq_true, Instant.le_of_addSeconds? ht]
  exact Int.not_le

/-- The session was asked in `l` and has handed out this token in `m`. -/
structure HandedOut (s : Session) (now : Instant) (l m : Live) (token : String) : Prop where
  held : ∃ t, m.tokens = some t ∧ t.accessToken = token
  /-- It has not ended exactly if what was held before had not, or if it was granted in between for
  a positive time. -/
  lasts : holdsValid now m ↔ holdsValid now l ∨
    ∃ x g, s.Renewed now l m x g ∧ 0 < g.lifetime.toInt
  /-- As long as it has not ended it is handed out again, and nothing passes. -/
  again : holdsValid now m → s.ensureValid.exec now m = (.ok token, m)

theorem handedOut_of_ensureValid {token : String}
    (h : s.ensureValid.exec now l = (.ok token, l')) : s.HandedOut now l l' token := by
  obtain ⟨⟨t, ht, rfl⟩, hcourse⟩ := ensureValid_eq_ok h
  refine ⟨⟨t, ht, rfl⟩, ⟨fun hv' => ?_, ?_⟩, fun hv' => ?_⟩
  · rcases hcourse with ⟨-, hv⟩ | ⟨-, x, g, hg, -⟩
    · exact .inl hv
    · exact .inr ⟨x, g, hg, (holdsValid_of_renewed hg).mp hv'⟩
  · rintro (hv | ⟨x, g, hg, hpositive⟩)
    · rcases hcourse with ⟨rfl, -⟩ | ⟨hv', -⟩
      · exact hv
      · exact absurd hv hv'
    · exact (holdsValid_of_renewed hg).mpr hpositive
  · rw [exec_ensureValid_held hv', exec_handOut ht]

end Session
end RemoteDrive
