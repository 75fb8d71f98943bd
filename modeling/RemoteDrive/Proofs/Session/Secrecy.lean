import RemoteDrive.Proofs.Kin

/-!
# Sessions with different secrets

Two sessions are twins if only their secrets differ, and both of those can be shown to the service
or neither. Every call of the one then does what the same call of the other does, in any two
situations that are alike (`Live.Likeness`). That is a statement about what the calls do with what
they hold: the refresh token is looked at for being there, goes into one field of one request and its
beginning into the log; the secret goes into one header; and neither is part of the reason for which
a call fails.

What survives a refresh is the point of it. The new tokens are those of two grants that are kin, or
the old refresh token where no new one was granted (`outline_keptRefresh`).
-/

set_option autoImplicit false

namespace RemoteDrive

namespace Tokens

variable {t u : Option Tokens}

/-- A refresh token begins with something if it can be used. -/
theorem usableRefresh_outline (h : t.map outline = u.map outline) :
    (t.bind usableRefresh?).map shownStart = (u.bind usableRefresh?).map shownStart := by
  have husable : ∀ k : Option Tokens, (k.bind usableRefresh?).map shownStart =
      ((k.map outline).bind TokensOutline.refreshStart).filter (· ≠ []) := by
    intro k
    cases k with
    | none => rfl
    | some k =>
      show (k.refreshToken.filter _).map shownStart = (k.refreshToken.map shownStart).filter _
      cases k.refreshToken with
      | none => rfl
      | some token =>
        by_cases hempty : token = ""
        · simp [Option.filter_some, shownStart_eq_nil, hempty]
        · simp [Option.filter_some, shownStart_eq_nil, hempty]
  rw [husable, husable, h]

theorem state_outline (now : Instant) (h : t.map outline = u.map outline) :
    SessionState.ofTokens now t = SessionState.ofTokens now u := by
  have hstate : ∀ k : Option Tokens, SessionState.ofTokens now k =
      match (k.map outline).map TokensOutline.expiresAt with
      | none => .unauthenticated
      | some e => if e.le now then .expired else .authenticated := by
    intro k
    cases k <;> rfl
  rw [hstate, hstate, h]

/-- Of tokens that are shown to a person only their end and their number can be seen. -/
theorem display_outline (h : t.map outline = u.map outline) :
    displayOptional t = displayOptional u := by
  obtain ⟨rfl, rfl⟩ | ⟨a, b, rfl, rfl, hab⟩ := outline_cases h
  · rfl
  · have hends : a.expiresAt = b.expiresAt := congrArg TokensOutline.expiresAt hab
    have hpresent : ∀ absent present : String,
        a.refreshToken.elim absent (fun _ => present) =
          b.refreshToken.elim absent fun _ => present := by
      intro absent present
      have helim := congrArg (·.refreshStart.elim absent fun _ => present) hab
      simpa only [outline, Option.elim_map, Function.comp_def] using helim
    have hdisplay : a.display = b.display := by
      unfold display
      generalize Text.quoted redacted = hidden
      dsimp only
      rw [hpresent, hends]
    show "Some(" ++ a.display ++ ")" = "Some(" ++ b.display ++ ")"
    rw [hdisplay]

end Tokens

namespace Session

variable {s s' : Session}

/-- The sessions differ in their secrets only. -/
structure Twins (s s' : Session) : Prop where
  client : s.client = s'.client
  key : s.credentials.apiKey = s'.credentials.apiKey
  blank : Text.blank s.credentials.apiSecret = Text.blank s'.credentials.apiSecret
  sendable : isHeaderValue s.credentials.apiSecret = isHeaderValue s'.credentials.apiSecret

namespace Twins

theorem hasCredentials (h : s.Twins s') : s.hasCredentials = s'.hasCredentials := by
  rw [Session.hasCredentials, Session.hasCredentials, h.key, h.blank]

theorem display (h : s.Twins s') {t u : Option Tokens}
    (ht : t.map Tokens.outline = u.map Tokens.outline) : s.display t = s'.display u := by
  have hcredentials : s.credentials.display = s'.credentials.display := by
    unfold Credentials.display
    rw [h.key]
  unfold Session.display
  rw [h.client, hcredentials, Tokens.display_outline ht]

/-! ## What is sent -/

theorem refreshRequest (h : s.Twins s') (token token' : String) :
    (s.refreshRequest token).map Request.outline =
      (s'.refreshRequest token').map Request.outline := by
  unfold Session.refreshRequest
  rw [h.client]
  cases s'.client.request .post refreshPath .standard with
  | error why => rfl
  | ok r => exact congrArg Except.ok (Request.outline_withForm rfl (by simp [hideValue]))

theorem authenticateRequest (h : s.Twins s') :
    s.authenticateRequest.map Request.outline = s'.authenticateRequest.map Request.outline := by
  unfold Session.authenticateRequest
  rw [h.client, h.key]
  cases s'.client.request .get authenticatePath .standard with
  | error why => rfl
  | ok r =>
    show ((r.withHeader _ _).bind _).map _ = ((r.withHeader _ _).bind _).map _
    cases r.withHeader "x-api-key" s'.credentials.apiKey with
    | error why => rfl
    | ok r => exact Request.outline_withHeader rfl h.sendable (by simp [hideValue])

/-! ## The calls -/

/-- What a grant lacks is taken from the old tokens, and begins as it did there. -/
theorem outline_keptRefresh {grant grant' : RefreshGrant} (hgrant : grant.Kin grant')
    {old old' : Option Tokens} (ends : Instant)
    (h : old.map Tokens.outline = old'.map Tokens.outline) :
    (some (⟨grant.accessToken, keptRefresh grant old, ends⟩ : Tokens)).map Tokens.outline =
      (some (⟨grant'.accessToken, keptRefresh grant' old', ends⟩ : Tokens)).map Tokens.outline := by
  have hstart : ∀ k : Option Tokens, (k.bind Tokens.refreshToken).map shownStart =
      (k.map Tokens.outline).bind TokensOutline.refreshStart := by
    intro k
    cases k <;> rfl
  have hnew : (grant.refreshToken.filter (· ≠ "")).map shownStart =
      (grant'.refreshToken.filter (· ≠ "")).map shownStart := by
    have hrefresh := hgrant.refresh
    generalize grant.refreshToken = token at hrefresh ⊢
    generalize grant'.refreshToken = token' at hrefresh ⊢
    cases hrefresh with
    | none => rfl
    | @some token token' hkin =>
      by_cases hempty : token = ""
      · simp [Option.filter_some, hempty, hkin.eq_empty_iff.mp hempty]
      · simp [Option.filter_some, hempty, mt hkin.eq_empty_iff.mpr hempty, hkin.start]
  have hkept :
      (keptRefresh grant old).map shownStart = (keptRefresh grant' old').map shownStart := by
    unfold keptRefresh
    rw [Option.map_or, Option.map_or, hstart, hstart, h, hnew]
  simp [Tokens.outline, hkept, hgrant.access.sendable]

section Calls

variable {T : Live → Live → Prop} (h : s.Twins s') (hT : Live.Likeness T)
include h hT

theorem refresh : Act.Related T Eq s.refresh s'.refresh := by
  refine (Act.Related.tokens hT).bind fun t u htu => ?_
  have husable := Tokens.usableRefresh_outline htu
  cases ht : t.bind Tokens.usableRefresh? with
  | none =>
    cases hu : u.bind Tokens.usableRefresh? with
    | none => exact .fail _
    | some token' => simp [ht, hu] at husable
  | some token =>
    cases hu : u.bind Tokens.usableRefresh? with
    | none => simp [ht, hu] at husable
    | some token' =>
      have hmasked : masked token = masked token' := by
        simp only [ht, hu, Option.map_some, Option.some.injEq] at husable
        exact masked_congr husable
      simp only [hmasked]
      refine (Act.Related.log hT _).andThen fun _ => ?_
      have hfetch := Client.fetch_related hT (h.refreshRequest token token') .service
      refine (hfetch.mapFailure _).bind fun e e' he => ?_
      refine (Act.Related.ofExcept (refreshGrant_kin he)).bind fun grant grant' hgrant => ?_
      refine (Act.Related.tokens hT).bind fun old old' hold => ?_
      refine (Act.Related.setTokens hT rfl).andThen fun _ => ?_
      rw [hgrant.lifetime]
      refine (Act.Related.secondsFromNow _).andThen fun ends => ?_
      refine (Act.Related.setTokens hT (outline_keptRefresh hgrant ends hold)).andThen fun _ => ?_
      exact .log hT _

theorem authenticate : Act.Related T Eq s.authenticate s'.authenticate := by
  unfold Session.authenticate
  rw [h.hasCredentials]
  split
  · refine (Act.Related.log hT _).andThen fun _ => ?_
    have hfetch := Client.fetch_related hT h.authenticateRequest .service
    refine (hfetch.mapFailure _).bind fun e e' he => ?_
    refine (Act.Related.ofExcept (authGrant_kin he)).bind fun grant grant' hgrant => ?_
    rw [masked_congr hgrant.access.start, hgrant.tokenType, hgrant.lifetime]
    refine (Act.Related.log hT _).andThen fun _ => ?_
    refine (Act.Related.secondsFromNow _).andThen fun ends => .setTokens hT ?_
    simp [Tokens.outline, hgrant.access.sendable, hgrant.refresh.start]
  · exact .fail _

theorem renew : Act.Related T Eq s.renew s'.renew :=
  (h.refresh hT).recover fun _ => (Act.Related.log hT _).andThen fun _ => h.authenticate hT

/-- The tokens that are handed out may differ, but both can be sent or neither. -/
theorem ensureValid :
    Act.Related T (fun a b => isHeaderValue a = isHeaderValue b) s.ensureValid s'.ensureValid := by
  have hstate : Act.Related T Eq (state : Act Fault SessionState) state := by
    intro now l m hlm
    rw [exec_state, exec_state, Tokens.state_outline now (hT.tokens hlm)]
    exact ⟨.ok rfl, hlm⟩
  refine hstate.andThen fun state => ?_
  have hhanded : Act.Related T (fun a b => isHeaderValue a = isHeaderValue b) handOut handOut := by
    refine (Act.Related.tokens hT).bind fun t u htu => ?_
    obtain ⟨rfl, rfl⟩ | ⟨a, b, rfl, rfl, hab⟩ := Tokens.outline_cases htu
    · exact .fail _
    · exact .pure (congrArg TokensOutline.sendable hab)
  split
  · exact (Act.Related.log hT _).andThen fun _ => (h.renew hT).andThen fun _ => hhanded
  · exact hhanded

end Calls

end Twins

/-- Tokens are given up on both sides or on neither. -/
theorem invalidate_related {ε : Type} {T : Live → Live → Prop} (hT : Live.Likeness T) :
    Act.Related T Eq (invalidate : Act ε Unit) (invalidate : Act ε Unit) := by
  refine (Act.Related.tokens hT).bind fun t u htu => ?_
  have hsome : t.isSome = u.isSome := by
    have houtline := congrArg Option.isSome htu
    rwa [Option.isSome_map, Option.isSome_map] at houtline
  rw [hsome]
  split
  · exact (Act.Related.setTokens hT rfl).andThen fun _ => .log hT _
  · exact .pure rfl

end Session
end RemoteDrive
