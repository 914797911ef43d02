import Mathlib
import RwServer.Foundation.Calls
import RwServer.Orders.Operations

/-!
# Refresh tokens

A session is refreshed with a token, which is verified, then revoked, and then, when the user or the
display has been looked at, followed by a new one. A logout revokes the token. Users and displays
have the same scheme, each with a table of tokens of its own.

The revocation does not look at whether the token has been revoked since it was verified.
`refresh_token_used_once` says what holds when it does find it unrevoked: one refresh at most
succeeds with a token, and of the tokens that come of one by rotation, one at most is not revoked.
-/

namespace RwServer

open Transition

inductive UserStatus
  | PENDING
  | ACTIVE
  | DISABLED
deriving DecidableEq, Repr

inductive DisplayStatus
  | UNCLAIMED
  | CLAIMED
deriving DecidableEq, Repr

/-- Whose sessions a table of tokens is for. -/
inductive Principal
  | user
  | display
deriving DecidableEq, Repr

/-- A user, the workspaces it is a member of in the order it has joined them, and its sites in
each. -/
structure SessionUser where
  status : UserStatus
  lockedUntil : Option Time
  workspaceIds : List Uuid
  accessibleSites : Uuid → List Uuid

/-- A display, with the site it is for and the workspace of that. -/
structure SessionDisplay where
  status : DisplayStatus
  siteId : Option Uuid
  workspaceId : Option Uuid
deriving DecidableEq, Repr

/-- A row of the table of tokens. -/
structure RefreshToken where
  ownerId : Uuid
  expiresAt : Time
  revokedAt : Option Time
deriving DecidableEq, Repr

/-- What the access token of a session is for. -/
structure AccessPayload where
  workspaceId : Uuid
  siteId : Option Uuid
deriving DecidableEq, Repr

/-- The tokens, by their hashes, and the owners. -/
structure SessionStore (Token : Type*) where
  tokens : Token → Option RefreshToken
  users : Uuid → Option SessionUser
  displays : Uuid → Option SessionDisplay

inductive SessionCall (Token : Type*)
  | refresh (token : Token) (siteId : Option Uuid)
  | logout (token : Token)
  /-- A login has been successful, and a token is issued. -/
  | login (ownerId : Uuid)
deriving DecidableEq

/-- Which statement of a call comes next. -/
inductive SessionPhase (Token : Type*)
  | start
  /-- The token has been verified. -/
  | revoking (ownerId : Uuid)
  | reading (ownerId : Uuid)
  | readingAccess (ownerId : Uuid)
  | creating (ownerId : Uuid) (payload : AccessPayload)
  | refused (error : String)
  | refreshed (token : Token) (payload : AccessPayload)
  | loggingOut
  | loggedOut (revoked : Bool)
  | issued (token : Token)
  | thrown
deriving DecidableEq

/-- What a step gets from outside: the time, and 32 random bytes. -/
structure Outside (Token : Type*) where
  now : Time
  random : Token

/-! ## The calls, statement by statement -/

/-- `REFRESH_TOKEN_EXPIRY`: seven days. -/
def refreshTokenExpiry : ℤ := 7 * 24 * 60 * 60 * 1000

variable {Token : Type*}

/-- `verifyRefreshToken` and `verifyDisplayRefreshToken`: the owner of a valid token. -/
def verifyRefreshToken (tokens : Token → Option RefreshToken) (now : Time) (token : Token) :
    Option Uuid :=
  match tokens token with
  | none => none
  | some row => if row.revokedAt.isSome ∨ row.expiresAt < now then none else some row.ownerId

/-- The checks on the user. -/
def afterReadUser (now : Time) (ownerId : Uuid) (user : Option SessionUser) : SessionPhase Token :=
  match user with
  | none => .refused "User account is not active"
  | some user =>
    if user.status ≠ .ACTIVE then .refused "User account is not active"
    else if user.lockedUntil.any fun until_ ↦ decide (now < until_) then
      .refused "Account is temporarily locked"
    else .readingAccess ownerId

/-- `createUserAccessTokenForContext`. -/
def afterReadAccess (ownerId : Uuid) (siteId : Option Uuid) (user : Option SessionUser) :
    SessionPhase Token :=
  match user.bind fun user ↦ user.workspaceIds.head?.map fun w ↦ (w, user.accessibleSites w) with
  | none => .refused "User is not assigned to a workspace"
  | some (workspaceId, sites) =>
    match siteId with
    | none => .creating ownerId ⟨workspaceId, sites.head?⟩
    | some siteId =>
      if siteId ∈ sites then .creating ownerId ⟨workspaceId, some siteId⟩
      else .refused "Not authorized for this site"

/-- The checks on the display. -/
def afterReadDisplay (ownerId : Uuid) (display : Option SessionDisplay) : SessionPhase Token :=
  match display with
  | none => .refused "Display is not active"
  | some display =>
    if display.status ≠ .CLAIMED then .refused "Display is not active"
    else match display.siteId, display.workspaceId with
    | some siteId, some workspaceId => .creating ownerId ⟨workspaceId, some siteId⟩
    | _, _ => .refused "Display is missing site configuration"

def afterReadOwner (principal : Principal) (store : SessionStore Token) (now : Time)
    (ownerId : Uuid) : SessionPhase Token :=
  match principal with
  | .user => afterReadUser now ownerId (store.users ownerId)
  | .display => afterReadDisplay ownerId (store.displays ownerId)

namespace SessionStore

variable [DecidableEq Token]

/-- `revokeRefreshToken` and `revokeDisplayRefreshToken`: whether there is such a token, and the
tokens after it. -/
def revokeRefreshToken (store : SessionStore Token) (now : Time) (token : Token) :
    Bool × SessionStore Token :=
  match store.tokens token with
  | none => (false, store)
  | some row => (true, { store with
      tokens := Function.update store.tokens token (some { row with revokedAt := some now }) })

/-- `createRefreshToken` and `createDisplayRefreshToken`; the hash of a token is unique. -/
def createRefreshToken (store : SessionStore Token) (outside : Outside Token) (ownerId : Uuid) :
    Option (SessionStore Token) :=
  match store.tokens outside.random with
  | some _ => none
  | none => some { store with
      tokens := Function.update store.tokens outside.random
        (some ⟨ownerId, outside.now + refreshTokenExpiry, none⟩) }

end SessionStore

section

variable {ι : Type*} [DecidableEq Token]

/-- The next statement of a refresh. -/
def refreshStatement (principal : Principal) (token : Token) (siteId : Option Uuid)
    (outside : Outside Token) (store : SessionStore Token) :
    SessionPhase Token → Option (SessionStore Token × SessionPhase Token)
  | .start => some (store, match verifyRefreshToken store.tokens outside.now token with
      | none => .refused "Invalid or expired refresh token"
      | some ownerId => .revoking ownerId)
  | .revoking ownerId =>
    some ((store.revokeRefreshToken outside.now token).2, .reading ownerId)
  | .reading ownerId => some (store, afterReadOwner principal store outside.now ownerId)
  | .readingAccess ownerId => some (store, afterReadAccess ownerId siteId (store.users ownerId))
  | .creating ownerId payload =>
    match store.createRefreshToken outside ownerId with
    | none => some (store, .thrown)
    | some store => some (store, .refreshed outside.random payload)
  | _ => none

/-- The next statement of a logout. That of a user first reads whose the token is. -/
def logoutStatement (principal : Principal) (token : Token) (outside : Outside Token)
    (store : SessionStore Token) : SessionPhase Token →
      Option (SessionStore Token × SessionPhase Token)
  | .start =>
    match principal with
    | .user => some (store, .loggingOut)
    | .display =>
      let revoked := store.revokeRefreshToken outside.now token
      some (revoked.2, .loggedOut revoked.1)
  | .loggingOut =>
    let revoked := store.revokeRefreshToken outside.now token
    some (revoked.2, .loggedOut revoked.1)
  | _ => none

/-- The one statement of a login that matters here. -/
def loginStatement (ownerId : Uuid) (outside : Outside Token) (store : SessionStore Token) :
    SessionPhase Token → Option (SessionStore Token × SessionPhase Token)
  | .start =>
    match store.createRefreshToken outside ownerId with
    | none => some (store, .thrown)
    | some store => some (store, .issued outside.random)
  | _ => none

def sessionStatement (principal : Principal) (calls : ι → SessionCall Token) (i : ι)
    (outside : Outside Token) (store : SessionStore Token) (phase : SessionPhase Token) :
    Option (SessionStore Token × SessionPhase Token) :=
  match calls i with
  | .refresh token siteId => refreshStatement principal token siteId outside store phase
  | .logout token => logoutStatement principal token outside store phase
  | .login ownerId => loginStatement ownerId outside store phase

abbrev SessionCalls (ι Token : Type*) := Calls ι (SessionStore Token) (SessionPhase Token)

/-- Before any of the calls. -/
def sessionsStart (store : SessionStore Token) : SessionCalls ι Token := ⟨store, fun _ ↦ .start⟩

/-! ## What a statement does -/

/-- The phases of a refresh that has revoked its token and may succeed, or has. -/
def SessionPhase.Claims : SessionPhase Token → Prop
  | .reading _ | .readingAccess _ | .creating _ _ | .refreshed _ _ => True
  | _ => False

/-- What a read of the owner leads to. -/
def SessionPhase.GoesOn : SessionPhase Token → Prop
  | .refused _ | .readingAccess _ | .creating _ _ => True
  | _ => False

omit [DecidableEq Token] in
theorem goesOn_afterReadOwner (principal : Principal) (store : SessionStore Token) (now : Time)
    (ownerId : Uuid) : (afterReadOwner principal store now ownerId).GoesOn := by
  unfold afterReadOwner
  split
  · unfold afterReadUser
    split
    · trivial
    · split
      · trivial
      · split <;> trivial
  · unfold afterReadDisplay
    split
    · trivial
    · split
      · trivial
      · split <;> trivial

omit [DecidableEq Token] in
theorem goesOn_afterReadAccess (ownerId : Uuid) (siteId : Option Uuid) (user : Option SessionUser) :
    (afterReadAccess ownerId siteId user : SessionPhase Token).GoesOn := by
  unfold afterReadAccess
  split
  · trivial
  · split
    · trivial
    · split <;> trivial

omit [DecidableEq Token] in
theorem SessionPhase.GoesOn.ne {phase : SessionPhase Token} (h : phase.GoesOn) :
    (∀ new payload, phase ≠ .refreshed new payload) ∧ phase ≠ .loggedOut true :=
  ⟨fun _ _ heq ↦ (by rw [heq] at h; exact h), fun heq ↦ (by rw [heq] at h; exact h)⟩

/-- **What a statement can do.** It reads, it revokes the token of a refresh or of a logout, or it
creates a token. -/
theorem sessionStatement_cases {principal : Principal} {calls : ι → SessionCall Token} {i : ι}
    {outside : Outside Token} {store store' : SessionStore Token}
    {phase phase' : SessionPhase Token}
    (h : sessionStatement principal calls i outside store phase = some (store', phase')) :
    (store' = store ∧ (phase'.Claims → phase.Claims) ∧
        (∀ new payload, phase' ≠ .refreshed new payload) ∧ phase' ≠ .loggedOut true) ∨
      (∃ token siteId ownerId, calls i = .refresh token siteId ∧ phase = .revoking ownerId ∧
        store' = (store.revokeRefreshToken outside.now token).2 ∧ phase' = .reading ownerId) ∨
      (∃ token, calls i = .logout token ∧
        store' = (store.revokeRefreshToken outside.now token).2 ∧
        phase' = .loggedOut (store.revokeRefreshToken outside.now token).1) ∨
      ∃ ownerId, store.createRefreshToken outside ownerId = some store' ∧
        ((∃ token siteId payload, calls i = .refresh token siteId ∧
            phase = .creating ownerId payload ∧ phase' = .refreshed outside.random payload) ∨
          (calls i = .login ownerId ∧ phase' = .issued outside.random)) := by
  rw [sessionStatement] at h
  split at h
  · rename_i token siteId hcall
    cases phase with
    | start =>
      cases h
      refine .inl ⟨rfl, fun hclaims ↦ ?_, fun new payload heq ↦ ?_, fun heq ↦ ?_⟩
      · split at hclaims <;> exact absurd hclaims id
      · split at heq <;> cases heq
      · split at heq <;> cases heq
    | revoking ownerId =>
      cases h
      exact .inr (.inl ⟨token, siteId, ownerId, hcall, rfl, rfl, rfl⟩)
    | reading ownerId =>
      cases h
      exact .inl ⟨rfl, fun _ ↦ trivial, (goesOn_afterReadOwner ..).ne⟩
    | readingAccess ownerId =>
      cases h
      exact .inl ⟨rfl, fun _ ↦ trivial, (goesOn_afterReadAccess ..).ne⟩
    | creating ownerId payload =>
      rw [refreshStatement] at h
      split at h
      · cases h
        exact .inl ⟨rfl, fun hclaims ↦ absurd hclaims id, fun _ _ heq ↦ (by cases heq),
          fun heq ↦ (by cases heq)⟩
      · rename_i created hcreated
        cases h
        exact .inr (.inr (.inr ⟨ownerId, hcreated, .inl ⟨_, _, _, hcall, rfl, rfl⟩⟩))
    | refused | refreshed | loggingOut | loggedOut | issued | thrown => cases h
  · rename_i token hcall
    cases phase with
    | start =>
      rcases principal with - | -
      · cases h
        exact .inl ⟨rfl, fun hclaims ↦ absurd hclaims id, fun _ _ heq ↦ (by cases heq),
          fun heq ↦ (by cases heq)⟩
      · cases h
        exact .inr (.inr (.inl ⟨token, hcall, rfl, rfl⟩))
    | loggingOut =>
      cases h
      exact .inr (.inr (.inl ⟨token, hcall, rfl, rfl⟩))
    | revoking | reading | readingAccess | creating | refused | refreshed | loggedOut | issued
    | thrown => cases h
  · rename_i ownerId hcall
    cases phase with
    | start =>
      rw [loginStatement] at h
      split at h
      · cases h
        exact .inl ⟨rfl, fun hclaims ↦ absurd hclaims id, fun _ _ heq ↦ (by cases heq),
          fun heq ↦ (by cases heq)⟩
      · rename_i created hcreated
        cases h
        exact .inr (.inr (.inr ⟨ownerId, hcreated, .inr ⟨hcall, rfl⟩⟩))
    | revoking | reading | readingAccess | creating | refused | refreshed | loggingOut | loggedOut
    | issued | thrown => cases h

namespace SessionStore

/-- There is such a token, and it has been revoked. -/
def Revoked (store : SessionStore Token) (token : Token) : Prop :=
  ∃ row, store.tokens token = some row ∧ row.revokedAt.isSome = true

omit [DecidableEq Token] in
theorem Revoked.verifyRefreshToken {store : SessionStore Token} {token : Token}
    (h : store.Revoked token) (now : Time) :
    RwServer.verifyRefreshToken store.tokens now token = none := by
  obtain ⟨row, hrow, hrevoked⟩ := h
  rw [RwServer.verifyRefreshToken, hrow]
  exact if_pos (.inl hrevoked)

/-- A revocation revokes its token, and leaves the revoked ones so. -/
theorem Revoked.revokeRefreshToken {store : SessionStore Token} {token : Token}
    (h : store.Revoked token) (now : Time) (other : Token) :
    (store.revokeRefreshToken now other).2.Revoked token := by
  rw [SessionStore.revokeRefreshToken]
  split
  · exact h
  · by_cases heq : token = other
    · subst heq
      exact ⟨_, Function.update_self .., rfl⟩
    · obtain ⟨row, hrow, hrevoked⟩ := h
      exact ⟨row, (Function.update_of_ne heq ..).trans hrow, hrevoked⟩

theorem revoked_revokeRefreshToken {store : SessionStore Token} {token : Token} (now : Time)
    (h : (store.revokeRefreshToken now token).1 = true) :
    (store.revokeRefreshToken now token).2.Revoked token := by
  rw [SessionStore.revokeRefreshToken] at h ⊢
  split at h
  · cases h
  · exact ⟨_, Function.update_self .., rfl⟩

theorem revokeRefreshToken_fst {store : SessionStore Token} {token : Token} {row : RefreshToken}
    (now : Time) (h : store.tokens token = some row) :
    (store.revokeRefreshToken now token).1 = true := by
  rw [SessionStore.revokeRefreshToken, h]

/-- A new token changes none that is there. -/
theorem tokens_of_createRefreshToken {store store' : SessionStore Token} {token : Token}
    {outside : Outside Token} {ownerId : Uuid} {row : RefreshToken}
    (hrow : store.tokens token = some row)
    (hcreate : store.createRefreshToken outside ownerId = some store') :
    store'.tokens token = some row := by
  rw [SessionStore.createRefreshToken] at hcreate
  split at hcreate
  · cases hcreate
  · rename_i hfresh
    cases hcreate
    have hne : token ≠ outside.random := fun heq ↦ by
      rw [heq, hfresh] at hrow
      cases hrow
    exact (Function.update_of_ne hne ..).trans hrow

theorem Revoked.createRefreshToken {store store' : SessionStore Token} {token : Token}
    {outside : Outside Token} {ownerId : Uuid} (h : store.Revoked token)
    (hcreate : store.createRefreshToken outside ownerId = some store') : store'.Revoked token := by
  obtain ⟨row, hrow, hrevoked⟩ := h
  exact ⟨row, tokens_of_createRefreshToken hrow hcreate, hrevoked⟩

end SessionStore

/-- A token that has been revoked stays so. -/
theorem revoked_sessionStatement {principal : Principal} {calls : ι → SessionCall Token} {i : ι}
    {outside : Outside Token} {store store' : SessionStore Token}
    {phase phase' : SessionPhase Token}
    (h : sessionStatement principal calls i outside store phase = some (store', phase'))
    {token : Token} (hrevoked : store.Revoked token) : store'.Revoked token := by
  rcases sessionStatement_cases h with ⟨rfl, -⟩ | ⟨_, _, _, -, -, rfl, -⟩ | ⟨_, -, rfl, -⟩ |
    ⟨_, hcreate, -⟩
  · exact hrevoked
  · exact hrevoked.revokeRefreshToken ..
  · exact hrevoked.revokeRefreshToken ..
  · exact hrevoked.createRefreshToken hcreate

/-! ## Tokens that are used once -/

/-- The token that is refreshed. -/
def SessionCall.refreshes : SessionCall Token → Option Token
  | .refresh token _ => some token
  | _ => none

def SessionPhase.isRevoking : SessionPhase Token → Bool
  | .revoking _ => true
  | _ => false

/-- The condition on a step: the revocation of a refresh finds its token unrevoked. -/
def FindsUnrevoked (calls : ι → SessionCall Token) (s : SessionCalls ι Token)
    (a : ι × Outside Token) : Prop :=
  ∀ token ∈ (calls a.1).refreshes, (s.phase a.1).isRevoking = true →
    (s.store.tokens token).map RefreshToken.revokedAt = some none

instance decidableFindsUnrevoked (calls : ι → SessionCall Token) (s : SessionCalls ι Token)
    (a : ι × Outside Token) : Decidable (FindsUnrevoked calls s a) :=
  inferInstanceAs (Decidable (∀ token ∈ (calls a.1).refreshes, (s.phase a.1).isRevoking = true →
    (s.store.tokens token).map RefreshToken.revokedAt = some none))

/-- What holds of the refreshes that have revoked their tokens, and of the logouts. -/
structure SingleUse (calls : ι → SessionCall Token) (s : SessionCalls ι Token) : Prop where
  revoked : ∀ i token siteId, calls i = .refresh token siteId → (s.phase i).Claims →
    s.store.Revoked token
  unique : ∀ i j token siteId siteId', calls i = .refresh token siteId →
    calls j = .refresh token siteId' → (s.phase i).Claims → (s.phase j).Claims → i = j
  loggedOut : ∀ i token, calls i = .logout token → s.phase i = .loggedOut true →
    s.store.Revoked token

variable [DecidableEq ι]

omit [DecidableEq Token] in
/-- A step that claims nothing new and logs nobody out. -/
theorem SingleUse.update {calls : ι → SessionCall Token} {s : SessionCalls ι Token} {i : ι}
    {store : SessionStore Token} {phase : SessionPhase Token} (h : SingleUse calls s)
    (hstays : ∀ token, s.store.Revoked token → store.Revoked token)
    (hclaims : (∃ token siteId, calls i = .refresh token siteId) → phase.Claims →
      (s.phase i).Claims)
    (hloggedOut : ∀ token, calls i = .logout token → phase = .loggedOut true →
      store.Revoked token) :
    SingleUse calls ⟨store, Function.update s.phase i phase⟩ := by
  have hold : ∀ j token siteId, calls j = .refresh token siteId →
      (Function.update s.phase i phase j).Claims → (s.phase j).Claims := by
    intro j token siteId hcall hj
    by_cases hji : j = i
    · subst hji
      rw [Function.update_self] at hj
      exact hclaims ⟨token, siteId, hcall⟩ hj
    · rwa [Function.update_of_ne hji] at hj
  refine ⟨fun j token siteId hcall hj ↦ hstays token (h.revoked j _ _ hcall (hold j _ _ hcall hj)),
    fun j k token siteId siteId' hj hk hclaim hclaim' ↦
      h.unique j k _ _ _ hj hk (hold j _ _ hj hclaim) (hold k _ _ hk hclaim'),
    fun j token hcall hj ↦ ?_⟩
  dsimp only at hj
  by_cases hji : j = i
  · subst hji
    rw [Function.update_self] at hj
    exact hloggedOut token hcall hj
  · rw [Function.update_of_ne hji] at hj
    exact hstays token (h.loggedOut j token hcall hj)

/-- A refresh that finds its token unrevoked is the first one to claim it. -/
theorem SingleUse.claim {calls : ι → SessionCall Token} {s : SessionCalls ι Token} {i : ι}
    {now : Time} {token : Token} {siteId : Option Uuid} {ownerId : Uuid} (h : SingleUse calls s)
    (hcall : calls i = .refresh token siteId)
    (hunrevoked : (s.store.tokens token).map RefreshToken.revokedAt = some none) :
    SingleUse calls ⟨(s.store.revokeRefreshToken now token).2,
      Function.update s.phase i (.reading ownerId)⟩ := by
  obtain ⟨row, hrow, hnone⟩ := Option.map_eq_some_iff.mp hunrevoked
  have hnot : ¬ s.store.Revoked token := by
    rintro ⟨row', hrow', hrevoked⟩
    rw [hrow, Option.some.injEq] at hrow'
    rw [← hrow', hnone] at hrevoked
    cases hrevoked
  have hother : ∀ j token' siteId', j ≠ i → calls j = .refresh token' siteId' →
      (Function.update s.phase i (.reading ownerId) j).Claims → (s.phase j).Claims := by
    intro j _ _ hji _ hj
    rwa [Function.update_of_ne hji] at hj
  refine ⟨fun j token' siteId' hj hclaims ↦ ?_,
    fun j k token' siteId₁ siteId₂ hj hk hclaims hclaims' ↦ ?_, fun j token' hj hphase ↦ ?_⟩
  · by_cases hji : j = i
    · subst hji
      rw [hcall] at hj
      cases hj
      exact SessionStore.revoked_revokeRefreshToken now
        (SessionStore.revokeRefreshToken_fst now hrow)
    · exact (h.revoked j _ _ hj (hother j _ _ hji hj hclaims)).revokeRefreshToken now token
  · -- another call that had claimed the token would have revoked it
    have hmine : ∀ j siteId', j ≠ i → calls j = .refresh token siteId' →
        (Function.update s.phase i (.reading ownerId) j).Claims → False := fun j _ hji hj hclaims ↦
      hnot (h.revoked j _ _ hj (hother j _ _ hji hj hclaims))
    by_cases hji : j = i
    · by_cases hki : k = i
      · exact hji.trans hki.symm
      · subst hji
        rw [hcall] at hj
        cases hj
        exact absurd hclaims' (hmine k _ hki hk)
    · by_cases hki : k = i
      · subst hki
        rw [hcall] at hk
        cases hk
        exact absurd hclaims (hmine j _ hji hj)
      · exact h.unique j k _ _ _ hj hk (hother j _ _ hji hj hclaims) (hother k _ _ hki hk hclaims')
  · dsimp only at hphase
    by_cases hji : j = i
    · subst hji
      rw [Function.update_self] at hphase
      cases hphase
    · rw [Function.update_of_ne hji] at hphase
      exact (h.loggedOut j token' hj hphase).revokeRefreshToken now token

/-- **One step keeps tokens single-use.** -/
theorem SingleUse.step {principal : Principal} {calls : ι → SessionCall Token}
    {s s' : SessionCalls ι Token} {a : ι × Outside Token} (h : SingleUse calls s)
    (hok : FindsUnrevoked calls s a)
    (hstep : Calls.step (sessionStatement principal calls) a s = some s') : SingleUse calls s' := by
  obtain ⟨store, phase, hstatement, rfl⟩ := Calls.step_eq_some_iff.mp hstep
  obtain ⟨i, outside⟩ := a
  have hstays : ∀ token, s.store.Revoked token → store.Revoked token := fun _ ↦
    revoked_sessionStatement hstatement
  rcases sessionStatement_cases hstatement with ⟨rfl, hclaims, -, hnot⟩ |
    ⟨token, siteId, ownerId, hcall, hphase, rfl, rfl⟩ | ⟨token, hcall, rfl, rfl⟩ |
    ⟨ownerId, hcreate, ⟨token, siteId, payload, hcall, hphase, rfl⟩ | ⟨hcall, rfl⟩⟩
  · exact h.update hstays (fun _ ↦ hclaims) fun _ _ heq ↦ absurd heq hnot
  · refine h.claim hcall (hok token ?_ ?_)
    · dsimp only
      rw [hcall]
      rfl
    · dsimp only at hphase ⊢
      rw [hphase]
      rfl
  · refine h.update hstays (fun hrefresh ↦ ?_) fun token' hcall' heq ↦ ?_
    · obtain ⟨_, _, hrefresh⟩ := hrefresh
      rw [hcall] at hrefresh
      cases hrefresh
    · rw [hcall] at hcall'
      cases hcall'
      exact SessionStore.revoked_revokeRefreshToken _ (SessionPhase.loggedOut.inj heq)
  · refine h.update hstays (fun _ _ ↦ ?_) fun _ _ heq ↦ (by cases heq)
    dsimp only at hphase
    rw [hphase]
    trivial
  · exact h.update hstays (fun _ hclaims ↦ absurd hclaims id) fun _ _ heq ↦ (by cases heq)

theorem singleUse_of_run {principal : Principal} {calls : ι → SessionCall Token}
    {store : SessionStore Token} {steps : List (ι × Outside Token)} {s : SessionCalls ι Token}
    (hrun : Run (Calls.step (sessionStatement principal calls)) (FindsUnrevoked calls)
      (sessionsStart store) steps s) : SingleUse calls s := by
  have hstart : SingleUse calls (sessionsStart store : SessionCalls ι Token) :=
    ⟨fun _ _ _ _ hclaims ↦ absurd hclaims id, fun _ _ _ _ _ _ _ hclaims ↦ absurd hclaims id,
      fun _ _ _ hphase ↦ (by cases hphase)⟩
  exact hrun.invariant hstart fun _ _ _ h hok hstep ↦ h.step hok hstep

/-- A refresh that begins when its token has been revoked is refused. -/
theorem refused_of_run {principal : Principal} {calls : ι → SessionCall Token}
    {ok : SessionCalls ι Token → ι × Outside Token → Prop} {steps : List (ι × Outside Token)}
    {s s' : SessionCalls ι Token} {i : ι} {token : Token} {siteId : Option Uuid}
    (hcall : calls i = .refresh token siteId) (hrevoked : s.store.Revoked token)
    (hstart : s.phase i = .start)
    (hrun : Run (Calls.step (sessionStatement principal calls)) ok s steps s') :
    s'.phase i = .start ∨ s'.phase i = .refused "Invalid or expired refresh token" := by
  have hinv : s'.store.Revoked token ∧ (s'.phase i = .start ∨
      s'.phase i = .refused "Invalid or expired refresh token") := by
    induction hrun with
    | nil => exact ⟨hrevoked, .inl hstart⟩
    | @snoc _ t a _ _ _ hstep ih =>
      obtain ⟨hrevoked, hphase⟩ := ih
      obtain ⟨store, phase, hstatement, rfl⟩ := Calls.step_eq_some_iff.mp hstep
      refine ⟨revoked_sessionStatement hstatement hrevoked, ?_⟩
      obtain ⟨j, outside⟩ := a
      dsimp only at hstatement ⊢
      by_cases hji : i = j
      · subst hji
        rw [Function.update_self]
        rw [sessionStatement, hcall] at hstatement
        rcases hphase with hphase | hphase
        · rw [hphase] at hstatement
          have hverify := hrevoked.verifyRefreshToken outside.now
          simp only [refreshStatement, hverify] at hstatement
          cases hstatement
          exact .inr rfl
        · rw [hphase] at hstatement
          cases hstatement
      · rwa [Function.update_of_ne hji]
  exact hinv.2

/-- A token has been given for another one. -/
def Rotates (calls : ι → SessionCall Token) (s : SessionCalls ι Token) (old new : Token) : Prop :=
  ∃ i siteId payload, calls i = .refresh old siteId ∧ s.phase i = .refreshed new payload

/-- A token that a refresh would accept at the time `now`. -/
def IsValid (s : SessionCalls ι Token) (now : Time) (token : Token) : Prop :=
  (verifyRefreshToken s.store.tokens now token).isSome = true

/-- What single use comes to. -/
structure UsedOnce (calls : ι → SessionCall Token) (s : SessionCalls ι Token) : Prop where
  /-- One refresh at most succeeds with a token. -/
  once : ∀ i j token siteId siteId' new new' payload payload', calls i = .refresh token siteId →
    calls j = .refresh token siteId' → s.phase i = .refreshed new payload →
      s.phase j = .refreshed new' payload' → i = j
  /-- Of the tokens that come of one by rotation, one at most is valid. -/
  one_valid : ∀ root a b now, Relation.ReflTransGen (Rotates calls s) root a →
    Relation.ReflTransGen (Rotates calls s) root b → IsValid s now a → IsValid s now b → a = b

omit [DecidableEq ι] [DecidableEq Token] in
theorem SingleUse.usedOnce {calls : ι → SessionCall Token} {s : SessionCalls ι Token}
    (h : SingleUse calls s) : UsedOnce calls s := by
  have honce : ∀ i j token siteId siteId' new new' payload payload',
      calls i = .refresh token siteId → calls j = .refresh token siteId' →
        s.phase i = .refreshed new payload → s.phase j = .refreshed new' payload' → i = j := by
    intro i j token siteId siteId' new new' payload payload' hi hj hphase hphase'
    exact h.unique i j token siteId siteId' hi hj (by rw [hphase]; trivial)
      (by rw [hphase']; trivial)
  refine ⟨honce, fun root a b now ha hb hvalid hvalid' ↦ ?_⟩
  have hright : Relator.RightUnique (Rotates calls s) := by
    rintro old new new' ⟨i, siteId, payload, hi, hphase⟩ ⟨j, siteId', payload', hj, hphase'⟩
    obtain rfl := honce i j _ _ _ _ _ _ _ hi hj hphase hphase'
    rw [hphase] at hphase'
    exact (SessionPhase.refreshed.inj hphase').1
  -- a token that another one has been given for is not valid
  have hlast : ∀ c d, Relation.ReflTransGen (Rotates calls s) c d → IsValid s now c → c = d := by
    intro c d hcd hc
    rcases hcd.cases_head with rfl | ⟨e, ⟨i, siteId, payload, hi, hphase⟩, -⟩
    · rfl
    · have hrevoked := h.revoked i c siteId hi (by rw [hphase]; trivial)
      rw [IsValid, hrevoked.verifyRefreshToken] at hc
      cases hc
  rcases Relation.ReflTransGen.total_of_right_unique hright ha hb with hab | hba
  · exact hlast a b hab hvalid
  · exact (hlast b a hba hvalid').symm

/-- **A refresh token is used once**, in every interleaving in which the revocation of each refresh
finds its token unrevoked; and no refresh that begins after a logout succeeds with its token. -/
theorem refresh_token_used_once {principal : Principal} {calls : ι → SessionCall Token}
    {store : SessionStore Token} {steps later : List (ι × Outside Token)}
    {s s' : SessionCalls ι Token}
    (hrun : Run (Calls.step (sessionStatement principal calls)) (FindsUnrevoked calls)
      (sessionsStart store) steps s)
    (hlater : Run (Calls.step (sessionStatement principal calls)) (FindsUnrevoked calls) s later
      s') :
    UsedOnce calls s' ∧ ∀ l i token siteId, calls l = .logout token → s.phase l = .loggedOut true →
      calls i = .refresh token siteId → s.phase i = .start →
        ∀ new payload, s'.phase i ≠ .refreshed new payload := by
  refine ⟨(singleUse_of_run (hrun.trans hlater)).usedOnce,
    fun l i token siteId hlogout hdone hcall hstart new payload heq ↦ ?_⟩
  have hrevoked := (singleUse_of_run hrun).loggedOut l token hlogout hdone
  rcases refused_of_run hcall hrevoked hstart hlater with h | h
  · rw [heq] at h
    cases h
  · rw [heq] at h
    cases h

end

/-! ## A stolen token -/

/-- An active user with one workspace and one site, and one token. -/
def oneSession : SessionStore ℕ where
  tokens token := if token = 1 then some ⟨7, 1000, none⟩ else none
  users userId := if userId = 7 then some ⟨.ACTIVE, none, [3], fun _ ↦ [4]⟩ else none
  displays _ := none

/-- Two requests with the token, one to log out, and one more. -/
def tokenCalls : Fin 4 → SessionCall ℕ
  | 0 => .refresh 1 none
  | 1 => .refresh 1 none
  | 2 => .logout 2
  | 3 => .refresh 2 none

/-- The second request comes when the first has revoked the token, and is refused; when the new
token is logged out it is refused as well. -/
theorem refresh_token_used_once_refused : ∃ s s' : SessionCalls (Fin 4) ℕ,
    (s.phase 0 = .refreshed 2 ⟨3, some 4⟩ ∧ s.phase 2 = .loggedOut true ∧
      s'.phase 1 = .refused "Invalid or expired refresh token" ∧
      s'.phase 3 = .refused "Invalid or expired refresh token") ∧
      UsedOnce tokenCalls s' ∧ ∀ l i token siteId, tokenCalls l = .logout token →
        s.phase l = .loggedOut true → tokenCalls i = .refresh token siteId → s.phase i = .start →
          ∀ new payload, s'.phase i ≠ .refreshed new payload := by
  have hexecute : (execute (Calls.step (sessionStatement .user tokenCalls))
      (FindsUnrevoked tokenCalls) [(0, ⟨10, 0⟩), (0, ⟨11, 0⟩), (0, ⟨12, 0⟩), (0, ⟨13, 0⟩),
        (0, ⟨14, 2⟩), (2, ⟨20, 0⟩), (2, ⟨21, 0⟩)] (sessionsStart oneSession)).any (fun s ↦
        decide (s.phase 0 = .refreshed 2 ⟨3, some 4⟩ ∧ s.phase 2 = .loggedOut true ∧
          (execute (Calls.step (sessionStatement .user tokenCalls)) (FindsUnrevoked tokenCalls)
            [(1, ⟨30, 0⟩), (3, ⟨31, 0⟩)] s).any (fun s' ↦
              decide (s'.phase 1 = .refused "Invalid or expired refresh token" ∧
                s'.phase 3 = .refused "Invalid or expired refresh token")) = true)) = true := by
    decide +kernel
  obtain ⟨s, hs, hfacts⟩ := (Option.any_eq_true _ _).mp hexecute
  obtain ⟨hrefreshed, hloggedOut, hlater⟩ := of_decide_eq_true hfacts
  obtain ⟨s', hs', hfacts'⟩ := (Option.any_eq_true _ _).mp hlater
  obtain ⟨hfirst, hsecond⟩ := of_decide_eq_true hfacts'
  exact ⟨s, s', ⟨hrefreshed, hloggedOut, hfirst, hsecond⟩,
    refresh_token_used_once (run_of_execute hs) (run_of_execute hs')⟩

/-- **A token is used twice.** Both requests verify it before either has revoked it: each revokes
it, and each gets a new token. -/
theorem not_refresh_token_used_once : ∃ s : SessionCalls (Fin 4) ℕ,
    Run (Calls.step (sessionStatement .user tokenCalls)) (fun _ _ ↦ True) (sessionsStart oneSession)
        [(0, ⟨10, 0⟩), (1, ⟨11, 0⟩), (0, ⟨12, 0⟩), (1, ⟨13, 0⟩), (0, ⟨14, 0⟩), (1, ⟨15, 0⟩),
          (0, ⟨16, 0⟩), (1, ⟨17, 0⟩), (0, ⟨18, 2⟩), (1, ⟨19, 3⟩)] s ∧
      s.phase 0 = .refreshed 2 ⟨3, some 4⟩ ∧ s.phase 1 = .refreshed 3 ⟨3, some 4⟩ ∧
      (IsValid s 20 2 ∧ IsValid s 20 3) ∧ ¬ UsedOnce tokenCalls s := by
  have hexecute : (execute (Calls.step (sessionStatement .user tokenCalls)) (fun _ _ ↦ True)
      [(0, ⟨10, 0⟩), (1, ⟨11, 0⟩), (0, ⟨12, 0⟩), (1, ⟨13, 0⟩), (0, ⟨14, 0⟩), (1, ⟨15, 0⟩),
        (0, ⟨16, 0⟩), (1, ⟨17, 0⟩), (0, ⟨18, 2⟩), (1, ⟨19, 3⟩)] (sessionsStart oneSession)).any
      (fun s ↦ decide (s.phase 0 = .refreshed 2 ⟨3, some 4⟩ ∧
        s.phase 1 = .refreshed 3 ⟨3, some 4⟩ ∧
        (verifyRefreshToken s.store.tokens 20 2).isSome = true ∧
        (verifyRefreshToken s.store.tokens 20 3).isSome = true)) = true := by
    decide +kernel
  obtain ⟨s, hs, hfacts⟩ := (Option.any_eq_true _ _).mp hexecute
  obtain ⟨hfirst, hsecond, hvalid, hvalid'⟩ := of_decide_eq_true hfacts
  refine ⟨s, run_of_execute hs, hfirst, hsecond, ⟨hvalid, hvalid'⟩, fun honce ↦ ?_⟩
  exact absurd (honce.once 0 1 1 none none 2 3 _ _ rfl rfl hfirst hsecond) (by decide)

end RwServer
