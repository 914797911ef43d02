import Mathlib
import RwServer.Foundation.Calls
import RwServer.Auth.RefreshTokens

/-!
# Claim codes

A gateway exchanges its serial number and claim code for a token, and a display is claimed for a
site by its code. Both first read the row and look at the code, and then write by the id of the row,
whatever has become of the code in between. The token of a gateway is created before the code is
cleared, in a statement of its own, so a process that stops between the two leaves a token and a
code that is good for another one.

`claim_code_exchanged_once` says when a code is exchanged once, for both.
-/

namespace RwServer

open Relational Transition

/-! ## Gateways -/

inductive GatewayStatus
  | PROVISIONED
  | ONLINE
  | OFFLINE
  | DISABLED
deriving DecidableEq, Repr

/-- The columns of a gateway that its claim reads and writes. -/
structure ClaimableGateway where
  id : Uuid
  claimCode : Option String
  status : GatewayStatus
deriving DecidableEq, Repr

/-- A row of `GatewayToken`. -/
structure GatewayToken where
  id : Uuid
  name : String
  tokenHash : String
  gatewayId : Uuid
deriving DecidableEq, Repr

def gatewayTokenSchema : Schema GatewayToken Uuid where
  key := GatewayToken.id
  clash a b := decide (a.tokenHash = b.tokenHash)
  clash_symm a b := by simp [eq_comm]

/-- The gateway with the serial number of the requests, and the tokens of all gateways. -/
structure EdgeStore where
  gateway : Option ClaimableGateway
  tokens : Table gatewayTokenSchema

/-- What comes at a statement of `POST /claim`: the token that `createClaimToken` draws and the key
of its row, or the end of the process. -/
inductive ClaimInput
  | proceed (token : String) (id : Uuid)
  | crash
deriving DecidableEq, Repr

/-- Which statement of `POST /claim` comes next. -/
inductive ClaimPhase
  | start
  /-- The gateway has been read, and its code is the one of the request. -/
  | creating (gatewayId : Uuid)
  /-- The token has been created. -/
  | clearing (gatewayId : Uuid) (token : String)
  | refused (status : ℕ) (error : String)
  | claimed (gatewayId : Uuid) (token : String)
  /-- The process has stopped or a statement has thrown, with the token created or not. -/
  | failed (issued : Bool)
deriving DecidableEq, Repr

/-- The checks on the gateway that has been read. -/
def afterReadGateway (claimCode : String) (gateway : Option ClaimableGateway) : ClaimPhase :=
  match gateway with
  | none => .refused 404 "Gateway not found"
  | some gw =>
    if gw.claimCode = none ∨ gw.claimCode = some "" then .refused 400 "Gateway already claimed"
    else if gw.claimCode ≠ some claimCode then .refused 400 "Invalid claim code"
    else if gw.status = .DISABLED then .refused 400 "Gateway is disabled"
    else .creating gw.id

section

variable (hashToken : String → String) (claimCode : String)

/-- `createClaimToken`. -/
def createClaimToken (store : EdgeStore) (gatewayId : Uuid) (token : String) (id : Uuid) :
    EdgeStore × ClaimPhase :=
  match store.tokens.insert ⟨id, "Initial token", hashToken token, gatewayId⟩ with
  | none => (store, .failed false)
  | some tokens => ({ store with tokens }, .clearing gatewayId token)

/-- `clearClaimCode`. -/
def clearClaimCode (store : EdgeStore) (gatewayId : Uuid) (token : String) :
    EdgeStore × ClaimPhase :=
  match store.gateway with
  | none => (store, .failed true)
  | some gw => ({ store with gateway := some { gw with claimCode := none } },
      .claimed gatewayId token)

/-- The next statement of a request. -/
def claimStatement {ι : Type*} (_ : ι) (input : ClaimInput) (store : EdgeStore) :
    ClaimPhase → Option (EdgeStore × ClaimPhase)
  | .start =>
    match input with
    | .crash => some (store, .failed false)
    | .proceed _ _ => some (store, afterReadGateway claimCode store.gateway)
  | .creating gatewayId =>
    match input with
    | .crash => some (store, .failed false)
    | .proceed token id => some (createClaimToken hashToken store gatewayId token id)
  | .clearing gatewayId token =>
    match input with
    | .crash => some (store, .failed true)
    | .proceed _ _ => some (clearClaimCode store gatewayId token)
  | _ => none

end

abbrev GatewayClaims (ι : Type*) := Calls ι EdgeStore ClaimPhase

/-- Before any of the requests. -/
def gatewayClaimsStart {ι : Type*} (store : EdgeStore) : GatewayClaims ι := ⟨store, fun _ ↦ .start⟩

/-- The token has been created, and the code has not been cleared after it. -/
def ClaimPhase.HasLeftCode (phase : ClaimPhase) : Prop :=
  (∃ gatewayId token, phase = .clearing gatewayId token) ∨ phase = .failed true

def ClaimPhase.IsCreating (phase : ClaimPhase) : Prop := ∃ gatewayId, phase = .creating gatewayId

instance decidableHasLeftCode : ∀ phase : ClaimPhase, Decidable phase.HasLeftCode
  | .start => isFalse (by simp [ClaimPhase.HasLeftCode])
  | .creating _ => isFalse (by simp [ClaimPhase.HasLeftCode])
  | .clearing _ _ => isTrue (.inl ⟨_, _, rfl⟩)
  | .refused _ _ => isFalse (by simp [ClaimPhase.HasLeftCode])
  | .claimed _ _ => isFalse (by simp [ClaimPhase.HasLeftCode])
  | .failed true => isTrue (.inr rfl)
  | .failed false => isFalse (by simp [ClaimPhase.HasLeftCode])

instance decidableIsCreating : ∀ phase : ClaimPhase, Decidable phase.IsCreating
  | .creating _ => isTrue ⟨_, rfl⟩
  | .start => isFalse (by simp [ClaimPhase.IsCreating])
  | .clearing _ _ => isFalse (by simp [ClaimPhase.IsCreating])
  | .refused _ _ => isFalse (by simp [ClaimPhase.IsCreating])
  | .claimed _ _ => isFalse (by simp [ClaimPhase.IsCreating])
  | .failed _ => isFalse (by simp [ClaimPhase.IsCreating])

/-- The gateway has a code. -/
def EdgeStore.HasCode (store : EdgeStore) : Prop := ∃ gw ∈ store.gateway, gw.claimCode ≠ none

section

variable {ι : Type*} {hashToken : String → String} {claimCode : String}

/-- The gateway still has its code, and no other request has created a token without clearing the
code after it. -/
def CodeStillGood (s : GatewayClaims ι) (i : ι) : Prop :=
  s.store.HasCode ∧ ∀ j ≠ i, ¬(s.phase j).HasLeftCode

/-- The condition on a step: a request that creates a token does so while the code is still good. -/
def CreatesWithCode (s : GatewayClaims ι) (a : ι × ClaimInput) : Prop :=
  (s.phase a.1).IsCreating → a.2 ≠ .crash → CodeStillGood s a.1

instance decidableHasCode (store : EdgeStore) : Decidable store.HasCode :=
  inferInstanceAs (Decidable (∃ gw ∈ store.gateway, gw.claimCode ≠ none))

instance decidableCodeStillGood [Fintype ι] [DecidableEq ι] (s : GatewayClaims ι) (i : ι) :
    Decidable (CodeStillGood s i) :=
  inferInstanceAs (Decidable (_ ∧ ∀ j, j ≠ i → _))

instance decidableCreatesWithCode [Fintype ι] [DecidableEq ι] (s : GatewayClaims ι)
    (a : ι × ClaimInput) : Decidable (CreatesWithCode s a) :=
  inferInstanceAs (Decidable (_ → _ → _))

theorem ClaimPhase.IsCreating.not_hasLeftCode {phase : ClaimPhase} (h : phase.IsCreating) :
    ¬phase.HasLeftCode := by
  obtain ⟨gatewayId, rfl⟩ := h
  rintro (⟨_, _, heq⟩ | heq) <;> cases heq

/-- The gateway that a request has found with its code has one. -/
theorem afterReadGateway_cases {gateway : Option ClaimableGateway} :
    ¬(afterReadGateway claimCode gateway).HasLeftCode ∧
      ((afterReadGateway claimCode gateway).IsCreating →
        ∃ gw ∈ gateway, gw.claimCode ≠ none) := by
  have hrefused : ∀ status error, ¬(ClaimPhase.refused status error).HasLeftCode ∧
      ((ClaimPhase.refused status error).IsCreating → ∃ gw ∈ gateway, gw.claimCode ≠ none) :=
    fun _ _ ↦ ⟨by simp [ClaimPhase.HasLeftCode], by simp [ClaimPhase.IsCreating]⟩
  cases gateway with
  | none => exact hrefused _ _
  | some gw =>
    rw [afterReadGateway]
    split_ifs with hgone hwrong hdisabled
    · exact hrefused _ _
    · exact hrefused _ _
    · exact hrefused _ _
    · exact ⟨by simp [ClaimPhase.HasLeftCode], fun _ ↦ ⟨gw, rfl, fun hnone ↦ hgone (.inl hnone)⟩⟩

/-- **What a statement can do**: answer a request or end it, create a token, or clear the code. -/
theorem claimStatement_cases {i : ι} {input : ClaimInput} {store store' : EdgeStore}
    {phase phase' : ClaimPhase}
    (h : claimStatement hashToken claimCode i input store phase = some (store', phase')) :
    (store' = store ∧ (phase'.HasLeftCode ↔ phase.HasLeftCode) ∧
        (phase'.IsCreating → store.HasCode)) ∨
      (phase.IsCreating ∧ input ≠ .crash ∧ phase'.HasLeftCode ∧
        store'.tokens.rows.length = store.tokens.rows.length + 1) ∨
      (phase.HasLeftCode ∧ ¬phase'.HasLeftCode ∧ store'.tokens = store.tokens ∧
        ¬store'.HasCode) := by
  have hnotCreating : ∀ issued, ¬(ClaimPhase.failed issued).IsCreating := fun _ ↦ by
    simp [ClaimPhase.IsCreating]
  cases phase with
  | start =>
    refine .inl ?_
    cases input with
    | crash =>
      cases h
      exact ⟨rfl, by simp [ClaimPhase.HasLeftCode], fun hcreating ↦ absurd hcreating
        (hnotCreating _)⟩
    | proceed token id =>
      cases h
      obtain ⟨hnotLeft, hcode⟩ := @afterReadGateway_cases claimCode store.gateway
      exact ⟨rfl, iff_of_false hnotLeft (by simp [ClaimPhase.HasLeftCode]), hcode⟩
  | creating gatewayId =>
    cases input with
    | crash =>
      cases h
      exact .inl ⟨rfl, by simp [ClaimPhase.HasLeftCode], fun hcreating ↦ absurd hcreating
        (hnotCreating _)⟩
    | proceed token id =>
      rw [claimStatement, Option.some.injEq, createClaimToken] at h
      split at h
      · cases h
        exact .inl ⟨rfl, by simp [ClaimPhase.HasLeftCode], fun hcreating ↦ absurd hcreating
          (hnotCreating _)⟩
      · rename_i tokens hinsert
        cases h
        refine .inr (.inl ⟨⟨_, rfl⟩, nofun, .inl ⟨_, _, rfl⟩, ?_⟩)
        dsimp only
        rw [Table.rows_of_insert hinsert, List.length_append, List.length_singleton]
  | clearing gatewayId token =>
    have hphase : (ClaimPhase.clearing gatewayId token).HasLeftCode := .inl ⟨_, _, rfl⟩
    cases input with
    | crash =>
      cases h
      exact .inl ⟨rfl, iff_of_true (.inr rfl) hphase, fun hcreating ↦ absurd hcreating
        (hnotCreating _)⟩
    | proceed token' id =>
      rw [claimStatement, Option.some.injEq, clearClaimCode] at h
      split at h
      · cases h
        exact .inl ⟨rfl, iff_of_true (.inr rfl) hphase, fun hcreating ↦ absurd hcreating
          (hnotCreating _)⟩
      · cases h
        exact .inr (.inr ⟨hphase, by simp [ClaimPhase.HasLeftCode], rfl,
          by simp [EdgeStore.HasCode]⟩)
  | refused status error => cases h
  | claimed gatewayId token => cases h
  | failed issued => cases h

/-- What holds throughout a run: no token has been created yet, or one has, and as long as the code
is there a request has left it. -/
def TokenIssuedOnce (issuedBefore : ℕ) (s : GatewayClaims ι) : Prop :=
  (s.store.tokens.rows.length = issuedBefore ∧ (∀ j, ¬(s.phase j).HasLeftCode) ∧
      ∀ j, (s.phase j).IsCreating → s.store.HasCode) ∨
    (s.store.tokens.rows.length = issuedBefore + 1 ∧
      (s.store.HasCode → ∃ j, (s.phase j).HasLeftCode))

/-- A request that creates a token does so with a good code exactly when it is the first. -/
theorem TokenIssuedOnce.codeStillGood_iff {issuedBefore : ℕ} {s : GatewayClaims ι} {i : ι}
    (hinv : TokenIssuedOnce issuedBefore s) (hcreating : (s.phase i).IsCreating) :
    CodeStillGood s i ↔ s.store.tokens.rows.length = issuedBefore ∧
      ∀ j, ¬(s.phase j).HasLeftCode := by
  rcases hinv with ⟨hlength, hnone, hcode⟩ | ⟨hlength, hleft⟩
  · exact iff_of_true ⟨hcode i hcreating, fun j _ ↦ hnone j⟩ ⟨hlength, hnone⟩
  · refine iff_of_false ?_ ?_
    · rintro ⟨hcode, hothers⟩
      obtain ⟨j, hj⟩ := hleft hcode
      by_cases hji : j = i
      · exact hcreating.not_hasLeftCode (hji ▸ hj)
      · exact hothers j hji hj
    · rintro ⟨hsame, -⟩
      omega

variable [DecidableEq ι]

theorem TokenIssuedOnce.step {issuedBefore : ℕ} {s s' : GatewayClaims ι} {a : ι × ClaimInput}
    (hinv : TokenIssuedOnce issuedBefore s) (hok : CreatesWithCode s a)
    (hstep : Calls.step (claimStatement hashToken claimCode) a s = some s') :
    TokenIssuedOnce issuedBefore s' := by
  obtain ⟨hstatement, hother⟩ := Calls.of_step hstep
  obtain ⟨hstore, hsame, hcode⟩ | ⟨hcreating, hcrash, hleft, hlength⟩ |
      ⟨hleft, hnot, htokens, hcode⟩ :=
    claimStatement_cases hstatement
  · have hphases : ∀ j, (s'.phase j).HasLeftCode ↔ (s.phase j).HasLeftCode := by
      intro j
      by_cases hj : j = a.1
      · rw [hj, hsame]
      · rw [hother j hj]
    rw [TokenIssuedOnce, hstore]
    rcases hinv with ⟨hlength, hnone, hcreating⟩ | ⟨hlength, hleft⟩
    · refine .inl ⟨hlength, fun j ↦ (hphases j).not.mpr (hnone j), fun j hj ↦ ?_⟩
      by_cases hja : j = a.1
      · exact hcode (hja ▸ hj)
      · exact hcreating j (hother j hja ▸ hj)
    · exact .inr ⟨hlength, fun hcode ↦ (hleft hcode).imp fun j ↦ (hphases j).mpr⟩
  · obtain ⟨hfirst, -⟩ := (hinv.codeStillGood_iff hcreating).mp (hok hcreating hcrash)
    exact .inr ⟨hlength.trans (congrArg (· + 1) hfirst), fun _ ↦ ⟨a.1, hleft⟩⟩
  · rcases hinv with ⟨-, hnone, -⟩ | ⟨hlength, -⟩
    · exact absurd hleft (hnone a.1)
    · refine .inr ⟨?_, fun hcode' ↦ absurd hcode' hcode⟩
      rw [htokens, hlength]

end

/-! ## Displays -/

/-- The columns of a display that its claim reads and writes. -/
structure ClaimableDisplay where
  id : Uuid
  name : Option String
  siteId : Option Uuid
  claimCode : Option String
  status : DisplayStatus
  claimedAt : Option Time
deriving DecidableEq, Repr

/-- A call of `claim`, from a workspace. -/
structure DisplayClaim where
  workspaceId : Uuid
  name : String
  siteId : Uuid
deriving DecidableEq, Repr

/-- Which statement of `claim` comes next. -/
inductive DisplayClaimPhase
  | start
  /-- The site is one of the workspace. -/
  | reading
  /-- The display has been found by the code, and not claimed. -/
  | updating
  | refused (error code : String)
  | claimed
  | thrown
deriving DecidableEq, Repr

/-- The checks on the site, of which the workspace is given. -/
def afterReadSite (workspaceId : Uuid) (site : Option Uuid) : DisplayClaimPhase :=
  match site with
  | none => .refused "Site not found" "SITE_NOT_FOUND"
  | some owner =>
    if owner ≠ workspaceId then
      .refused "Site does not belong to this workspace" "SITE_NOT_IN_WORKSPACE"
    else .reading

/-- The checks on the display that has been found. -/
def afterFindDisplay (display : Option ClaimableDisplay) : DisplayClaimPhase :=
  match display with
  | none => .refused "Invalid claim code" "INVALID_CLAIM_CODE"
  | some display =>
    if display.status = .CLAIMED then
      .refused "Display has already been claimed" "ALREADY_CLAIMED"
    else .updating

/-- The update of `claim`. -/
def ClaimableDisplay.claimedBy (display : ClaimableDisplay) (call : DisplayClaim) (now : Time) :
    ClaimableDisplay :=
  { display with
    name := some call.name
    siteId := some call.siteId
    claimCode := none
    status := .CLAIMED
    claimedAt := some now }

section

variable {ι : Type*} (sites : Uuid → Option Uuid) (claimCode : String) (calls : ι → DisplayClaim)

/-- The next statement of the call `i`, on the display that has been registered with the code. -/
def displayClaimStatement (i : ι) (now : Time) (display : Option ClaimableDisplay) :
    DisplayClaimPhase → Option (Option ClaimableDisplay × DisplayClaimPhase)
  | .start => some (display, afterReadSite (calls i).workspaceId (sites (calls i).siteId))
  | .reading => some (display,
      afterFindDisplay (display.filter fun d ↦ decide (d.claimCode = some claimCode)))
  | .updating =>
    match display with
    | none => some (none, .thrown)
    | some d => some (some (d.claimedBy (calls i) now), .claimed)
  | _ => none

abbrev DisplayClaims (ι : Type*) := Calls ι (Option ClaimableDisplay) DisplayClaimPhase

/-- Before any of the calls. -/
def displayClaimsStart (display : Option ClaimableDisplay) : DisplayClaims ι :=
  ⟨display, fun _ ↦ .start⟩

/-- The display has not been claimed. -/
def Unclaimed (display : Option ClaimableDisplay) : Prop := ∀ d ∈ display, d.status = .UNCLAIMED

instance decidableUnclaimed (display : Option ClaimableDisplay) : Decidable (Unclaimed display) :=
  inferInstanceAs (Decidable (∀ d ∈ display, d.status = .UNCLAIMED))

/-- The condition on a step: the update of a call finds the display unclaimed. -/
def FindsUnclaimed (s : DisplayClaims ι) (a : ι × Time) : Prop :=
  s.phase a.1 = .updating → Unclaimed s.store

instance decidableFindsUnclaimed (s : DisplayClaims ι) (a : ι × Time) :
    Decidable (FindsUnclaimed s a) :=
  inferInstanceAs (Decidable (_ → _))

/-- The display is the one that the call has made. -/
def KeepsClaim (display : Option ClaimableDisplay) (call : DisplayClaim) : Prop :=
  ∃ d ∈ display, d.status = .CLAIMED ∧ d.name = some call.name ∧ d.siteId = some call.siteId

/-- At most one call has succeeded, and the display is what it has made of it. -/
def ClaimedOnce (calls : ι → DisplayClaim) (s : DisplayClaims ι) : Prop :=
  ∀ i, s.phase i = .claimed →
    KeepsClaim s.store (calls i) ∧ ∀ j, s.phase j = .claimed → j = i

variable {sites claimCode calls}

theorem afterReadSite_ne {workspaceId : Uuid} {site : Option Uuid} :
    afterReadSite workspaceId site ≠ .claimed ∧ afterReadSite workspaceId site ≠ .updating := by
  unfold afterReadSite
  split
  · exact ⟨nofun, nofun⟩
  · split <;> exact ⟨nofun, nofun⟩

theorem afterFindDisplay_ne_claimed (display : Option ClaimableDisplay) :
    afterFindDisplay display ≠ .claimed := by
  unfold afterFindDisplay
  split
  · exact nofun
  · split <;> exact nofun

theorem unclaimed_of_afterFindDisplay {display : Option ClaimableDisplay}
    (h : afterFindDisplay (display.filter fun d ↦ decide (d.claimCode = some claimCode))
      = .updating) : Unclaimed display := by
  intro d hd
  rw [Option.mem_def.mp hd] at h
  by_cases hcode : d.claimCode = some claimCode
  · rw [Option.filter_some_pos (by simpa using hcode), afterFindDisplay] at h
    split at h
    · cases h
    · rename_i hnot
      cases hstatus : d.status with
      | UNCLAIMED => rfl
      | CLAIMED => exact absurd hstatus hnot
  · rw [Option.filter_some_neg (by simpa using hcode)] at h
    cases h

/-- **What a statement can do**: look at the site or the display, find none, or claim it. -/
theorem displayClaimStatement_cases {i : ι} {now : Time}
    {display display' : Option ClaimableDisplay} {phase phase' : DisplayClaimPhase}
    (h : displayClaimStatement sites claimCode calls i now display phase
      = some (display', phase')) :
    (display' = display ∧ phase ≠ .claimed ∧ phase' ≠ .claimed ∧
        (phase' = .updating → Unclaimed display)) ∨
      (phase = .updating ∧ phase' = .claimed ∧ KeepsClaim display' (calls i)) := by
  cases phase with
  | start =>
    cases h
    obtain ⟨hclaimed, hupdating⟩ :=
      @afterReadSite_ne (calls i).workspaceId (sites (calls i).siteId)
    exact .inl ⟨rfl, nofun, hclaimed, fun heq ↦ absurd heq hupdating⟩
  | reading =>
    cases h
    exact .inl ⟨rfl, nofun, afterFindDisplay_ne_claimed _, unclaimed_of_afterFindDisplay⟩
  | updating =>
    cases display with
    | none =>
      cases h
      exact .inl ⟨rfl, nofun, nofun, nofun⟩
    | some d =>
      cases h
      exact .inr ⟨rfl, rfl, _, rfl, rfl, rfl, rfl⟩
  | refused error code => cases h
  | claimed => cases h
  | thrown => cases h

/-- What holds throughout a run: the display is free where a call is about to claim it, or one call
has succeeded and the display is what it has made of it. -/
def DisplayClaimedOnce (calls : ι → DisplayClaim) (s : DisplayClaims ι) : Prop :=
  ((∀ j, s.phase j ≠ .claimed) ∧ ∀ j, s.phase j = .updating → Unclaimed s.store) ∨
    ∃ i, s.phase i = .claimed ∧ KeepsClaim s.store (calls i) ∧ ∀ j, s.phase j = .claimed → j = i

theorem DisplayClaimedOnce.claimedOnce {s : DisplayClaims ι} (hinv : DisplayClaimedOnce calls s) :
    ClaimedOnce calls s := by
  intro i hi
  rcases hinv with ⟨hnone, -⟩ | ⟨k, hk, hkeeps, hothers⟩
  · exact absurd hi (hnone i)
  · cases hothers i hi
    exact ⟨hkeeps, hothers⟩

theorem KeepsClaim.not_unclaimed {display : Option ClaimableDisplay} {call : DisplayClaim}
    (h : KeepsClaim display call) : ¬Unclaimed display := by
  intro hfree
  obtain ⟨d, hd, hstatus, -⟩ := h
  rw [hfree d hd] at hstatus
  cases hstatus

/-- A call that is about to claim the display finds it free exactly when none has succeeded. -/
theorem DisplayClaimedOnce.unclaimed_iff {s : DisplayClaims ι} {i : ι}
    (hinv : DisplayClaimedOnce calls s) (hi : s.phase i = .updating) :
    Unclaimed s.store ↔ ∀ j, s.phase j ≠ .claimed := by
  rcases hinv with ⟨hnone, hfree⟩ | ⟨k, hk, hkeeps, -⟩
  · exact iff_of_true (hfree i hi) hnone
  · exact iff_of_false hkeeps.not_unclaimed fun hnone ↦ hnone k hk

variable [DecidableEq ι]

theorem DisplayClaimedOnce.step {s s' : DisplayClaims ι} {a : ι × Time}
    (hinv : DisplayClaimedOnce calls s) (hok : FindsUnclaimed s a)
    (hstep : Calls.step (displayClaimStatement sites claimCode calls) a s = some s') :
    DisplayClaimedOnce calls s' := by
  obtain ⟨hstatement, hother⟩ := Calls.of_step hstep
  obtain ⟨hstore, hphase, hnot, hfound⟩ | ⟨hupdating, hclaimed, hkeeps⟩ :=
    displayClaimStatement_cases hstatement
  · rw [DisplayClaimedOnce, hstore]
    rcases hinv with ⟨hnone, hfree⟩ | ⟨i, hi, hkeeps, hothers⟩
    · refine .inl ⟨fun j ↦ ?_, fun j hj ↦ ?_⟩
      · by_cases hja : j = a.1
        · rwa [hja]
        · rw [hother j hja]
          exact hnone j
      · by_cases hja : j = a.1
        · exact hfound (hja ▸ hj)
        · exact hfree j ((hother j hja).symm.trans hj)
    · have hia : i ≠ a.1 := fun heq ↦ hphase (heq ▸ hi)
      refine .inr ⟨i, (hother i hia).trans hi, hkeeps, fun j hj ↦ ?_⟩
      by_cases hja : j = a.1
      · exact absurd (hja ▸ hj) hnot
      · exact hothers j ((hother j hja).symm.trans hj)
  · have hnone := (hinv.unclaimed_iff hupdating).mp (hok hupdating)
    refine .inr ⟨a.1, hclaimed, hkeeps, fun j hj ↦ ?_⟩
    by_contra hja
    exact hnone j ((hother j hja).symm.trans hj)

end

/-! ## One exchange -/

/-- **A claim code is exchanged once.** For a gateway, requests that create their tokens while the
code is still good create at most one, and the next one keeps this exactly when its code is. For a
display, of the calls whose updates find it unclaimed at most one succeeds, and the display keeps
what that call gave it; the next update keeps this exactly when it does. -/
theorem claim_code_exchanged_once {ι κ : Type*} [DecidableEq ι] [DecidableEq κ]
    {hashToken : String → String} {gatewayCode displayCode : String} {sites : Uuid → Option Uuid}
    {calls : κ → DisplayClaim} {store : EdgeStore} {display : Option ClaimableDisplay}
    {as : List (ι × ClaimInput)} {bs : List (κ × Time)} {s : GatewayClaims ι} {t : DisplayClaims κ}
    (hgateway : Run (Calls.step (claimStatement hashToken gatewayCode)) CreatesWithCode
      (gatewayClaimsStart store) as s)
    (hdisplay : Run (Calls.step (displayClaimStatement sites displayCode calls)) FindsUnclaimed
      (displayClaimsStart display) bs t) :
    (s.store.tokens.rows.length ≤ store.tokens.rows.length + 1 ∧
      ∀ i input s', Calls.step (claimStatement hashToken gatewayCode) (i, input) s = some s' →
        (s.phase i).IsCreating → (s'.phase i).HasLeftCode →
          (s'.store.tokens.rows.length ≤ store.tokens.rows.length + 1 ↔ CodeStillGood s i)) ∧
    ClaimedOnce calls t ∧
      ∀ i now t', Calls.step (displayClaimStatement sites displayCode calls) (i, now) t = some t' →
        t.phase i = .updating → t'.phase i = .claimed →
          (ClaimedOnce calls t' ↔ Unclaimed t.store) := by
  have htokens : TokenIssuedOnce store.tokens.rows.length s :=
    hgateway.invariant (.inl ⟨rfl, fun _ ↦ by simp [gatewayClaimsStart, ClaimPhase.HasLeftCode],
      fun _ ↦ by simp [gatewayClaimsStart, ClaimPhase.IsCreating]⟩)
      fun _ _ _ hinv hok hstep ↦ hinv.step hok hstep
  have hclaims : DisplayClaimedOnce calls t :=
    hdisplay.invariant (.inl ⟨fun _ ↦ by simp [displayClaimsStart],
      fun _ ↦ by simp [displayClaimsStart]⟩) fun _ _ _ hinv hok hstep ↦ hinv.step hok hstep
  refine ⟨⟨?_, ?_⟩, hclaims.claimedOnce, ?_⟩
  · rcases htokens with ⟨hlength, -⟩ | ⟨hlength, -⟩ <;> omega
  · intro i input s' hstep hcreating hleft
    obtain ⟨hstatement, -⟩ := Calls.of_step hstep
    rw [htokens.codeStillGood_iff hcreating]
    obtain ⟨-, hsame, -⟩ | ⟨-, -, -, hlength⟩ | ⟨hleft', -⟩ := claimStatement_cases hstatement
    · exact absurd (hsame.mp hleft) hcreating.not_hasLeftCode
    · rcases htokens with ⟨hfirst, hnone, -⟩ | ⟨hsecond, -⟩
      · exact iff_of_true (by omega) ⟨hfirst, hnone⟩
      · exact iff_of_false (by omega) fun hfirst ↦ by omega
    · exact absurd hleft' hcreating.not_hasLeftCode
  · intro i now t' hstep hupdating hclaimed
    obtain ⟨-, hother⟩ := Calls.of_step hstep
    rw [hclaims.unclaimed_iff hupdating]
    constructor
    · intro honce j hj
      have hji : j ≠ i := by
        rintro rfl
        cases hupdating.symm.trans hj
      exact hji ((honce i hclaimed).2 j ((hother j hji).trans hj))
    · intro hnone
      have hok : FindsUnclaimed t (i, now) := fun _ ↦ (hclaims.unclaimed_iff hupdating).mpr hnone
      exact (hclaims.step hok hstep).claimedOnce

/-- A gateway that waits for its claim. -/
def unclaimedGateway : EdgeStore := ⟨some ⟨1, some "GW-7", .PROVISIONED⟩, .empty _⟩

/-- A display that waits for its claim. -/
def unclaimedDisplay : ClaimableDisplay := ⟨1, none, none, some "A3X-7K2", .UNCLAIMED, none⟩

/-- Two users of the workspace 1, each with a name and a site for the display. -/
def twoClaims (second : Bool) : DisplayClaim :=
  if second then ⟨1, "Line 2", 6⟩ else ⟨1, "Line 1", 5⟩

/-- Two requests read the gateway, but the second one stops before it creates a token; a call claims
a display after another one has. -/
theorem claim_code_exchanged_once_two : ∃ (s : GatewayClaims Bool) (t : DisplayClaims Bool),
    s.phase false = .claimed 1 "token" ∧ t.phase true = .refused "Invalid claim code"
      "INVALID_CLAIM_CODE" ∧ s.store.tokens.rows.length ≤ 0 + 1 ∧ ClaimedOnce twoClaims t := by
  have hgateway : (execute (Calls.step (claimStatement id "GW-7")) CreatesWithCode
      [(false, .proceed "" 0), (true, .proceed "" 0), (false, .proceed "token" 1), (true, .crash),
        (false, .proceed "" 0)] (gatewayClaimsStart unclaimedGateway)).any (fun s ↦
        decide (s.phase false = .claimed 1 "token")) = true := by
    decide +kernel
  have hdisplay : (execute (Calls.step (displayClaimStatement (fun _ ↦ some 1) "A3X-7K2" twoClaims))
      FindsUnclaimed [(false, 0), (true, 0), (false, 0), (false, 10), (true, 20)]
        (displayClaimsStart (some unclaimedDisplay))).any (fun t ↦
        decide (t.phase true = .refused "Invalid claim code" "INVALID_CLAIM_CODE")) = true := by
    decide +kernel
  obtain ⟨s, hs, hclaimed⟩ := (Option.any_eq_true _ _).mp hgateway
  obtain ⟨t, ht, hrefused⟩ := (Option.any_eq_true _ _).mp hdisplay
  obtain ⟨⟨htokens, -⟩, honce, -⟩ :=
    claim_code_exchanged_once (run_of_execute hs) (run_of_execute ht)
  exact ⟨s, t, of_decide_eq_true hclaimed, of_decide_eq_true hrefused, htokens, honce⟩

/-- **A claim code can be exchanged twice.** A process stops when it has created a token, and the
code is good for another one; and two users claim a display for different sites, each of them with
success. -/
theorem not_claim_code_exchanged_once :
    (∃ s : GatewayClaims Bool, Run (Calls.step (claimStatement id "GW-7")) (fun _ _ ↦ True)
      (gatewayClaimsStart unclaimedGateway) [(false, .proceed "" 0), (false, .proceed "first" 1),
        (false, .crash), (true, .proceed "" 0), (true, .proceed "second" 2),
        (true, .proceed "" 0)] s ∧ s.store.tokens.rows.length = 2) ∧
    ∃ t : DisplayClaims Bool, Run (Calls.step (displayClaimStatement (fun _ ↦ some 1) "A3X-7K2"
      twoClaims)) (fun _ _ ↦ True) (displayClaimsStart (some unclaimedDisplay))
        [(false, 0), (true, 0), (false, 0), (true, 0), (false, 10), (true, 20)] t ∧
      t.phase false = .claimed ∧ t.phase true = .claimed ∧ ¬ClaimedOnce twoClaims t := by
  constructor
  · have hexecute : (execute (Calls.step (claimStatement id "GW-7")) (fun _ _ ↦ True)
        [(false, .proceed "" 0), (false, .proceed "first" 1), (false, .crash),
          (true, .proceed "" 0), (true, .proceed "second" 2), (true, .proceed "" 0)]
        (gatewayClaimsStart unclaimedGateway : GatewayClaims Bool)).any (fun s ↦
          decide (s.store.tokens.rows.length = 2)) = true := by
      decide +kernel
    obtain ⟨s, hs, htokens⟩ := (Option.any_eq_true _ _).mp hexecute
    exact ⟨s, run_of_execute hs, of_decide_eq_true htokens⟩
  · have hexecute : (execute (Calls.step (displayClaimStatement (fun _ ↦ some 1) "A3X-7K2"
        twoClaims)) (fun _ _ ↦ True)
        [(false, 0), (true, 0), (false, 0), (true, 0), (false, 10), (true, 20)]
        (displayClaimsStart (some unclaimedDisplay))).any (fun t ↦
          decide (t.phase false = .claimed ∧ t.phase true = .claimed)) = true := by
      decide +kernel
    obtain ⟨t, ht, hclaimed⟩ := (Option.any_eq_true _ _).mp hexecute
    obtain ⟨hfirst, hsecond⟩ := of_decide_eq_true hclaimed
    refine ⟨t, run_of_execute ht, hfirst, hsecond, fun honce ↦ ?_⟩
    cases (honce true hsecond).2 false hfirst

end RwServer
