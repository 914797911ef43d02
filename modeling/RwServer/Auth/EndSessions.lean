import Mathlib
import RwServer.Auth.RefreshTokens

/-!
# Transactions that end all sessions of a user

A reset of the password and a disabling of the user change the user and revoke its tokens, in one
transaction. The statement that revokes finds the unrevoked tokens there are at that moment and
locks them; what it writes is seen when the transaction commits. A refresh that has verified its
token before creates its new token when it comes to it, and never looks again.

`ended_sessions_stay_ended` says what is left when no such refresh creates its token after that
statement.
-/

namespace RwServer

open Transition

/-- What the transaction is part of. -/
inductive EndKind
  | resetPassword
  | disable
deriving DecidableEq, Repr

/-- Which statement of the transaction comes next. -/
inductive EndPhase (Token : Type*)
  | start
  /-- The user is updated. -/
  | updated
  /-- The tokens that are `seen` are revoked and locked. -/
  | revoked (seen : Token → Bool) (revokedAt : Time)
  /-- The tokens that are `issued` were there at the commit. -/
  | committed (issued : Token → Bool)

/-- The transaction beside the calls. -/
structure EndingState (ι Token : Type*) where
  store : SessionStore Token
  transaction : EndPhase Token
  phase : ι → SessionPhase Token

variable {ι Token : Type*}

/-- The tokens that were there at the commit. -/
def EndPhase.issued : EndPhase Token → Option (Token → Bool)
  | .committed issued => some issued
  | _ => none

theorem EndPhase.eq_committed {transaction : EndPhase Token} {issued : Token → Bool}
    (h : transaction.issued = some issued) : transaction = .committed issued := by
  cases transaction with
  | start | updated | revoked => cases h
  | committed => exact congrArg EndPhase.committed (Option.some.inj h)

/-! ## The steps -/

/-- `updateMany({ where: { userId, revokedAt: null } })`: the rows it finds. -/
def unrevokedOf (tokens : Token → Option RefreshToken) (userId : Uuid) (token : Token) : Bool :=
  (tokens token).any fun row ↦ decide (row.ownerId = userId ∧ row.revokedAt = none)

/-- What the transaction has written, when it commits. -/
def commitEnd (kind : EndKind) (userId : Uuid) (seen : Token → Bool) (revokedAt : Time)
    (store : SessionStore Token) : SessionStore Token :=
  { store with
    tokens := fun token ↦
      if seen token then (store.tokens token).map fun row ↦ { row with revokedAt := some revokedAt }
      else store.tokens token
    users := match kind with
      | .resetPassword => store.users
      | .disable => Function.update store.users userId
          ((store.users userId).map fun user ↦ { user with status := .DISABLED }) }

/-- The next statement of the transaction. -/
def endStatement (kind : EndKind) (userId : Uuid) (now : Time) (s : EndingState ι Token) :
    Option (EndingState ι Token) :=
  match s.transaction with
  | .start =>
    if (s.store.users userId).isSome then some { s with transaction := .updated } else none
  | .updated =>
    some { s with transaction := .revoked (unrevokedOf s.store.tokens userId) now }
  | .revoked seen revokedAt => some { s with
      store := commitEnd kind userId seen revokedAt s.store
      transaction := .committed fun token ↦ (s.store.tokens token).isSome }
  | .committed _ => none

/-- The tokens whose rows are locked. -/
def EndPhase.locked : EndPhase Token → Token → Bool
  | .revoked seen _, token => seen token
  | _, _ => false

/-- Whether the next statement of a call has to wait for a row that is locked. -/
def waitsFor (locked : Token → Bool) (call : SessionCall Token) (phase : SessionPhase Token) :
    Bool :=
  match call, phase with
  | .refresh token _, .revoking _ => locked token
  | .logout token, .loggingOut => locked token
  | _, _ => false

variable [DecidableEq ι] [DecidableEq Token]

/-- The next statement of the transaction, or of a call. -/
def endingStep (kind : EndKind) (userId : Uuid) (calls : ι → SessionCall Token) :
    Option ι × Outside Token → EndingState ι Token → Option (EndingState ι Token)
  | (none, outside), s => endStatement kind userId outside.now s
  | (some i, outside), s =>
    if waitsFor s.transaction.locked (calls i) (s.phase i) then none
    else (sessionStatement .user calls i outside s.store (s.phase i)).map fun next ↦
      { s with store := next.1, phase := Function.update s.phase i next.2 }

/-- Before the transaction and the calls. -/
def endingStart (store : SessionStore Token) : EndingState ι Token :=
  ⟨store, .start, fun _ ↦ .start⟩

/-! ## What is left of the sessions -/

/-- Whether a refresh with the token `old` may create a token of the user: before the transaction
has revoked the tokens there are, or when `old` has been issued after it. -/
def EndPhase.InTime : EndPhase Token → Token → Prop
  | .start, _ | .updated, _ => True
  | .revoked _ _, _ => False
  | .committed issued, old => issued old = false

instance EndPhase.decidableInTime : ∀ (transaction : EndPhase Token) (old : Token),
    Decidable (transaction.InTime old)
  | .start, _ | .updated, _ => isTrue trivial
  | .revoked _ _, _ => isFalse id
  | .committed issued, old => inferInstanceAs (Decidable (issued old = false))

/-- Whose token a call is about to create. -/
def SessionPhase.createsFor : SessionPhase Token → Option Uuid
  | .creating ownerId _ => some ownerId
  | _ => none

/-- The condition on a step: a refresh creates a token of the user in time. -/
def CreatesInTime (userId : Uuid) (calls : ι → SessionCall Token) (s : EndingState ι Token)
    (a : Option ι × Outside Token) : Prop :=
  ∀ i ∈ a.1, ∀ old ∈ (calls i).refreshes, (s.phase i).createsFor = some userId →
    s.transaction.InTime old

instance decidableCreatesInTime (userId : Uuid) (calls : ι → SessionCall Token)
    (s : EndingState ι Token) (a : Option ι × Outside Token) :
    Decidable (CreatesInTime userId calls s a) :=
  inferInstanceAs (Decidable (∀ i ∈ a.1, ∀ old ∈ (calls i).refreshes,
    (s.phase i).createsFor = some userId → s.transaction.InTime old))

/-- What the transaction has done or will do to a token that has been given for `old`. -/
def EndPhase.Ends : EndPhase Token → Token → Token → RefreshToken → Prop
  | .start, _, _, _ | .updated, _, _, _ => True
  | .revoked seen _, _, new, row => seen new = true ∨ row.revokedAt.isSome = true
  | .committed issued, old, _, row => issued old = true → row.revokedAt.isSome = true

/-- The tokens of the user that refreshes have obtained are there, and are ended. -/
def Ended (userId : Uuid) (calls : ι → SessionCall Token) (s : EndingState ι Token) : Prop :=
  ∀ i old siteId new payload, calls i = .refresh old siteId → s.phase i = .refreshed new payload →
    ∃ row, s.store.tokens new = some row ∧
      (row.ownerId = userId → s.transaction.Ends old new row)

omit [DecidableEq ι] in
/-- A call takes no token away, and leaves a revoked one revoked. -/
theorem keeps_sessionStatement {principal : Principal} {calls : ι → SessionCall Token} {i : ι}
    {outside : Outside Token} {store store' : SessionStore Token}
    {phase phase' : SessionPhase Token}
    (h : sessionStatement principal calls i outside store phase = some (store', phase'))
    {token : Token} {row : RefreshToken} (hrow : store.tokens token = some row) :
    ∃ row', store'.tokens token = some row' ∧ row'.ownerId = row.ownerId ∧
      (row.revokedAt.isSome = true → row'.revokedAt.isSome = true) := by
  have hrevoke : ∀ other, ∃ row',
      (store.revokeRefreshToken outside.now other).2.tokens token = some row' ∧
        row'.ownerId = row.ownerId ∧
          (row.revokedAt.isSome = true → row'.revokedAt.isSome = true) := by
    intro other
    rw [SessionStore.revokeRefreshToken]
    split
    · exact ⟨row, hrow, rfl, id⟩
    · rename_i found hfound
      by_cases heq : token = other
      · subst heq
        rw [hrow, Option.some.injEq] at hfound
        exact ⟨_, Function.update_self .., by rw [hfound], fun _ ↦ rfl⟩
      · exact ⟨row, (Function.update_of_ne heq ..).trans hrow, rfl, id⟩
  rcases sessionStatement_cases h with ⟨rfl, -⟩ | ⟨_, _, _, -, -, rfl, -⟩ | ⟨_, -, rfl, -⟩ |
    ⟨_, hcreate, -⟩
  · exact ⟨row, hrow, rfl, id⟩
  · exact hrevoke _
  · exact hrevoke _
  · exact ⟨row, SessionStore.tokens_of_createRefreshToken hrow hcreate, rfl, id⟩

omit [DecidableEq Token] in
theorem EndPhase.Ends.mono {transaction : EndPhase Token} {old new : Token}
    {row row' : RefreshToken} (h : transaction.Ends old new row)
    (hrevoked : row.revokedAt.isSome = true → row'.revokedAt.isSome = true) :
    transaction.Ends old new row' := by
  cases transaction with
  | start | updated => trivial
  | revoked seen revokedAt => exact h.imp_right hrevoked
  | committed issued => exact fun hissued ↦ hrevoked (h hissued)

omit [DecidableEq ι] [DecidableEq Token] in
/-- A statement of the transaction keeps the tokens of refreshes ended. -/
theorem Ended.transaction {kind : EndKind} {userId : Uuid} {calls : ι → SessionCall Token}
    {now : Time} {s s' : EndingState ι Token} (h : Ended userId calls s)
    (hstep : endStatement kind userId now s = some s') : Ended userId calls s' := by
  obtain ⟨store, transaction, phases⟩ := s
  rw [endStatement] at hstep
  cases transaction with
  | start =>
    dsimp only at hstep
    split at hstep
    · cases hstep
      intro i old siteId new payload hcall hphase
      obtain ⟨row, hrow, -⟩ := h i old siteId new payload hcall hphase
      exact ⟨row, hrow, fun _ ↦ trivial⟩
    · cases hstep
  | updated =>
    cases hstep
    intro i old siteId new payload hcall hphase
    obtain ⟨row, hrow, -⟩ := h i old siteId new payload hcall hphase
    refine ⟨row, hrow, fun howner ↦ ?_⟩
    by_cases hnone : row.revokedAt = none
    · refine .inl ?_
      dsimp only at hrow ⊢
      rw [unrevokedOf, hrow, Option.any_some]
      exact decide_eq_true ⟨howner, hnone⟩
    · exact .inr (Option.isSome_iff_ne_none.mpr hnone)
  | revoked seen revokedAt =>
    cases hstep
    intro i old siteId new payload hcall hphase
    obtain ⟨row, hrow, hends⟩ := h i old siteId new payload hcall hphase
    dsimp only at hrow
    by_cases hseen : seen new = true
    · refine ⟨{ row with revokedAt := some revokedAt }, ?_, fun _ _ ↦ rfl⟩
      change (if seen new then _ else _) = _
      rw [if_pos hseen, hrow]
      rfl
    · refine ⟨row, ?_, fun howner _ ↦ (hends howner).resolve_left hseen⟩
      change (if seen new then _ else _) = _
      rw [if_neg hseen, hrow]
  | committed issued => cases hstep

/-- **One step keeps the tokens of refreshes ended.** -/
theorem Ended.step {kind : EndKind} {userId : Uuid} {calls : ι → SessionCall Token}
    {s s' : EndingState ι Token} {a : Option ι × Outside Token} (h : Ended userId calls s)
    (hok : CreatesInTime userId calls s a) (hstep : endingStep kind userId calls a s = some s') :
    Ended userId calls s' := by
  obtain ⟨- | i, outside⟩ := a
  · exact h.transaction hstep
  rw [endingStep] at hstep
  split at hstep
  · cases hstep
  obtain ⟨⟨store, phase⟩, hstatement, rfl⟩ := Option.map_eq_some_iff.mp hstep
  intro j old siteId new payload hcall hphase
  dsimp only at hphase ⊢
  by_cases hji : j = i
  · subst hji
    rw [Function.update_self] at hphase
    subst hphase
    rcases sessionStatement_cases hstatement with ⟨-, -, hnot, -⟩ | ⟨_, _, _, -, -, -, heq⟩ |
      ⟨_, -, -, heq⟩ | ⟨ownerId, hcreate, ⟨token, siteId', payload', hcall', hcreating, heq⟩ |
        ⟨-, heq⟩⟩
    · exact absurd rfl (hnot new payload)
    · cases heq
    · cases heq
    · cases heq
      rw [SessionStore.createRefreshToken] at hcreate
      split at hcreate
      · cases hcreate
      · cases hcreate
        refine ⟨_, Function.update_self .., fun howner ↦ ?_⟩
        have hintime := hok j rfl old (by rw [hcall]; rfl) (by rw [hcreating, ← howner]; rfl)
        cases htransaction : s.transaction with
        | start | updated => trivial
        | revoked seen revokedAt =>
          rw [htransaction] at hintime
          exact absurd hintime id
        | committed issued =>
          rw [htransaction] at hintime
          intro hissued
          exact absurd hissued (Bool.eq_false_iff.mp hintime)
    · cases heq
  · rw [Function.update_of_ne hji] at hphase
    obtain ⟨row, hrow, hends⟩ := h j old siteId new payload hcall hphase
    obtain ⟨row', hrow', howner, hrevoked⟩ := keeps_sessionStatement hstatement hrow
    exact ⟨row', hrow', fun howner' ↦ (hends (howner ▸ howner')).mono hrevoked⟩

/-- **Sessions that are ended stay ended.** When the transaction has committed, no token of the user
that has been obtained by a refresh with a token issued before the commit is valid, in every
interleaving in which no such refresh creates its token after the statement that revokes. -/
theorem ended_sessions_stay_ended {kind : EndKind} {userId : Uuid} {calls : ι → SessionCall Token}
    {store : SessionStore Token} {steps : List (Option ι × Outside Token)} {s : EndingState ι Token}
    {issued : Token → Bool}
    (hrun : Run (endingStep kind userId calls) (CreatesInTime userId calls) (endingStart store)
      steps s) (hcommitted : s.transaction = .committed issued) (i : ι) (old new : Token)
    (siteId : Option Uuid) (payload : AccessPayload) (hcall : calls i = .refresh old siteId)
    (hrefreshed : s.phase i = .refreshed new payload) (hissued : issued old = true) (now : Time) :
    verifyRefreshToken s.store.tokens now new ≠ some userId := by
  have hended : Ended userId calls s := by
    have hstart : Ended userId calls (endingStart store : EndingState ι Token) :=
      fun _ _ _ _ _ _ hphase ↦ (by cases hphase)
    exact hrun.invariant hstart fun _ _ _ h hok hstep ↦ h.step hok hstep
  obtain ⟨row, hrow, hends⟩ := hended i old siteId new payload hcall hrefreshed
  intro hvalid
  rw [verifyRefreshToken, hrow] at hvalid
  dsimp only at hvalid
  split at hvalid
  · cases hvalid
  · rename_i hnot
    have howner := Option.some.inj hvalid
    have hrevoked := hends howner
    rw [hcommitted] at hrevoked
    exact hnot (.inl (hrevoked hissued))

/-! ## A refresh during a reset -/

/-- One refresh of the token of `oneSession`. -/
def oneRefresh : Unit → SessionCall ℕ := fun _ ↦ .refresh 1 none

/-- The refresh is over before the reset begins: its new token is revoked. -/
theorem ended_sessions_stay_ended_before : ∃ s : EndingState Unit ℕ, ∃ issued,
    s.transaction = .committed issued ∧ s.phase () = .refreshed 2 ⟨3, some 4⟩ ∧ issued 1 = true ∧
      verifyRefreshToken s.store.tokens 30 2 ≠ some 7 := by
  have hexecute : (execute (endingStep .resetPassword 7 oneRefresh) (CreatesInTime 7 oneRefresh)
      [(some (), ⟨10, 0⟩), (some (), ⟨11, 0⟩), (some (), ⟨12, 0⟩), (some (), ⟨13, 0⟩),
        (some (), ⟨14, 2⟩), (none, ⟨20, 0⟩), (none, ⟨21, 0⟩), (none, ⟨22, 0⟩)]
      (endingStart oneSession)).any (fun s ↦ decide (s.phase () = .refreshed 2 ⟨3, some 4⟩) &&
        s.transaction.issued.any fun issued ↦ issued 1) = true := by decide +kernel
  obtain ⟨s, hs, hfacts⟩ := (Option.any_eq_true _ _).mp hexecute
  obtain ⟨hphase, hsome⟩ := (Bool.and_eq_true _ _).mp hfacts
  obtain ⟨issued, hcommitted, hissued⟩ := (Option.any_eq_true _ _).mp hsome
  have hrefreshed := of_decide_eq_true hphase
  exact ⟨s, issued, EndPhase.eq_committed hcommitted, hrefreshed, hissued,
    ended_sessions_stay_ended (run_of_execute hs) (EndPhase.eq_committed hcommitted) () 1 2 none _
      rfl hrefreshed hissued 30⟩

/-- **A session survives a reset.** The refresh has read the user, and then the reset revokes the
tokens there are and commits; the token that the refresh creates after that is valid. -/
theorem not_ended_sessions_stay_ended : ∃ s : EndingState Unit ℕ, ∃ issued,
    Run (endingStep .resetPassword 7 oneRefresh) (fun _ _ ↦ True) (endingStart oneSession)
        [(some (), ⟨10, 0⟩), (some (), ⟨11, 0⟩), (some (), ⟨12, 0⟩), (some (), ⟨13, 0⟩),
          (none, ⟨20, 0⟩), (none, ⟨21, 0⟩), (none, ⟨22, 0⟩), (some (), ⟨23, 2⟩)] s ∧
      s.transaction = .committed issued ∧ s.phase () = .refreshed 2 ⟨3, some 4⟩ ∧
        issued 1 = true ∧ verifyRefreshToken s.store.tokens 30 2 = some 7 := by
  have hexecute : (execute (endingStep .resetPassword 7 oneRefresh) (fun _ _ ↦ True)
      [(some (), ⟨10, 0⟩), (some (), ⟨11, 0⟩), (some (), ⟨12, 0⟩), (some (), ⟨13, 0⟩),
        (none, ⟨20, 0⟩), (none, ⟨21, 0⟩), (none, ⟨22, 0⟩), (some (), ⟨23, 2⟩)]
      (endingStart oneSession)).any (fun s ↦ decide (s.phase () = .refreshed 2 ⟨3, some 4⟩ ∧
        verifyRefreshToken s.store.tokens 30 2 = some 7) &&
        s.transaction.issued.any fun issued ↦ issued 1) = true := by decide +kernel
  obtain ⟨s, hs, hfacts⟩ := (Option.any_eq_true _ _).mp hexecute
  obtain ⟨hphase, hsome⟩ := (Bool.and_eq_true _ _).mp hfacts
  obtain ⟨issued, hcommitted, hissued⟩ := (Option.any_eq_true _ _).mp hsome
  obtain ⟨hrefreshed, hvalid⟩ := of_decide_eq_true hphase
  exact ⟨s, issued, run_of_execute hs, EndPhase.eq_committed hcommitted, hrefreshed, hissued,
    hvalid⟩

end RwServer
