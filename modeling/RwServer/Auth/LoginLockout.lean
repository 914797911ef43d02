import Mathlib
import RwServer.Auth.RefreshTokens

/-!
# Failed logins

A login with a wrong password, or a wrong PIN of an employee, raises the count of failed attempts,
and locks the account when the count has reached its maximum. The count is read, the secret is
compared, and then the count is written back together with the lock, or with no lock: a user's count
is read before the comparison, an employee's after it.

`failures_are_counted` says what holds when each write finds the count that was read.
-/

namespace RwServer

open Transition

/-- What failed attempts change of an account. -/
structure LoginCounter where
  failedLoginAttempts : ℕ
  lockedUntil : Option Time
deriving DecidableEq, Repr

/-- What else an attempt looks at: of a user, and of an employee the version, where there is one,
with its PIN. -/
inductive LoginProfile (Hash : Type*)
  | user (status : UserStatus) (passwordHash : Option Hash)
  | employee (pinHash : Option (Option Hash))

def LoginProfile.secretHash {Hash : Type*} : LoginProfile Hash → Option Hash
  | .user _ passwordHash => passwordHash
  | .employee pinHash => pinHash.join

structure LockoutConfig where
  maxAttempts : ℕ
  lockoutMs : ℤ
deriving DecidableEq, Repr

inductive LoginResult
  | success
  /-- The secret has not been compared. -/
  | refused (error : String)
  /-- The secret was wrong, and the failure is stored. -/
  | failed (error : String)
deriving DecidableEq, Repr

/-- Which statement of an attempt comes next. -/
inductive LoginPhase
  | start
  | readingVersion
  /-- The secret is compared; a user's count has been read before. -/
  | comparing (attempts : Option ℕ)
  /-- `handleFailedAttempt` reads the count. -/
  | counting
  | writing (attempts : ℕ) (lockedUntil : Option Time)
  | resetting
  | finished (result : LoginResult)
deriving DecidableEq, Repr

/-! ## An attempt, statement by statement -/

/-- `Math.ceil(ms / 60000)`. -/
def minutesOf (ms : ℤ) : ℤ := ⌈(ms : ℚ) / 60000⌉

def inMinutes (minutes : ℤ) : String :=
  toString minutes ++ " minute" ++ if minutes = 1 then "" else "s"

/-- How long the account is locked, where it is. -/
def lockedFor (account : LoginCounter) (now : Time) : Option ℤ :=
  (account.lockedUntil.filter fun until_ ↦ decide (now < until_)).map fun until_ ↦
    minutesOf (until_ - now)

variable {Secret Hash : Type*}

/-- The checks of `login`, when the user has been read. -/
def afterReadLogin (account : LoginCounter) (now : Time) (status : UserStatus)
    (passwordHash : Option Hash) : LoginPhase :=
  match lockedFor account now with
  | some minutes => .finished (.refused
      ("Account is temporarily locked. Try again in " ++ inMinutes minutes ++ "."))
  | none =>
    match status, passwordHash with
    | .DISABLED, _ => .finished (.refused "Account is disabled")
    | .PENDING, _ | .ACTIVE, none =>
      .finished (.refused "Please complete your registration first")
    | .ACTIVE, some _ => .comparing (some account.failedLoginAttempts)

/-- The checks of `authenticatePin`, when the employee has been read. -/
def afterReadEmployee (account : LoginCounter) (now : Time) (version : Option (Option Hash)) :
    LoginPhase :=
  match lockedFor account now with
  | some minutes =>
    .finished (.refused ("Account locked. Try again in " ++ inMinutes minutes ++ "."))
  | none =>
    match version with
    | none => .finished (.refused "Employee profile is incomplete")
    | some _ => .readingVersion

/-- What is written after a failure that comes after `attempts` others. -/
def failurePhase (config : LockoutConfig) (now : Time) (attempts : ℕ) : LoginPhase :=
  .writing (attempts + 1)
    (if config.maxAttempts ≤ attempts + 1 then some (now + config.lockoutMs) else none)

def failureError (profile : LoginProfile Hash) (config : LockoutConfig)
    (lockedUntil : Option Time) : String :=
  match profile with
  | .user _ _ =>
    if lockedUntil.isSome then "Too many failed attempts. Account locked for " ++
      toString (minutesOf config.lockoutMs) ++ " minutes."
    else "Invalid email or password"
  | .employee _ => "Invalid PIN"

/-- The next statement of an attempt with the secret `secrets i`. -/
def loginAttempt {ι : Type*} (comparePassword : Secret → Hash → Bool) (config : LockoutConfig)
    (profile : LoginProfile Hash) (secrets : ι → Secret) (i : ι) (now : Time)
    (account : LoginCounter) : LoginPhase → Option (LoginCounter × LoginPhase)
  | .start =>
    match profile with
    | .user status passwordHash => some (account, afterReadLogin account now status passwordHash)
    | .employee version => some (account, afterReadEmployee account now version)
  | .readingVersion =>
    match profile.secretHash with
    | none => some (account, .finished (.refused "PIN not configured for this employee"))
    | some _ => some (account, .comparing none)
  | .comparing attempts =>
    profile.secretHash.map fun hash ↦
      if comparePassword (secrets i) hash then (account, .resetting)
      else match attempts with
      | some attempts => (account, failurePhase config now attempts)
      | none => (account, .counting)
  | .counting => some (account, failurePhase config now account.failedLoginAttempts)
  | .writing attempts lockedUntil =>
    some (⟨attempts, lockedUntil⟩, .finished (.failed (failureError profile config lockedUntil)))
  | .resetting => some (⟨0, none⟩, .finished .success)
  | .finished _ => none

abbrev LoginCalls (ι : Type*) := Calls ι LoginCounter LoginPhase

/-- Before any of the attempts. -/
def loginsStart {ι : Type*} (account : LoginCounter) : LoginCalls ι := ⟨account, fun _ ↦ .start⟩

/-! ## What a statement does -/

/-- The failure has been stored. -/
def LoginPhase.isCounted : LoginPhase → Bool
  | .finished (.failed _) => true
  | _ => false

/-- The phases that lead to a reset of the count, which need the right secret. -/
def LoginPhase.isResetting : LoginPhase → Bool
  | .resetting | .finished .success => true
  | _ => false

/-- In the phase of a write, the lock that goes with the count. -/
def LoginPhase.LocksAtMax (config : LockoutConfig) : LoginPhase → Prop
  | .writing attempts lockedUntil => lockedUntil.isSome = true ↔ config.maxAttempts ≤ attempts
  | _ => True

theorem locksAtMax_failurePhase (config : LockoutConfig) (now : Time) (attempts : ℕ) :
    (failurePhase config now attempts).LocksAtMax config := by
  change (if config.maxAttempts ≤ attempts + 1 then some (now + config.lockoutMs) else none).isSome
    = true ↔ config.maxAttempts ≤ attempts + 1
  split
  · exact iff_of_true rfl ‹_›
  · exact iff_of_false Bool.false_ne_true ‹_›

/-- A phase in which nothing is written: a read, a refusal or a comparison. -/
def LoginPhase.IsQuiet : LoginPhase → Prop
  | .readingVersion | .comparing _ | .counting | .finished (.refused _) => True
  | _ => False

theorem LoginPhase.IsQuiet.facts {phase : LoginPhase} (h : phase.IsQuiet) (config : LockoutConfig) :
    phase.isCounted = false ∧ phase.isResetting = false ∧ phase.LocksAtMax config := by
  unfold IsQuiet at h
  split at h
  · exact ⟨rfl, rfl, trivial⟩
  · exact ⟨rfl, rfl, trivial⟩
  · exact ⟨rfl, rfl, trivial⟩
  · exact ⟨rfl, rfl, trivial⟩
  · exact absurd h id

theorem isQuiet_afterReadLogin (account : LoginCounter) (now : Time) (status : UserStatus)
    (passwordHash : Option Hash) : (afterReadLogin account now status passwordHash).IsQuiet := by
  unfold afterReadLogin
  split
  · trivial
  · split <;> trivial

theorem isQuiet_afterReadEmployee (account : LoginCounter) (now : Time)
    (version : Option (Option Hash)) : (afterReadEmployee account now version).IsQuiet := by
  unfold afterReadEmployee
  split
  · trivial
  · split <;> trivial

section

variable {ι : Type*}

/-- **What a statement of an attempt with a wrong secret can do.** Before the write it changes
nothing; the write stores the count and the lock. -/
theorem loginAttempt_cases {comparePassword : Secret → Hash → Bool} {config : LockoutConfig}
    {profile : LoginProfile Hash} {secrets : ι → Secret} {i : ι} {now : Time}
    {account account' : LoginCounter} {phase phase' : LoginPhase}
    (hwrong : ∀ hash ∈ profile.secretHash, comparePassword (secrets i) hash = false)
    (hnot : phase.isResetting = false)
    (h : loginAttempt comparePassword config profile secrets i now account phase =
      some (account', phase')) :
    (account' = account ∧ phase.isCounted = false ∧ phase'.isCounted = false ∧
        phase'.isResetting = false ∧ phase'.LocksAtMax config) ∨
      ∃ attempts lockedUntil, phase = .writing attempts lockedUntil ∧
        account' = ⟨attempts, lockedUntil⟩ ∧ phase'.isCounted = true ∧
        phase'.isResetting = false ∧ phase'.LocksAtMax config := by
  cases phase with
  | start =>
    rcases profile with ⟨status, passwordHash⟩ | ⟨version⟩
    · cases h
      exact .inl ⟨rfl, rfl, (isQuiet_afterReadLogin ..).facts config⟩
    · cases h
      exact .inl ⟨rfl, rfl, (isQuiet_afterReadEmployee ..).facts config⟩
  | readingVersion =>
    rcases hhash : profile.secretHash with - | hash
    · simp only [loginAttempt, hhash] at h
      cases h
      exact .inl ⟨rfl, rfl, rfl, rfl, trivial⟩
    · simp only [loginAttempt, hhash] at h
      cases h
      exact .inl ⟨rfl, rfl, rfl, rfl, trivial⟩
  | comparing attempts =>
    obtain ⟨hash, hhash, heq⟩ := Option.map_eq_some_iff.mp h
    rw [if_neg (by rw [hwrong hash hhash]; exact Bool.false_ne_true)] at heq
    split at heq
    · cases heq
      exact .inl ⟨rfl, rfl, rfl, rfl, locksAtMax_failurePhase ..⟩
    · cases heq
      exact .inl ⟨rfl, rfl, rfl, rfl, trivial⟩
  | counting =>
    cases h
    exact .inl ⟨rfl, rfl, rfl, rfl, locksAtMax_failurePhase ..⟩
  | writing attempts lockedUntil =>
    cases h
    exact .inr ⟨attempts, lockedUntil, rfl, rfl, rfl, rfl, trivial⟩
  | resetting => cases hnot
  | finished result => cases h

/-! ## Attempts that are all counted -/

/-- In the phase of a write, that the count is still the one that was read. -/
def LoginPhase.CountsFrom (account : LoginCounter) : LoginPhase → Prop
  | .writing attempts _ => attempts = account.failedLoginAttempts + 1
  | _ => True

instance LoginPhase.decidableCountsFrom (account : LoginCounter) :
    ∀ phase : LoginPhase, Decidable (phase.CountsFrom account)
  | .writing attempts _ => inferInstanceAs (Decidable (attempts = account.failedLoginAttempts + 1))
  | .start | .readingVersion | .comparing _ | .counting | .resetting | .finished _ => isTrue trivial

/-- The condition on a step: a write finds the count that was read. -/
def FindsCount (s : LoginCalls ι) (a : ι × Time) : Prop := (s.phase a.1).CountsFrom s.store

instance decidableFindsCount (s : LoginCalls ι) (a : ι × Time) : Decidable (FindsCount s a) :=
  inferInstanceAs (Decidable ((s.phase a.1).CountsFrom s.store))

variable [Fintype ι] [DecidableEq ι]

/-- How many failures have been stored. -/
def failures (phase : ι → LoginPhase) : ℕ :=
  (Finset.univ.filter fun i ↦ (phase i).isCounted = true).card

theorem failures_update_of_not {phase : ι → LoginPhase} {i : ι} {new : LoginPhase}
    (hold : (phase i).isCounted = false) (hnew : new.isCounted = false) :
    failures (Function.update phase i new) = failures phase := by
  refine congrArg Finset.card (Finset.filter_congr fun j _ ↦ ?_)
  by_cases hj : j = i
  · subst hj
    rw [Function.update_self, hold, hnew]
  · rw [Function.update_of_ne hj]

theorem failures_update {phase : ι → LoginPhase} {i : ι} {new : LoginPhase}
    (hold : (phase i).isCounted = false) (hnew : new.isCounted = true) :
    failures (Function.update phase i new) = failures phase + 1 := by
  have hinsert : (Finset.univ.filter fun j ↦ (Function.update phase i new j).isCounted = true) =
      insert i (Finset.univ.filter fun j ↦ (phase j).isCounted = true) := by
    ext j
    by_cases hj : j = i
    · subst hj
      simp [hnew]
    · simp [hj]
  rw [failures, hinsert, Finset.card_insert_of_notMem (by simp [hold]), failures]

/-- What holds while all attempts fail and each write finds the count that was read. -/
structure AttemptsCounted (config : LockoutConfig) (account : LoginCounter) (s : LoginCalls ι) :
    Prop where
  attempts_eq : s.store.failedLoginAttempts = account.failedLoginAttempts + failures s.phase
  locks : 0 < failures s.phase →
    (s.store.lockedUntil.isSome = true ↔ config.maxAttempts ≤ s.store.failedLoginAttempts)
  phases : ∀ i, (s.phase i).isResetting = false ∧ (s.phase i).LocksAtMax config

/-- **One step counts**, and takes no failure away. -/
theorem AttemptsCounted.step {comparePassword : Secret → Hash → Bool} {config : LockoutConfig}
    {profile : LoginProfile Hash} {secrets : ι → Secret} {account : LoginCounter}
    {s s' : LoginCalls ι} {a : ι × Time}
    (hwrong : ∀ i, ∀ hash ∈ profile.secretHash, comparePassword (secrets i) hash = false)
    (h : AttemptsCounted config account s) (hok : FindsCount s a)
    (hstep : Calls.step (loginAttempt comparePassword config profile secrets) a s = some s') :
    AttemptsCounted config account s' ∧ failures s.phase ≤ failures s'.phase := by
  obtain ⟨store, phase, hstatement, rfl⟩ := Calls.step_eq_some_iff.mp hstep
  obtain ⟨i, now⟩ := a
  have hphases : phase.isResetting = false → phase.LocksAtMax config → ∀ j,
      (Function.update s.phase i phase j).isResetting = false ∧
        (Function.update s.phase i phase j).LocksAtMax config := by
    intro hnot hlocks j
    by_cases hj : j = i
    · subst hj
      rw [Function.update_self]
      exact ⟨hnot, hlocks⟩
    · rw [Function.update_of_ne hj]
      exact h.phases j
  rcases loginAttempt_cases (hwrong i) (h.phases i).1 hstatement with
    ⟨rfl, hold, hnew, hnot, hlocks⟩ | ⟨attempts, lockedUntil, hwriting, rfl, hnew, hnot, hlocks⟩
  · have hfailures := failures_update_of_not hold hnew
    exact ⟨⟨by rw [h.attempts_eq]; exact congrArg _ hfailures.symm,
      fun hpos ↦ h.locks (hfailures ▸ hpos), hphases hnot hlocks⟩, hfailures.ge⟩
  · obtain ⟨hold, hcount, hlock⟩ : (s.phase i).isCounted = false ∧
        attempts = s.store.failedLoginAttempts + 1 ∧
        (lockedUntil.isSome = true ↔ config.maxAttempts ≤ attempts) := by
      have hlocks := (h.phases i).2
      rw [FindsCount] at hok
      dsimp only at hok hwriting
      rw [hwriting] at hok hlocks ⊢
      exact ⟨rfl, hok, hlocks⟩
    have hfailures : failures (Function.update s.phase i phase) = failures s.phase + 1 :=
      failures_update hold hnew
    refine ⟨⟨?_, fun _ ↦ hlock, hphases hnot hlocks⟩, ?_⟩
    · change attempts = account.failedLoginAttempts + failures (Function.update s.phase i phase)
      rw [hfailures, hcount, h.attempts_eq, add_assoc]
    · exact hfailures ▸ Nat.le_succ _

theorem counted_of_run {comparePassword : Secret → Hash → Bool} {config : LockoutConfig}
    {profile : LoginProfile Hash} {secrets : ι → Secret} {account : LoginCounter}
    {steps : List (ι × Time)} {s s' : LoginCalls ι}
    (hwrong : ∀ i, ∀ hash ∈ profile.secretHash, comparePassword (secrets i) hash = false)
    (h : AttemptsCounted config account s)
    (hrun : Run (Calls.step (loginAttempt comparePassword config profile secrets)) FindsCount s
      steps s') : AttemptsCounted config account s' ∧ failures s.phase ≤ failures s'.phase := by
  induction hrun with
  | nil => exact ⟨h, le_rfl⟩
  | snoc _ hok hstep ih =>
    obtain ⟨hcounted, hle⟩ := ih.1.step hwrong hok hstep
    exact ⟨hcounted, ih.2.trans hle⟩

/-- **Every failure is counted**, and an account that has reached the maximum is locked and stays
so, in every interleaving of attempts with wrong secrets in which each write finds the count that
was read. -/
theorem failures_are_counted {comparePassword : Secret → Hash → Bool} {config : LockoutConfig}
    {profile : LoginProfile Hash} {secrets : ι → Secret} {account : LoginCounter}
    {steps later : List (ι × Time)} {s s' : LoginCalls ι}
    (hwrong : ∀ i, ∀ hash ∈ profile.secretHash, comparePassword (secrets i) hash = false)
    (hrun : Run (Calls.step (loginAttempt comparePassword config profile secrets)) FindsCount
      (loginsStart account) steps s)
    (hlater : Run (Calls.step (loginAttempt comparePassword config profile secrets)) FindsCount s
      later s') :
    s.store.failedLoginAttempts = account.failedLoginAttempts + failures s.phase ∧
      (0 < failures s.phase → config.maxAttempts ≤ s.store.failedLoginAttempts →
        s.store.lockedUntil.isSome = true ∧ s'.store.lockedUntil.isSome = true) := by
  have hstart : AttemptsCounted config account (loginsStart account : LoginCalls ι) := by
    have hzero : failures (loginsStart account : LoginCalls ι).phase = 0 :=
      Finset.card_eq_zero.mpr (Finset.filter_eq_empty_iff.mpr fun _ _ ↦ Bool.false_ne_true)
    exact ⟨by rw [hzero]; rfl, fun hpos ↦ absurd hpos (by rw [hzero]; exact lt_irrefl 0),
      fun _ ↦ ⟨rfl, trivial⟩⟩
  obtain ⟨hcounted, -⟩ := counted_of_run hwrong hstart hrun
  obtain ⟨hcounted', hle⟩ := counted_of_run hwrong hcounted hlater
  refine ⟨hcounted.attempts_eq, fun hpos hmax ↦ ⟨(hcounted.locks hpos).mpr hmax,
    (hcounted'.locks (hpos.trans_le hle)).mpr ?_⟩⟩
  rw [hcounted'.attempts_eq]
  rw [hcounted.attempts_eq] at hmax
  omega

end

/-! ## Three guesses at once -/

/-- An active user, and three guesses at the password. -/
def guessedUser : LoginProfile ℕ := .user .ACTIVE (some 42)

def guesses : Fin 3 → ℕ := fun i ↦ i

def fiveAttempts : LockoutConfig := ⟨5, 15 * 60 * 1000⟩

theorem guesses_wrong : ∀ i, ∀ hash ∈ guessedUser.secretHash,
    (fun secret hash : ℕ ↦ secret == hash) (guesses i) hash = false := by decide

/-- One guess after the other: the second one is the fifth failure and locks the account, and the
third is refused. -/
theorem failures_are_counted_locked : ∃ s : LoginCalls (Fin 3),
    (s.store = ⟨5, some 900005⟩ ∧ failures s.phase = 2 ∧ s.phase 2 = .finished (.refused
      "Account is temporarily locked. Try again in 15 minutes.")) ∧
      s.store.failedLoginAttempts = 3 + failures s.phase ∧
      (0 < failures s.phase → fiveAttempts.maxAttempts ≤ s.store.failedLoginAttempts →
        s.store.lockedUntil.isSome = true ∧ s.store.lockedUntil.isSome = true) := by
  have hexecute : (execute (Calls.step (loginAttempt (fun secret hash : ℕ ↦ secret == hash)
      fiveAttempts guessedUser guesses)) FindsCount [(0, 0), (0, 1), (0, 2), (1, 4), (1, 5), (1, 6),
        (2, 7)] (loginsStart ⟨3, none⟩)).any (fun s ↦ decide (s.store = ⟨5, some 900005⟩ ∧
          failures s.phase = 2 ∧ s.phase 2 = .finished (.refused
            "Account is temporarily locked. Try again in 15 minutes."))) = true := by
    decide +kernel
  obtain ⟨s, hs, hfacts⟩ := (Option.any_eq_true _ _).mp hexecute
  exact ⟨s, of_decide_eq_true hfacts,
    failures_are_counted guesses_wrong (run_of_execute hs) .nil⟩

/-- **A guess clears the lock.** The first guess has read the count of three when the others fail
and lock the account; then it writes a count of four and no lock. -/
theorem not_failures_are_counted : ∃ s s' : LoginCalls (Fin 3),
    Run (Calls.step (loginAttempt (fun secret hash : ℕ ↦ secret == hash) fiveAttempts guessedUser
        guesses)) (fun _ _ ↦ True) (loginsStart ⟨3, none⟩)
        [(0, 0), (1, 1), (1, 2), (1, 3), (2, 4), (2, 5), (2, 6)] s ∧
      Run (Calls.step (loginAttempt (fun secret hash : ℕ ↦ secret == hash) fiveAttempts guessedUser
        guesses)) (fun _ _ ↦ True) s [(0, 7), (0, 8)] s' ∧
      s.store = ⟨5, some 900005⟩ ∧ failures s'.phase = 3 ∧ s'.store = ⟨4, none⟩ := by
  have hexecute : (execute (Calls.step (loginAttempt (fun secret hash : ℕ ↦ secret == hash)
      fiveAttempts guessedUser guesses)) (fun _ _ ↦ True)
      [(0, 0), (1, 1), (1, 2), (1, 3), (2, 4), (2, 5), (2, 6)] (loginsStart ⟨3, none⟩)).any
      (fun s ↦ decide (s.store = ⟨5, some 900005⟩ ∧
        (execute (Calls.step (loginAttempt (fun secret hash : ℕ ↦ secret == hash) fiveAttempts
          guessedUser guesses)) (fun _ _ ↦ True) [(0, 7), (0, 8)] s).any (fun s' ↦
            decide (failures s'.phase = 3 ∧ s'.store = ⟨4, none⟩)) = true)) = true := by
    decide +kernel
  obtain ⟨s, hs, hfacts⟩ := (Option.any_eq_true _ _).mp hexecute
  obtain ⟨hlocked, hlater⟩ := of_decide_eq_true hfacts
  obtain ⟨s', hs', hfacts'⟩ := (Option.any_eq_true _ _).mp hlater
  exact ⟨s, s', run_of_execute hs, run_of_execute hs', hlocked, of_decide_eq_true hfacts'⟩

end RwServer
