import Mathlib
import RwServer.Foundation.Run
import RwServer.Processor.StationEvents

/-!
# Refreshing the station events

`refresh` coalesces its callers. The first one starts a loop and shares the promise of it; whoever
comes while `refreshPromise` is set raises `refreshQueued` and awaits the same promise, and the loop
goes round once more when it finds the flag raised. The exit of the loop is no single step: after
the flag has been read for the last time the promise has still to settle, and the caller that has
started the loop has still to clear `refreshPromise`. A caller that comes in between raises a flag
that nobody will read.

Requests are numbered in the order they are issued, so that a snapshot is known by its request, and
a call by how many requests had been issued before it. `no_refresh_lost` says that a call that
resolves finds a snapshot of a later request, in every run in which no call comes in that gap.
-/

namespace RwServer

open Transition

/-- How a promise settles. -/
inductive Outcome
  | fulfilled | rejected
deriving DecidableEq, Repr

/-- Where the loop behind a promise stands. -/
inductive LoopPhase
  /-- It awaits the response to a request. -/
  | fetching (request : ℕ)
  /-- The response is installed, and `refreshQueued` has still to be read. -/
  | swapped
  /-- The loop is left, because `refreshQueued` was not set or the request has failed. -/
  | left (outcome : Outcome)
  /-- The promise has settled. -/
  | settled (outcome : Outcome)
deriving DecidableEq, Repr

/-- A call that awaits a promise, made when so many requests had been issued. -/
structure RefreshCall where
  promise : ℕ
  madeAt : ℕ
deriving DecidableEq, Repr

/-- A call that has resolved successfully: when it was made, and the request of the snapshot that
was installed when it resolved. -/
structure ResolvedCall where
  madeAt : ℕ
  installed : ℕ
deriving DecidableEq, Repr

/-- The cache of the station events, its callers and the promises. `refreshPromise` holds the
promise together with the call that has started it, which awaits it and then clears the field. -/
structure RefreshState where
  snapshot : CompiledStationEventSnapshot
  /-- The request that the snapshot is the response to. -/
  installed : ℕ
  /-- How many requests have been issued. -/
  requests : ℕ
  refreshPromise : Option RefreshCall
  refreshQueued : Bool
  /-- The loop behind each promise. -/
  phase : ℕ → LoopPhase
  nextPromise : ℕ
  /-- The calls that await a promise they have not started. -/
  joined : List RefreshCall
  resolved : List ResolvedCall

inductive RefreshStep
  | call
  | respond (events : List StationEventDefinition)
  | fail
  | readQueued
  | settle
  | resumeLeader
  | resumeJoined (i : ℕ)

namespace RefreshState

/-- After `loadInitialSnapshot`. -/
def start (events : List StationEventDefinition) : RefreshState where
  snapshot := compileStationEvents events
  installed := 1
  requests := 1
  refreshPromise := none
  refreshQueued := false
  phase _ := .settled .fulfilled
  nextPromise := 0
  joined := []
  resolved := []

/-- A refresh is called: it joins the one that is running, or starts one, whose loop issues its
request at once. -/
def call (s : RefreshState) : RefreshState :=
  match s.refreshPromise with
  | some running =>
    { s with
      refreshQueued := true
      joined := s.joined ++ [⟨running.promise, s.requests⟩] }
  | none =>
    { s with
      refreshPromise := some ⟨s.nextPromise, s.requests⟩
      refreshQueued := false
      requests := s.requests + 1
      phase := Function.update s.phase s.nextPromise (.fetching (s.requests + 1))
      nextPromise := s.nextPromise + 1 }

/-- The loop of the running refresh goes from one phase to the next. -/
def setPhase (s : RefreshState) (running : RefreshCall) (phase : LoopPhase) : RefreshState :=
  { s with phase := Function.update s.phase running.promise phase }

/-- A call whose promise has settled goes on: it resolves, or it fails. -/
def resume (s : RefreshState) (c : RefreshCall) (outcome : Outcome) : RefreshState :=
  match outcome with
  | .fulfilled => { s with resolved := s.resolved ++ [⟨c.madeAt, s.installed⟩] }
  | .rejected => s

end RefreshState

open RefreshState in
def refreshStep : RefreshStep → RefreshState → Option RefreshState
  | .call, s => some s.call
  | .respond events, s =>
    s.refreshPromise.bind fun running ↦
      match s.phase running.promise with
      | .fetching request =>
        some { s.setPhase running .swapped with
          snapshot := compileStationEvents events
          installed := request }
      | _ => none
  | .fail, s =>
    s.refreshPromise.bind fun running ↦
      match s.phase running.promise with
      | .fetching _ => some (s.setPhase running (.left .rejected))
      | _ => none
  | .readQueued, s =>
    s.refreshPromise.bind fun running ↦
      match s.phase running.promise with
      | .swapped =>
        if s.refreshQueued then
          some { s.setPhase running (.fetching (s.requests + 1)) with
            refreshQueued := false
            requests := s.requests + 1 }
        else some (s.setPhase running (.left .fulfilled))
      | _ => none
  | .settle, s =>
    s.refreshPromise.bind fun running ↦
      match s.phase running.promise with
      | .left outcome => some (s.setPhase running (.settled outcome))
      | _ => none
  | .resumeLeader, s =>
    s.refreshPromise.bind fun running ↦
      match s.phase running.promise with
      | .settled outcome => some { s.resume running outcome with refreshPromise := none }
      | _ => none
  | .resumeJoined i, s =>
    s.joined[i]?.bind fun c ↦
      match s.phase c.promise with
      | .settled outcome => some { s.resume c outcome with joined := s.joined.eraseIdx i }
      | _ => none

/-! ## What a step does -/

section

variable {s s' : RefreshState}

/-- What each step but a call needs and does. -/
theorem refreshStep_cases {step : RefreshStep} (h : refreshStep step s = some s') :
    (step = .call ∧ s' = s.call) ∨
    (∃ running events request, step = .respond events ∧ s.refreshPromise = some running ∧
      s.phase running.promise = .fetching request ∧
      s' = { s.setPhase running .swapped with
        snapshot := compileStationEvents events
        installed := request }) ∨
    (∃ running request, step = .fail ∧ s.refreshPromise = some running ∧
      s.phase running.promise = .fetching request ∧ s' = s.setPhase running (.left .rejected)) ∨
    (∃ running, step = .readQueued ∧ s.refreshPromise = some running ∧
      s.phase running.promise = .swapped ∧ s.refreshQueued = true ∧
      s' = { s.setPhase running (.fetching (s.requests + 1)) with
        refreshQueued := false
        requests := s.requests + 1 }) ∨
    (∃ running, step = .readQueued ∧ s.refreshPromise = some running ∧
      s.phase running.promise = .swapped ∧ s.refreshQueued = false ∧
      s' = s.setPhase running (.left .fulfilled)) ∨
    (∃ running outcome, step = .settle ∧ s.refreshPromise = some running ∧
      s.phase running.promise = .left outcome ∧ s' = s.setPhase running (.settled outcome)) ∨
    (∃ running outcome, step = .resumeLeader ∧ s.refreshPromise = some running ∧
      s.phase running.promise = .settled outcome ∧
      s' = { s.resume running outcome with refreshPromise := none }) ∨
    (∃ i c outcome, step = .resumeJoined i ∧ c ∈ s.joined ∧
      s.phase c.promise = .settled outcome ∧
      s' = { s.resume c outcome with joined := s.joined.eraseIdx i }) := by
  cases step with
  | call =>
    simp only [refreshStep, Option.some.injEq] at h
    exact Or.inl ⟨rfl, h.symm⟩
  | respond events =>
    obtain ⟨running, hrunning, h⟩ := Option.bind_eq_some_iff.mp h
    split at h <;> cases h
    exact Or.inr (Or.inl ⟨running, events, _, rfl, hrunning, ‹_›, rfl⟩)
  | fail =>
    obtain ⟨running, hrunning, h⟩ := Option.bind_eq_some_iff.mp h
    split at h <;> cases h
    exact Or.inr (Or.inr (Or.inl ⟨running, _, rfl, hrunning, ‹_›, rfl⟩))
  | readQueued =>
    obtain ⟨running, hrunning, h⟩ := Option.bind_eq_some_iff.mp h
    split at h
    · rename_i hphase
      split at h <;> rename_i hqueued <;> cases h
      · exact Or.inr (Or.inr (Or.inr (Or.inl ⟨running, rfl, hrunning, hphase, hqueued, rfl⟩)))
      · exact Or.inr (Or.inr (Or.inr (Or.inr (Or.inl
          ⟨running, rfl, hrunning, hphase, Bool.eq_false_iff.mpr hqueued, rfl⟩))))
    · cases h
  | settle =>
    obtain ⟨running, hrunning, h⟩ := Option.bind_eq_some_iff.mp h
    split at h <;> cases h
    exact Or.inr (Or.inr (Or.inr (Or.inr (Or.inr (Or.inl ⟨running, _, rfl, hrunning, ‹_›, rfl⟩)))))
  | resumeLeader =>
    obtain ⟨running, hrunning, h⟩ := Option.bind_eq_some_iff.mp h
    split at h <;> cases h
    exact Or.inr (Or.inr (Or.inr (Or.inr (Or.inr (Or.inr (Or.inl
      ⟨running, _, rfl, hrunning, ‹_›, rfl⟩))))))
  | resumeJoined i =>
    obtain ⟨c, hc, h⟩ := Option.bind_eq_some_iff.mp h
    split at h <;> cases h
    exact Or.inr (Or.inr (Or.inr (Or.inr (Or.inr (Or.inr (Or.inr
      ⟨i, c, _, rfl, List.mem_of_getElem? hc, ‹_›, rfl⟩))))))

/-! ## The invariant -/

/-- What a waiting call can count on: a request later than itself is on its way or installed, or
the flag is up that the loop has still to read. -/
def Covered (s : RefreshState) (c : RefreshCall) : Prop :=
  match s.phase c.promise with
  | .fetching request => c.madeAt < request ∨ s.refreshQueued = true
  | .swapped => c.madeAt < s.installed ∨ s.refreshQueued = true
  | .left .fulfilled | .settled .fulfilled => c.madeAt < s.installed
  | .left .rejected | .settled .rejected => True

/-- The invariant of a refresh and its callers. -/
structure RefreshInv (s : RefreshState) : Prop where
  installed_le : s.installed ≤ s.requests
  request_eq : ∀ running request, s.refreshPromise = some running →
    s.phase running.promise = .fetching request → request = s.requests
  leader : ∀ running, s.refreshPromise = some running →
    running.promise < s.nextPromise ∧ running.madeAt ≤ s.requests ∧ Covered s running
  joined : ∀ c ∈ s.joined, c.promise < s.nextPromise ∧ c.madeAt ≤ s.requests ∧ Covered s c
  /-- Only the promise that is shared has still to settle. -/
  others : ∀ c ∈ s.joined, (∀ running, s.refreshPromise = some running →
    running.promise ≠ c.promise) → ∃ outcome, s.phase c.promise = .settled outcome
  resolved : ∀ r ∈ s.resolved, r.madeAt < r.installed

theorem covered_settled_iff {c : RefreshCall} {outcome : Outcome}
    (hphase : s.phase c.promise = .settled outcome) :
    Covered s c ↔ (outcome = .fulfilled → c.madeAt < s.installed) := by
  cases outcome <;> simp [Covered, hphase]

/-- The loop of the running refresh goes on: what the calls of its promise can count on has to be
looked at, and nothing else. -/
theorem RefreshInv.advance (hs : RefreshInv s) {running : RefreshCall} {phase : LoopPhase}
    (hrunning : s.refreshPromise = some running)
    (hphase : s'.phase = Function.update s.phase running.promise phase)
    (hsame : s'.refreshPromise = s.refreshPromise ∧ s'.joined = s.joined ∧
      s'.resolved = s.resolved ∧ s'.nextPromise = s.nextPromise)
    (hinstalled : s.installed ≤ s'.installed) (hrequests : s.requests ≤ s'.requests)
    (hle : s'.installed ≤ s'.requests)
    (hfetching : ∀ request, phase = .fetching request → request = s'.requests)
    (hcovered : ∀ c : RefreshCall, c.promise = running.promise → c.madeAt ≤ s.requests →
      Covered s c → Covered s' c) : RefreshInv s' := by
  obtain ⟨hpromise, hjoined, hresolved, hnext⟩ := hsame
  have hself : s'.phase running.promise = phase := by rw [hphase, Function.update_self]
  have hother : ∀ c : RefreshCall, running.promise ≠ c.promise →
      s'.phase c.promise = s.phase c.promise := fun c hne ↦ by
    rw [hphase, Function.update_of_ne hne.symm]
  constructor
  · exact hle
  · intro r request hr hrequest
    obtain rfl := Option.some.inj (hrunning.symm.trans (hpromise ▸ hr))
    exact hfetching request (hself.symm.trans hrequest)
  · intro r hr
    obtain rfl := Option.some.inj (hrunning.symm.trans (hpromise ▸ hr))
    obtain ⟨hlt, hmade, hcov⟩ := hs.leader _ hrunning
    exact ⟨hnext ▸ hlt, hmade.trans hrequests, hcovered _ rfl hmade hcov⟩
  · intro c hc
    obtain ⟨hlt, hmade, hcov⟩ := hs.joined c (hjoined ▸ hc)
    refine ⟨hnext ▸ hlt, hmade.trans hrequests, ?_⟩
    by_cases hne : running.promise = c.promise
    · exact hcovered c hne.symm hmade hcov
    · -- a call of an earlier promise keeps what it has
      obtain ⟨outcome, hsettled⟩ := hs.others c (hjoined ▸ hc) fun r hr ↦ by
        obtain rfl := Option.some.inj (hrunning.symm.trans hr)
        exact hne
      have hsettled' : s'.phase c.promise = .settled outcome := (hother c hne).trans hsettled
      exact (covered_settled_iff hsettled').mpr fun h ↦
        ((covered_settled_iff hsettled).mp hcov h).trans_le hinstalled
  · intro c hc hne
    have hne' := hne running (hpromise ▸ hrunning)
    rw [hother c hne']
    exact hs.others c (hjoined ▸ hc) fun r hr ↦ by
      obtain rfl := Option.some.inj (hrunning.symm.trans hr)
      exact hne'
  · rw [hresolved]
    exact hs.resolved

/-- The condition on a call: it does not come after the loop of the running refresh has read
`refreshQueued` for the last time, unless that refresh has failed. -/
def RefreshStep.InTime (s : RefreshState) : RefreshStep → Prop
  | .call => ∀ running ∈ s.refreshPromise,
      s.phase running.promise ≠ .left .fulfilled ∧ s.phase running.promise ≠ .settled .fulfilled
  | _ => True

instance instDecidableInTime (s : RefreshState) (step : RefreshStep) :
    Decidable (step.InTime s) :=
  match step with
  | .call => inferInstanceAs (Decidable (∀ running ∈ s.refreshPromise,
      s.phase running.promise ≠ .left .fulfilled ∧ s.phase running.promise ≠ .settled .fulfilled))
  | .respond _ => isTrue trivial
  | .fail => isTrue trivial
  | .readQueued => isTrue trivial
  | .settle => isTrue trivial
  | .resumeLeader => isTrue trivial
  | .resumeJoined _ => isTrue trivial

/-- A call that joins in time raises a flag that will be read. -/
theorem RefreshInv.call_joins (hs : RefreshInv s) {running : RefreshCall}
    (hrunning : s.refreshPromise = some running) (hok : RefreshStep.call.InTime s) :
    RefreshInv s.call := by
  have hcall : s.call = { s with
      refreshQueued := true
      joined := s.joined ++ [⟨running.promise, s.requests⟩] } := by
    simp [RefreshState.call, hrunning]
  have hcovered : ∀ c, Covered s c → Covered s.call c := by
    intro c hc
    rw [hcall]
    unfold Covered at hc ⊢
    split at hc <;> simp_all
  have hnew : Covered s.call ⟨running.promise, s.requests⟩ := by
    obtain ⟨hleft, hsettled⟩ := hok running hrunning
    rw [hcall]
    unfold Covered
    split <;> simp_all
  rw [hcall] at hcovered hnew ⊢
  constructor
  · exact hs.installed_le
  · exact hs.request_eq
  · intro r hr
    obtain ⟨hlt, hmade, hcov⟩ := hs.leader r hr
    exact ⟨hlt, hmade, hcovered r hcov⟩
  · intro c hc
    rcases List.mem_append.mp hc with hin | hin
    · obtain ⟨hlt, hmade, hcov⟩ := hs.joined c hin
      exact ⟨hlt, hmade, hcovered c hcov⟩
    · obtain rfl := List.mem_singleton.mp hin
      exact ⟨(hs.leader running hrunning).1, le_rfl, hnew⟩
  · intro c hc hne
    rcases List.mem_append.mp hc with hin | hin
    · exact hs.others c hin hne
    · obtain rfl := List.mem_singleton.mp hin
      exact absurd rfl (hne running hrunning)
  · exact hs.resolved

/-- A call that finds no refresh running starts one, with a request of its own. -/
theorem RefreshInv.call_starts (hs : RefreshInv s) (hnone : s.refreshPromise = none) :
    RefreshInv s.call := by
  have hcall : s.call = { s with
      refreshPromise := some ⟨s.nextPromise, s.requests⟩
      refreshQueued := false
      requests := s.requests + 1
      phase := Function.update s.phase s.nextPromise (.fetching (s.requests + 1))
      nextPromise := s.nextPromise + 1 } := by
    simp [RefreshState.call, hnone]
  rw [hcall]
  -- the promises of the calls that still wait have settled
  have hsettled : ∀ c ∈ s.joined, ∃ outcome, s.phase c.promise = .settled outcome := fun c hc ↦
    hs.others c hc fun r hr ↦ by
      rw [hnone] at hr
      cases hr
  have hphase : ∀ c ∈ s.joined, Function.update s.phase s.nextPromise
      (.fetching (s.requests + 1)) c.promise = s.phase c.promise := fun c hc ↦
    Function.update_of_ne (hs.joined c hc).1.ne _ _
  constructor
  · exact hs.installed_le.trans (Nat.le_succ _)
  · intro r request hr hrequest
    obtain rfl := Option.some.inj hr
    simp only [Function.update_self, LoopPhase.fetching.injEq] at hrequest
    exact hrequest.symm
  · intro r hr
    obtain rfl := Option.some.inj hr
    refine ⟨Nat.lt_succ_self _, Nat.le_succ _, ?_⟩
    simp [Covered]
  · intro c hc
    obtain ⟨hlt, hmade, hcov⟩ := hs.joined c hc
    obtain ⟨outcome, houtcome⟩ := hsettled c hc
    refine ⟨hlt.trans (Nat.lt_succ_self _), hmade.trans (Nat.le_succ _), ?_⟩
    rw [covered_settled_iff ((hphase c hc).trans houtcome)]
    exact (covered_settled_iff houtcome).mp hcov
  · intro c hc _
    obtain ⟨outcome, houtcome⟩ := hsettled c hc
    exact ⟨outcome, (hphase c hc).trans houtcome⟩
  · exact hs.resolved

theorem resolved_resume {c : RefreshCall} {outcome : Outcome}
    (hphase : s.phase c.promise = .settled outcome) (hcovered : Covered s c)
    (hresolved : ∀ r ∈ s.resolved, r.madeAt < r.installed) :
    ∀ r ∈ (s.resume c outcome).resolved, r.madeAt < r.installed := by
  cases outcome with
  | rejected => exact hresolved
  | fulfilled =>
    intro r hr
    rcases List.mem_append.mp hr with hin | hin
    · exact hresolved r hin
    · obtain rfl := List.mem_singleton.mp hin
      exact (covered_settled_iff hphase).mp hcovered rfl

/-- Resuming a call leaves all but the list of the resolved calls as it is. -/
theorem resume_eq (c : RefreshCall) (outcome : Outcome) :
    ∃ resolved, s.resume c outcome = { s with resolved := resolved } := by
  cases outcome with
  | fulfilled => exact ⟨_, rfl⟩
  | rejected => exact ⟨s.resolved, rfl⟩

/-- The call that has started a refresh goes on, and the next call will start a new one. -/
theorem RefreshInv.resumeLeader (hs : RefreshInv s) {running : RefreshCall} {outcome : Outcome}
    (hrunning : s.refreshPromise = some running)
    (hphase : s.phase running.promise = .settled outcome) :
    RefreshInv { s.resume running outcome with refreshPromise := none } := by
  have hresolved := resolved_resume hphase (hs.leader running hrunning).2.2 hs.resolved
  obtain ⟨resolved, hresume⟩ := resume_eq (s := s) running outcome
  rw [hresume] at hresolved ⊢
  constructor
  · exact hs.installed_le
  · intro r _ hr
    cases hr
  · intro r hr
    cases hr
  · exact hs.joined
  · intro c hc _
    by_cases hne : running.promise = c.promise
    · exact ⟨outcome, hne ▸ hphase⟩
    · refine hs.others c hc fun r hr ↦ ?_
      obtain rfl := Option.some.inj (hrunning.symm.trans hr)
      exact hne
  · exact hresolved

theorem RefreshInv.resumeJoined (hs : RefreshInv s) {c : RefreshCall} {outcome : Outcome} (i : ℕ)
    (hc : c ∈ s.joined) (hphase : s.phase c.promise = .settled outcome) :
    RefreshInv { s.resume c outcome with joined := s.joined.eraseIdx i } := by
  have hresolved := resolved_resume hphase (hs.joined c hc).2.2 hs.resolved
  obtain ⟨resolved, hresume⟩ := resume_eq (s := s) c outcome
  rw [hresume] at hresolved ⊢
  constructor
  · exact hs.installed_le
  · exact hs.request_eq
  · exact hs.leader
  · exact fun d hd ↦ hs.joined d ((List.eraseIdx_sublist _ _).subset hd)
  · exact fun d hd ↦ hs.others d ((List.eraseIdx_sublist _ _).subset hd)
  · exact hresolved

/-- **Every step in time keeps the invariant.** -/
theorem RefreshInv.step (hs : RefreshInv s) {step : RefreshStep} (hok : step.InTime s)
    (h : refreshStep step s = some s') : RefreshInv s' := by
  rcases refreshStep_cases h with ⟨rfl, rfl⟩ | ⟨running, events, request, -, hrun, hphase, rfl⟩ |
    ⟨running, request, -, hrun, hphase, rfl⟩ | ⟨running, -, hrun, hphase, hqueued, rfl⟩ |
    ⟨running, -, hrun, hphase, hqueued, rfl⟩ | ⟨running, outcome, -, hrun, hphase, rfl⟩ |
    ⟨running, outcome, -, hrun, hphase, rfl⟩ | ⟨i, c, outcome, -, hc, hphase, rfl⟩
  · cases hrunning : s.refreshPromise with
    | none => exact hs.call_starts hrunning
    | some running => exact hs.call_joins hrunning hok
  · -- the response to the last request is installed
    have hrequest := hs.request_eq running request hrun hphase
    refine hs.advance hrun rfl ⟨rfl, rfl, rfl, rfl⟩ ?_ le_rfl hrequest.le nofun ?_
    · exact hs.installed_le.trans hrequest.ge
    · intro c hc _ hcov
      simpa [Covered, RefreshState.setPhase, hc, hphase] using hcov
  · refine hs.advance hrun rfl ⟨rfl, rfl, rfl, rfl⟩ le_rfl le_rfl hs.installed_le nofun ?_
    intro c hc _ _
    simp [Covered, RefreshState.setPhase, hc]
  · -- one more round: the request is later than every call so far
    refine hs.advance hrun rfl ⟨rfl, rfl, rfl, rfl⟩ le_rfl (Nat.le_succ _)
      (hs.installed_le.trans (Nat.le_succ _)) ?_ ?_
    · rintro request ⟨⟩
      rfl
    · intro c hc hmade _
      simp [Covered, RefreshState.setPhase, hc, Nat.lt_succ_of_le hmade]
  · -- the flag is not up: every call has a later request
    refine hs.advance hrun rfl ⟨rfl, rfl, rfl, rfl⟩ le_rfl le_rfl hs.installed_le nofun ?_
    intro c hc _ hcov
    simpa [Covered, RefreshState.setPhase, hc, hphase, hqueued] using hcov
  · refine hs.advance hrun rfl ⟨rfl, rfl, rfl, rfl⟩ le_rfl le_rfl hs.installed_le nofun ?_
    intro c hc _ hcov
    cases outcome with
    | fulfilled => simpa [Covered, RefreshState.setPhase, hc, hphase] using hcov
    | rejected => simp [Covered, RefreshState.setPhase, hc]
  · exact hs.resumeLeader hrun hphase
  · exact hs.resumeJoined i hc hphase

theorem refreshInv_start (events : List StationEventDefinition) :
    RefreshInv (RefreshState.start events) := by
  constructor
  · exact le_rfl
  · intro running request hrunning
    cases hrunning
  · intro running hrunning
    cases hrunning
  · simp [RefreshState.start]
  · simp [RefreshState.start]
  · simp [RefreshState.start]

/-- **No refresh is lost that comes in time.** In every interleaving of calls with the steps of the
running refresh in which no call comes between the last read of `refreshQueued` by a refresh that
succeeds and the clearing of `refreshPromise`, every call that resolves finds a snapshot installed
whose request was issued after the call was made. -/
theorem no_refresh_lost (events : List StationEventDefinition) {steps : List RefreshStep}
    {s : RefreshState}
    (hrun : Run refreshStep (fun s step ↦ step.InTime s) (RefreshState.start events) steps s) :
    ∀ r ∈ s.resolved, r.madeAt < r.installed := by
  have hinv : RefreshInv s := by
    induction hrun with
    | nil => exact refreshInv_start events
    | snoc _ hok hstep ih => exact ih.step hok hstep
  exact hinv.resolved

/-- Two calls, the second one while the first awaits its response: the loop goes round twice, and
both find the snapshot of the second request. -/
theorem no_refresh_lost_joined : ∃ s : RefreshState,
    s.resolved = [⟨1, 3⟩, ⟨2, 3⟩] ∧ ∀ r ∈ s.resolved, r.madeAt < r.installed := by
  have hrun : (execute refreshStep (fun s step ↦ step.InTime s)
      [.call, .call, .respond [], .readQueued, .respond [], .readQueued, .settle, .resumeLeader,
        .resumeJoined 0] (RefreshState.start [])).any (fun s ↦
        decide (s.resolved = [⟨1, 3⟩, ⟨2, 3⟩])) = true := by
    decide +kernel
  obtain ⟨s, hs, hresolved⟩ := (Option.any_eq_true _ _).mp hrun
  exact ⟨s, of_decide_eq_true hresolved, no_refresh_lost [] (run_of_execute hs)⟩

/-- **A call comes too late for the flag and too early for a refresh of its own.** The first refresh
has read `refreshQueued` and its promise has settled when the second call comes; it joins, and
resolves with the snapshot that was there before. -/
theorem not_no_refresh_lost : ¬ ∀ s : RefreshState,
    Run refreshStep (fun _ _ ↦ True) (RefreshState.start [])
      [.call, .respond [], .readQueued, .settle, .call, .resumeLeader, .resumeJoined 0] s →
    ∀ r ∈ s.resolved, r.madeAt < r.installed := by
  intro hall
  have hrun : (execute refreshStep (fun _ _ ↦ True)
      [.call, .respond [], .readQueued, .settle, .call, .resumeLeader, .resumeJoined 0]
      (RefreshState.start [])).any (fun s ↦
        decide (∃ r ∈ s.resolved, ¬ r.madeAt < r.installed)) = true := by
    decide +kernel
  obtain ⟨s, hs, hlost⟩ := (Option.any_eq_true _ _).mp hrun
  obtain ⟨r, hr, hnot⟩ := of_decide_eq_true hlost
  exact hnot (hall s (run_of_execute hs) r hr)

end

end RwServer
