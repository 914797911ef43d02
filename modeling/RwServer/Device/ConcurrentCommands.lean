import Mathlib
import RwServer.Foundation.Calls
import RwServer.Orders.Operations

/-!
# A command for a gateway

A command is queued for a gateway, which gets it with its next sync, acknowledges it and reports a
result; until then a user may cancel it. The requests come over a network that repeats, delays and
reorders them, and each handler first reads the row and then writes it by its id, whatever has
become of it in between. An acknowledgement writes `ACK` even over a result, a result is written
over another one, and a sync never looks at `expiresAt`.

`command_moves_forward` says what holds of a command as long as each write finds it where the
handler has to expect it.
-/

namespace RwServer

open Transition

inductive CommandStatus
  | PENDING
  | ACK
  | COMPLETED
  | FAILED
  | EXPIRED
deriving DecidableEq, Repr

/-- `VALID_COMMANDS`. -/
inductive CommandType
  | restart
  | diagnostic
  | specPull
deriving DecidableEq, Repr

/-- What a result leaves in the row: the data of a success, where `none` is `{}`, or the error. -/
inductive CommandResult (Json : Type*)
  | data (data : Option Json)
  | error (error : String)
deriving DecidableEq

/-- A row of `CommandQueue`. -/
structure GatewayCommand (Json : Type*) where
  id : Uuid
  command : CommandType
  /-- `none` is `{}`. -/
  payload : Option Json
  status : CommandStatus
  result : Option (CommandResult Json)
  ackedAt : Option Time
  completedAt : Option Time
  expiresAt : Option Time
  gatewayId : Uuid
deriving DecidableEq

/-- A request that names or makes the command. -/
inductive CommandCall (Json : Type*)
  | queue (gatewayId : Uuid) (command : CommandType) (payload : Option Json)
      (expiresIn : Option ℚ)
  | sync (gatewayId : Uuid)
  | ack (gatewayId : Uuid)
  | complete (gatewayId : Uuid) (success : Bool) (data : Option Json) (error : Option String)
  | cancel (gatewayId : Uuid)
deriving DecidableEq

/-- What a sync delivers of a command. -/
structure PendingCommand (Json : Type*) where
  id : Uuid
  command : CommandType
  payload : Option Json
deriving DecidableEq

inductive CommandReply
  | success
  | notFound
  | notPending
  /-- The write has found no row. -/
  | thrown
deriving DecidableEq, Repr

/-- Which statement of a call comes next. -/
inductive CommandPhase (Json : Type*)
  | start
  /-- The row has been read, and is written now. -/
  | writing
  /-- A sync has got the pending commands at the time `at_`. -/
  | delivered (at_ : Time) (commands : List (PendingCommand Json))
  | finished (reply : CommandReply)
deriving DecidableEq

/-- The row of the command, and whether its id has been given. -/
structure CommandStore (Json : Type*) where
  command : Option (GatewayCommand Json)
  created : Bool
deriving DecidableEq

/-! ## The requests, statement by statement -/

variable {Json : Type*}

/-- The date of `new Date(Date.now() + expiresIn * 1000)`, where `expiresIn` is there and not
`0`. -/
def expiresAtOf (now : Time) (expiresIn : Option ℚ) : Option Time :=
  (expiresIn.filter fun seconds ↦ decide (seconds ≠ 0)).map fun seconds ↦
    let ms : ℚ := now + seconds * 1000
    ms.num.tdiv ms.den

/-- `queue`. -/
def queuedCommand (id : Uuid) (now : Time) (gatewayId : Uuid) (command : CommandType)
    (payload : Option Json) (expiresIn : Option ℚ) : GatewayCommand Json where
  id := id
  command := command
  payload := payload
  status := .PENDING
  result := none
  ackedAt := none
  completedAt := none
  expiresAt := expiresAtOf now expiresIn
  gatewayId := gatewayId

/-- `getPending`. -/
def getPending (store : CommandStore Json) (gatewayId : Uuid) : List (PendingCommand Json) :=
  (store.command.toList.filter fun c ↦ decide (c.gatewayId = gatewayId ∧ c.status = .PENDING)).map
    fun c ↦ ⟨c.id, c.command, c.payload⟩

theorem getPending_ne_nil {store : CommandStore Json} {gatewayId : Uuid}
    (h : getPending store gatewayId ≠ []) :
    ∃ c, store.command = some c ∧ c.gatewayId = gatewayId ∧ c.status = .PENDING := by
  obtain ⟨pending, hpending⟩ := List.exists_mem_of_ne_nil _ h
  obtain ⟨c, hc, -⟩ := List.mem_map.mp hpending
  obtain ⟨hmem, hfound⟩ := List.mem_filter.mp hc
  exact ⟨c, Option.mem_toList.mp hmem, of_decide_eq_true hfound⟩

/-- `findFirst({ where: { id, gatewayId } })`. -/
def findCommand (store : CommandStore Json) (gatewayId : Uuid) : Option (GatewayCommand Json) :=
  store.command.filter fun c ↦ decide (c.gatewayId = gatewayId)

/-- The update of `ack`. -/
def GatewayCommand.acked (c : GatewayCommand Json) (now : Time) : GatewayCommand Json :=
  { c with status := .ACK, ackedAt := some now }

def completedStatus (success : Bool) : CommandStatus := if success then .COMPLETED else .FAILED

def resultData (success : Bool) (data : Option Json) (error : Option String) : CommandResult Json :=
  if success then .data data
  else .error ((error.filter fun e ↦ decide (e ≠ "")).getD "Unknown error")

/-- The update of `complete`. -/
def GatewayCommand.completed (c : GatewayCommand Json) (now : Time) (success : Bool)
    (data : Option Json) (error : Option String) : GatewayCommand Json :=
  { c with
    status := completedStatus success
    completedAt := some now
    result := some (resultData success data error) }

/-- A write by id: it throws where there is no row. -/
def writeCommand (store : CommandStore Json)
    (write : GatewayCommand Json → Option (GatewayCommand Json)) :
    CommandStore Json × CommandPhase Json :=
  match store.command with
  | none => (store, .finished .thrown)
  | some c => ({ store with command := write c }, .finished .success)

/-- The phase of a handler after it has read the command. -/
def afterFindCommand (found : Option (GatewayCommand Json)) : CommandPhase Json :=
  if found.isSome then .writing else .finished .notFound

/-- The phase of `cancel` after it has read the command. -/
def afterFindCancelled (found : Option (GatewayCommand Json)) : CommandPhase Json :=
  match found with
  | none => .finished .notFound
  | some c => if c.status ≠ .PENDING then .finished .notPending else .writing

section

variable {ι : Type*}

/-- The next statement of the call `i`, at the time `now`. A request that queues where the id has
been given makes another command. -/
def commandStatement (id : Uuid) (calls : ι → CommandCall Json) (i : ι) (now : Time)
    (store : CommandStore Json) : CommandPhase Json →
      Option (CommandStore Json × CommandPhase Json)
  | .start =>
    match calls i with
    | .queue gatewayId command payload expiresIn =>
      if store.created then some (store, .finished .success)
      else some (⟨some (queuedCommand id now gatewayId command payload expiresIn), true⟩,
        .finished .success)
    | .sync gatewayId => some (store, .delivered now (getPending store gatewayId))
    | .ack gatewayId => some (store, afterFindCommand (findCommand store gatewayId))
    | .complete gatewayId _ _ _ => some (store, afterFindCommand (findCommand store gatewayId))
    | .cancel gatewayId => some (store, afterFindCancelled (findCommand store gatewayId))
  | .writing =>
    match calls i with
    | .ack _ => some (writeCommand store fun c ↦ some (c.acked now))
    | .complete _ success data error =>
      some (writeCommand store fun c ↦ some (c.completed now success data error))
    | .cancel _ => some (writeCommand store fun _ ↦ none)
    | _ => none
  | _ => none

abbrev CommandCalls (ι Json : Type*) := Calls ι (CommandStore Json) (CommandPhase Json)

/-- Before any of the requests. -/
def commandsStart : CommandCalls ι Json := ⟨⟨none, false⟩, fun _ ↦ .start⟩

/-- A user has cancelled the command. -/
def Cancelled (calls : ι → CommandCall Json) (i : ι) (phase : CommandPhase Json) : Prop :=
  (∃ gatewayId, calls i = .cancel gatewayId) ∧ phase = .finished .success

/-- No call but a `cancel` cancels. -/
theorem not_cancelled {calls : ι → CommandCall Json} {i : ι} {call : CommandCall Json}
    {phase : CommandPhase Json} (hcall : calls i = call)
    (hne : ∀ gatewayId, call ≠ .cancel gatewayId) : ¬ Cancelled calls i phase := by
  rintro ⟨⟨gatewayId, hcancel⟩, -⟩
  exact hne gatewayId (hcall.symm.trans hcancel)

theorem writeCommand_cases {write : GatewayCommand Json → Option (GatewayCommand Json)}
    {store store' : CommandStore Json} {phase' : CommandPhase Json}
    (h : writeCommand store write = (store', phase')) :
    (store' = store ∧ phase' = .finished .thrown) ∨ ∃ c, store.command = some c ∧
      store' = { store with command := write c } ∧ phase' = .finished .success := by
  rw [writeCommand] at h
  split at h
  · cases h
    exact .inl ⟨rfl, rfl⟩
  · rename_i c hc
    cases h
    exact .inr ⟨c, hc, rfl, rfl⟩

/-- A handler that has read the command has not delivered any. -/
theorem afterFindCommand_ne_delivered (found : Option (GatewayCommand Json)) (at_ : Time)
    (commands : List (PendingCommand Json)) :
    afterFindCommand found ≠ .delivered at_ commands := by
  unfold afterFindCommand
  split <;> exact fun heq ↦ by cases heq

/-- A `cancel` that has read the command has not deleted it. -/
theorem afterFindCancelled_cases (found : Option (GatewayCommand Json)) :
    afterFindCancelled found = .writing ∨ afterFindCancelled found = .finished .notFound ∨
      afterFindCancelled found = .finished .notPending := by
  cases found with
  | none => exact .inr (.inl rfl)
  | some c =>
    rw [afterFindCancelled]
    split
    · exact .inr (.inr rfl)
    · exact .inl rfl

/-- **What a statement can do.** The cases are those of the code: a new command, a delivery, an
answer without a write, and the three writes. -/
theorem commandStatement_cases {id : Uuid} {calls : ι → CommandCall Json} {i : ι} {now : Time}
    {store store' : CommandStore Json} {phase phase' : CommandPhase Json}
    (h : commandStatement id calls i now store phase = some (store', phase')) :
    (store.created = false ∧ (∃ gatewayId command payload expiresIn,
        calls i = .queue gatewayId command payload expiresIn ∧ store' =
          ⟨some (queuedCommand id now gatewayId command payload expiresIn), true⟩) ∧
        phase' = .finished .success) ∨
      (store' = store ∧ ∃ gatewayId, calls i = .sync gatewayId ∧ phase = .start ∧
        phase' = .delivered now (getPending store gatewayId)) ∨
      (store' = store ∧ ¬ Cancelled calls i phase' ∧
        ∀ at_ commands, phase' ≠ .delivered at_ commands) ∨
      ∃ c, store.command = some c ∧ phase = .writing ∧ phase' = .finished .success ∧
        ((∃ gatewayId, calls i = .ack gatewayId ∧
            store' = { store with command := some (c.acked now) }) ∨
          (∃ gatewayId success data error, calls i = .complete gatewayId success data error ∧
            store' = { store with command := some (c.completed now success data error) }) ∨
          ∃ gatewayId, calls i = .cancel gatewayId ∧ store' = { store with command := none }) := by
  cases phase with
  | start =>
    cases hcall : calls i with
    | queue gatewayId command payload expiresIn =>
      simp only [commandStatement, hcall] at h
      split at h
      · cases h
        exact .inr (.inr (.inl ⟨rfl, not_cancelled hcall nofun, nofun⟩))
      · rename_i hcreated
        cases h
        exact .inl ⟨Bool.eq_false_iff.mpr hcreated, ⟨_, _, _, _, rfl, rfl⟩, rfl⟩
    | sync gatewayId =>
      simp only [commandStatement, hcall] at h
      cases h
      exact .inr (.inl ⟨rfl, _, rfl, rfl, rfl⟩)
    | ack gatewayId =>
      simp only [commandStatement, hcall] at h
      cases h
      exact .inr (.inr (.inl
        ⟨rfl, not_cancelled hcall nofun, afterFindCommand_ne_delivered _⟩))
    | complete gatewayId success data error =>
      simp only [commandStatement, hcall] at h
      cases h
      exact .inr (.inr (.inl
        ⟨rfl, not_cancelled hcall nofun, afterFindCommand_ne_delivered _⟩))
    | cancel gatewayId =>
      simp only [commandStatement, hcall] at h
      cases h
      refine .inr (.inr (.inl ⟨rfl, fun hcancelled ↦ ?_, fun at_ commands ↦ ?_⟩))
      · rcases afterFindCancelled_cases (findCommand store gatewayId) with heq | heq | heq <;>
          cases heq.symm.trans hcancelled.2
      · rcases afterFindCancelled_cases (findCommand store gatewayId) with heq | heq | heq <;>
          rw [heq] <;> exact nofun
  | writing =>
    have hthrown : phase' = .finished .thrown → store' = store →
        store' = store ∧ ¬ Cancelled calls i phase' ∧
          ∀ at_ commands, phase' ≠ .delivered at_ commands := by
      rintro rfl hstore
      refine ⟨hstore, fun hcancelled ↦ ?_, fun _ _ heq ↦ by cases heq⟩
      cases hcancelled.2
    cases hcall : calls i with
    | queue gatewayId command payload expiresIn =>
      simp only [commandStatement, hcall] at h
      cases h
    | sync gatewayId =>
      simp only [commandStatement, hcall] at h
      cases h
    | ack gatewayId =>
      simp only [commandStatement, hcall, Option.some.injEq] at h
      obtain ⟨hstore, hphase⟩ | ⟨c, hc, hstore, hphase⟩ := writeCommand_cases h
      · exact .inr (.inr (.inl (hthrown hphase hstore)))
      · exact .inr (.inr (.inr ⟨c, hc, rfl, hphase, .inl ⟨_, rfl, hstore⟩⟩))
    | complete gatewayId success data error =>
      simp only [commandStatement, hcall, Option.some.injEq] at h
      obtain ⟨hstore, hphase⟩ | ⟨c, hc, hstore, hphase⟩ := writeCommand_cases h
      · exact .inr (.inr (.inl (hthrown hphase hstore)))
      · exact .inr (.inr (.inr ⟨c, hc, rfl, hphase, .inr (.inl ⟨_, _, _, _, rfl, hstore⟩)⟩))
    | cancel gatewayId =>
      simp only [commandStatement, hcall, Option.some.injEq] at h
      obtain ⟨hstore, hphase⟩ | ⟨c, hc, hstore, hphase⟩ := writeCommand_cases h
      · exact .inr (.inr (.inl (hthrown hphase hstore)))
      · exact .inr (.inr (.inr ⟨c, hc, rfl, hphase, .inr (.inr ⟨_, rfl, hstore⟩)⟩))
  | delivered at_ commands => cases h
  | finished reply => cases h

/-! ## What a command goes through -/

namespace CommandStatus

/-- The status of a command with a result. -/
def IsFinal (status : CommandStatus) : Prop := status = .COMPLETED ∨ status = .FAILED

instance decidableIsFinal (status : CommandStatus) : Decidable status.IsFinal :=
  inferInstanceAs (Decidable (_ ∨ _))

/-- The way from one status to another, along `PENDING`, `ACK` and one of the final ones. -/
inductive Leads : CommandStatus → CommandStatus → Prop
  | refl (status : CommandStatus) : Leads status status
  | acked : Leads .PENDING .ACK
  | finished {status final : CommandStatus} : status = .PENDING ∨ status = .ACK → final.IsFinal →
      Leads status final

theorem Leads.trans {a b c : CommandStatus} (hab : Leads a b) (hbc : Leads b c) : Leads a c := by
  induction hab with
  | refl => exact hbc
  | acked =>
    obtain - | - | ⟨-, hfinal⟩ := hbc
    · exact .acked
    · exact .finished (.inl rfl) hfinal
  | finished hopen hfinal =>
    cases hbc with
    | refl => exact .finished hopen hfinal
    | acked => exact absurd hfinal (by decide)
    | finished hopen' => rcases hopen' with rfl | rfl <;> exact absurd hfinal (by decide)

/-- Nothing leads to `PENDING` but itself. -/
theorem Leads.eq_pending {status : CommandStatus} (h : Leads status .PENDING) :
    status = .PENDING := by
  obtain - | - | ⟨-, hfinal⟩ := h
  · rfl
  · rcases hfinal with h | h <;> cases h

end CommandStatus

/-- What may become of a row. -/
structure Succeeds (c c' : GatewayCommand Json) : Prop where
  expiresAt_eq : c'.expiresAt = c.expiresAt
  leads : c.status.Leads c'.status
  final : c.status.IsFinal → c'.status = c.status ∧ c'.result = c.result

theorem Succeeds.refl (c : GatewayCommand Json) : Succeeds c c :=
  ⟨rfl, .refl _, fun _ ↦ ⟨rfl, rfl⟩⟩

theorem Succeeds.trans {c c' c'' : GatewayCommand Json} (h : Succeeds c c')
    (h' : Succeeds c' c'') : Succeeds c c'' where
  expiresAt_eq := h'.expiresAt_eq.trans h.expiresAt_eq
  leads := h.leads.trans h'.leads
  final hfinal := by
    obtain ⟨hstatus, hresult⟩ := h.final hfinal
    obtain ⟨hstatus', hresult'⟩ := h'.final (hstatus ▸ hfinal)
    exact ⟨hstatus'.trans hstatus, hresult'.trans hresult⟩

/-- What a call expects of the command when its next statement comes: an acknowledgement is written
to a command without a result; so is a result, unless it is the one that is there; a command is
deleted while it is pending; and a sync finds a command pending only until it expires. -/
def Expected (now : Time) (c : GatewayCommand Json) :
    CommandCall Json → CommandPhase Json → Prop
  | .queue _ _ _ _, _ => True
  | .sync gatewayId, phase => phase = .start → c.gatewayId = gatewayId → c.status = .PENDING →
      ∀ expiresAt ∈ c.expiresAt, now ≤ expiresAt
  | .ack _, phase => phase = .writing → c.status = .PENDING ∨ c.status = .ACK
  | .complete _ success data error, phase => phase = .writing →
      c.status = .PENDING ∨ c.status = .ACK ∨
        (c.status = completedStatus success ∧ c.result = some (resultData success data error))
  | .cancel _, phase => phase = .writing → c.status = .PENDING

instance decidableExpected [DecidableEq Json] (now : Time) (c : GatewayCommand Json) :
    ∀ call phase, Decidable (Expected now c call phase)
  | .queue _ _ _ _, _ => isTrue trivial
  | .sync gatewayId, phase => inferInstanceAs (Decidable (phase = .start → c.gatewayId = gatewayId →
      c.status = .PENDING → ∀ expiresAt ∈ c.expiresAt, now ≤ expiresAt))
  | .ack _, phase => inferInstanceAs (Decidable (phase = .writing → _ ∨ _))
  | .complete _ _ _ _, phase => inferInstanceAs (Decidable (phase = .writing → _ ∨ _ ∨ (_ ∧ _)))
  | .cancel _, phase => inferInstanceAs (Decidable (phase = .writing → c.status = .PENDING))

/-- The condition on a step, at the time `a.2`: the call finds the command as it expects it. -/
def FindsExpected (calls : ι → CommandCall Json) (s : CommandCalls ι Json) (a : ι × Time) : Prop :=
  ∀ c ∈ s.store.command, Expected a.2 c (calls a.1) (s.phase a.1)

instance decidableFindsExpected [DecidableEq Json] (calls : ι → CommandCall Json)
    (s : CommandCalls ι Json) (a : ι × Time) : Decidable (FindsExpected calls s a) :=
  inferInstanceAs (Decidable (∀ c ∈ s.store.command, _))

theorem succeeds_acked {c : GatewayCommand Json} (h : c.status = .PENDING ∨ c.status = .ACK)
    (now : Time) : Succeeds c (c.acked now) where
  expiresAt_eq := rfl
  leads := by
    change c.status.Leads .ACK
    rcases h with h | h
    · rw [h]
      exact .acked
    · rw [h]
      exact .refl _
  final hfinal := by
    rcases h with h | h <;> rcases hfinal with hfinal | hfinal <;> rw [h] at hfinal <;> cases hfinal

theorem succeeds_completed {c : GatewayCommand Json} {success : Bool} {data : Option Json}
    {error : Option String} (h : c.status = .PENDING ∨ c.status = .ACK ∨
      (c.status = completedStatus success ∧ c.result = some (resultData success data error)))
    (now : Time) : Succeeds c (c.completed now success data error) := by
  rcases or_assoc.mpr h with hopen | ⟨hstatus, hresult⟩
  · refine ⟨rfl, .finished hopen ?_, fun hfinal ↦ ?_⟩
    · change (completedStatus success).IsFinal
      cases success
      · exact .inr rfl
      · exact .inl rfl
    · rcases hopen with h | h <;> rcases hfinal with hfinal | hfinal <;> rw [h] at hfinal <;>
        cases hfinal
  · refine ⟨rfl, ?_, fun _ ↦ ⟨hstatus.symm, hresult.symm⟩⟩
    change c.status.Leads (completedStatus success)
    rw [hstatus]
    exact .refl _

/-- What has become of the command `c` of an earlier state: it has been cancelled while it was
pending, or its row is there and has gone on. -/
def Since (c : GatewayCommand Json) (store : CommandStore Json) : Prop :=
  store.created = true ∧ ((store.command = none ∧ c.status = .PENDING) ∨
    ∃ c', store.command = some c' ∧ Succeeds c c')

/-- What a call has done that was in the phase `phase₀` in an earlier state, when the command was
`c`. -/
structure DoneSince (c : GatewayCommand Json) (calls : ι → CommandCall Json) (i : ι)
    (phase₀ phase : CommandPhase Json) : Prop where
  delivered : ∀ at_ commands, phase = .delivered at_ commands → commands ≠ [] →
    phase₀ = phase ∨
      (c.status = .PENDING ∧ ∀ expiresAt, c.expiresAt = some expiresAt → at_ ≤ expiresAt)
  cancelled : Cancelled calls i phase → phase₀ = phase ∨ c.status = .PENDING

theorem since_of_run {id : Uuid} {calls : ι → CommandCall Json} [DecidableEq ι]
    {c : GatewayCommand Json} {steps : List (ι × Time)} {s s' : CommandCalls ι Json}
    (hc : s.store.command = some c) (hcreated : s.store.created = true)
    (hrun : Run (Calls.step (commandStatement id calls)) (FindsExpected calls) s steps s') :
    Since c s'.store ∧ ∀ i, DoneSince c calls i (s.phase i) (s'.phase i) := by
  refine Calls.invariant (A := fun i _ phase ↦ DoneSince c calls i (s.phase i) phase)
    (show Since c s.store from ⟨hcreated, .inr ⟨c, hc, .refl c⟩⟩)
    (fun i ↦ ⟨fun _ _ _ _ ↦ .inl rfl, fun _ ↦ .inl rfl⟩) ?_ hrun
  intro t i now store phase hok hsince hdone hstatement
  obtain ⟨hcreated, hrow⟩ := hsince
  rcases commandStatement_cases hstatement with ⟨hfresh, -⟩ | ⟨rfl, gatewayId, hcall, hstart, rfl⟩ |
    ⟨rfl, hcancelled, hdelivered⟩ | ⟨c', hc', hwriting, rfl, hwrite⟩
  · rw [hcreated] at hfresh
    cases hfresh
  · refine ⟨⟨hcreated, hrow⟩, ⟨fun at_ commands heq hne ↦ .inr ?_, fun h ↦ ?_⟩, fun _ _ hj ↦ hj⟩
    · obtain ⟨rfl, rfl⟩ := CommandPhase.delivered.inj heq
      obtain ⟨c', hc', hgateway, hpending⟩ := getPending_ne_nil hne
      rcases hrow with ⟨hnone, -⟩ | ⟨c'', hc'', hsucceeds⟩
      · rw [hnone] at hc'
        cases hc'
      · obtain rfl : c'' = c' := Option.some.inj (hc''.symm.trans hc')
        have hintime := hok c'' hc'
        rw [hcall] at hintime
        exact ⟨(hpending ▸ hsucceeds.leads).eq_pending, fun expiresAt hexpires ↦
          hintime hstart hgateway hpending expiresAt (hsucceeds.expiresAt_eq.trans hexpires)⟩
    · cases h.2
  · exact ⟨⟨hcreated, hrow⟩, ⟨fun at_ commands heq ↦ absurd heq (hdelivered at_ commands),
      fun h ↦ absurd h hcancelled⟩, fun _ _ hj ↦ hj⟩
  · obtain ⟨c'', hc'', hsucceeds⟩ : ∃ c'', t.store.command = some c'' ∧ Succeeds c c'' := by
      rcases hrow with ⟨hnone, -⟩ | hsome
      · rw [hnone] at hc'
        cases hc'
      · exact hsome
    obtain rfl : c'' = c' := Option.some.inj (hc''.symm.trans hc')
    have hexpected := hok c'' hc'
    rcases hwrite with ⟨gatewayId, hcall, rfl⟩ | ⟨gatewayId, success, data, error, hcall, rfl⟩ |
      ⟨gatewayId, hcall, rfl⟩
    · rw [hcall] at hexpected
      exact ⟨⟨hcreated, .inr ⟨_, rfl, hsucceeds.trans (succeeds_acked (hexpected hwriting) now)⟩⟩,
        ⟨nofun, fun h ↦ absurd h (not_cancelled hcall nofun)⟩, fun _ _ hj ↦ hj⟩
    · rw [hcall] at hexpected
      exact ⟨⟨hcreated,
        .inr ⟨_, rfl, hsucceeds.trans (succeeds_completed (hexpected hwriting) now)⟩⟩,
        ⟨nofun, fun h ↦ absurd h (not_cancelled hcall nofun)⟩, fun _ _ hj ↦ hj⟩
    · rw [hcall] at hexpected
      have hpending : c.status = .PENDING := (hexpected hwriting ▸ hsucceeds.leads).eq_pending
      exact ⟨⟨hcreated, .inl ⟨rfl, hpending⟩⟩,
        ⟨nofun, fun _ ↦ .inr hpending⟩, fun _ _ hj ↦ hj⟩

/-- A command that is there, or has been cancelled, has been made; and a cancelled one is gone. -/
theorem created_of_run {id : Uuid} {calls : ι → CommandCall Json} [DecidableEq ι]
    {steps : List (ι × Time)} {s : CommandCalls ι Json}
    (hrun : Run (Calls.step (commandStatement id calls)) (fun _ _ ↦ True) commandsStart steps s) :
    (∀ c, s.store.command = some c → s.store.created = true) ∧
      ∀ i, Cancelled calls i (s.phase i) → s.store = ⟨none, true⟩ := by
  have hstart : ∀ c, (commandsStart : CommandCalls ι Json).store.command = some c →
      (commandsStart : CommandCalls ι Json).store.created = true := fun c hc ↦ (by cases hc)
  refine Calls.invariant (I := fun store ↦ ∀ c, store.command = some c → store.created = true)
    (A := fun i store phase ↦ Cancelled calls i phase → store = ⟨none, true⟩)
    hstart (fun i h ↦ (by cases h.2)) ?_ hrun
  intro t i now store phase _ hcreated hcancelled hstatement
  rcases commandStatement_cases hstatement with
    ⟨hfresh, ⟨gatewayId, command, payload, expiresIn, hcall, rfl⟩, -⟩ | ⟨rfl, _, -, -, rfl⟩ |
    ⟨rfl, hnot, -⟩ | ⟨c, hc, -, -, hwrite⟩
  · refine ⟨fun _ _ ↦ rfl, fun h ↦ absurd h (not_cancelled hcall nofun), fun j _ hj h ↦ ?_⟩
    rw [hj h] at hfresh
    cases hfresh
  · exact ⟨hcreated, fun h ↦ (by cases h.2), fun _ _ hj ↦ hj⟩
  · exact ⟨hcreated, fun h ↦ absurd h hnot, fun _ _ hj ↦ hj⟩
  · have hsome := hcreated c hc
    have hothers : ∀ j ≠ i, (Cancelled calls j (t.phase j) → t.store = ⟨none, true⟩) →
        Cancelled calls j (t.phase j) → store = ⟨none, true⟩ := by
      intro j _ hj h
      rw [hj h] at hc
      cases hc
    rcases hwrite with ⟨_, hcall, rfl⟩ | ⟨_, _, _, _, hcall, rfl⟩ | ⟨_, -, rfl⟩
    · exact ⟨fun _ _ ↦ hsome, fun h ↦ absurd h (not_cancelled hcall nofun), hothers⟩
    · exact ⟨fun _ _ ↦ hsome, fun h ↦ absurd h (not_cancelled hcall nofun), hothers⟩
    · exact ⟨fun _ hc ↦ (by cases hc), fun _ ↦ by rw [hsome], hothers⟩

/-- A command that has been deleted does not come back. -/
theorem gone_of_run {id : Uuid} {calls : ι → CommandCall Json} [DecidableEq ι]
    {steps : List (ι × Time)} {s s' : CommandCalls ι Json}
    (hrun : Run (Calls.step (commandStatement id calls)) (FindsExpected calls) s steps s')
    (hgone : s.store = ⟨none, true⟩) : s'.store = ⟨none, true⟩ := by
  refine Calls.store_relation (r := fun store store' : CommandStore Json ↦
    store = ⟨none, true⟩ → store' = ⟨none, true⟩)
    (fun _ h ↦ h) (fun h h' hstore ↦ h' (h hstore)) ?_ hrun hgone
  intro t i now store phase _ hstatement hgone
  rcases commandStatement_cases hstatement with ⟨hfresh, -⟩ | ⟨rfl, -⟩ | ⟨rfl, -⟩ | ⟨c, hc, -⟩
  · rw [hgone] at hfresh
    cases hfresh
  · exact hgone
  · exact hgone
  · rw [hgone] at hc
    cases hc

/-- What holds of a command between an earlier state and a later one. -/
structure MovesForward (calls : ι → CommandCall Json) (s s' : CommandCalls ι Json) : Prop where
  leads : ∀ c c', s.store.command = some c → s'.store.command = some c' →
    c.status.Leads c'.status
  /-- A result stays. -/
  final : ∀ c, s.store.command = some c → c.status.IsFinal →
    ∃ c', s'.store.command = some c' ∧ c'.status = c.status ∧ c'.result = c.result
  /-- A command with an acknowledgement or a result is not delivered by a later sync, … -/
  answered : ∀ c, s.store.command = some c → c.status ≠ .PENDING → ∀ i at_ commands,
    s.phase i = .start → s'.phase i = .delivered at_ commands → commands = []
  /-- … and none is when it has expired. -/
  inTime : ∀ c expiresAt, s.store.command = some c → c.expiresAt = some expiresAt →
    ∀ i at_ commands, s.phase i = .start → s'.phase i = .delivered at_ commands →
      expiresAt < at_ → commands = []
  /-- A command that has been acknowledged is not cancelled, … -/
  acked : ∀ c, s.store.command = some c → c.status = .ACK → ∀ i,
    ¬ Cancelled calls i (s'.phase i)
  /-- … and one that has been cancelled is not acknowledged. -/
  cancelled : ∀ i, Cancelled calls i (s.phase i) → ∀ c', s'.store.command = some c' →
    c'.status ≠ .ACK

/-- **A command moves forward**, in every run of requests in which each write finds the command as
the handler expects it and no sync finds it pending after it has expired. -/
theorem command_moves_forward {id : Uuid} {calls : ι → CommandCall Json} [DecidableEq ι]
    {steps later : List (ι × Time)} {s s' : CommandCalls ι Json}
    (hrun : Run (Calls.step (commandStatement id calls)) (FindsExpected calls) commandsStart steps
      s)
    (hlater : Run (Calls.step (commandStatement id calls)) (FindsExpected calls) s later s') :
    MovesForward calls s s' := by
  obtain ⟨hcreated, hgone⟩ := created_of_run (hrun.mono fun _ _ _ ↦ trivial)
  obtain ⟨-, hgone'⟩ := created_of_run ((hrun.trans hlater).mono fun _ _ _ ↦ trivial)
  refine ⟨fun c c' hc hc' ↦ ?_, fun c hc hfinal ↦ ?_,
    fun c hc hne i at_ commands hstart hphase ↦ ?_,
    fun c expiresAt hc hexpires i at_ commands hstart hphase hlate ↦ ?_,
    fun c hc hacked i hcancelled ↦ ?_, fun i hcancelled c' hc' ↦ ?_⟩
  · obtain ⟨⟨-, ⟨hnone, -⟩ | ⟨c'', hc'', hsucceeds⟩⟩, -⟩ := since_of_run hc (hcreated c hc) hlater
    · rw [hnone] at hc'
      cases hc'
    · rw [hc''] at hc'
      exact Option.some.inj hc' ▸ hsucceeds.leads
  · obtain ⟨⟨-, ⟨-, hpending⟩ | ⟨c', hc', hsucceeds⟩⟩, -⟩ := since_of_run hc (hcreated c hc) hlater
    · rw [hpending] at hfinal
      exact absurd hfinal (by decide)
    · exact ⟨c', hc', hsucceeds.final hfinal⟩
  · obtain ⟨-, hdone⟩ := since_of_run hc (hcreated c hc) hlater
    by_contra hsome
    rcases (hdone i).delivered at_ commands hphase hsome with heq | ⟨hpending, -⟩
    · rw [hstart, hphase] at heq
      cases heq
    · exact hne hpending
  · obtain ⟨-, hdone⟩ := since_of_run hc (hcreated c hc) hlater
    by_contra hsome
    rcases (hdone i).delivered at_ commands hphase hsome with heq | ⟨-, hintime⟩
    · rw [hstart, hphase] at heq
      cases heq
    · exact absurd hlate (not_lt.mpr (hintime expiresAt hexpires))
  · obtain ⟨-, hdone⟩ := since_of_run hc (hcreated c hc) hlater
    rcases (hdone i).cancelled hcancelled with heq | hpending
    · rw [hgone i ⟨hcancelled.1, heq.trans hcancelled.2⟩] at hc
      cases hc
    · rw [hacked] at hpending
      cases hpending
  · rw [gone_of_run hlater (hgone i hcancelled)] at hc'
    cases hc'

end

/-! ## A restart -/

/-- The requests about one restart that expires after a minute: it is queued, delivered,
acknowledged, its result is stored, the acknowledgement is repeated, and the gateway syncs again. -/
def restartCalls : Fin 6 → CommandCall Unit
  | 0 => .queue 7 .restart none (some 60)
  | 1 => .sync 7
  | 2 => .ack 7
  | 3 => .complete 7 true none none
  | 4 => .ack 7
  | 5 => .sync 7

/-- Up to the result the restart is delivered once, and it keeps its result. -/
theorem command_moves_forward_restart : ∃ s s' : CommandCalls (Fin 6) Unit,
    (s.phase 1 = .delivered 1000 [⟨1, .restart, none⟩] ∧
      s'.store.command.map GatewayCommand.status = some .COMPLETED ∧
      s'.phase 5 = .delivered 99000 []) ∧ MovesForward restartCalls s s' := by
  have hexecute : (execute (Calls.step (commandStatement 1 restartCalls))
      (FindsExpected restartCalls) [(0, 0), (1, 1000)] commandsStart).any (fun s ↦
        decide (s.phase 1 = .delivered 1000 [⟨1, .restart, none⟩] ∧
          (execute (Calls.step (commandStatement 1 restartCalls)) (FindsExpected restartCalls)
            [(2, 1100), (2, 1200), (3, 5000), (3, 5100), (5, 99000)] s).any (fun s' ↦
              decide (s'.store.command.map GatewayCommand.status = some .COMPLETED ∧
                s'.phase 5 = .delivered 99000 [])) = true)) = true := by decide +kernel
  obtain ⟨s, hs, hfacts⟩ := (Option.any_eq_true _ _).mp hexecute
  obtain ⟨hdelivered, hlater⟩ := of_decide_eq_true hfacts
  obtain ⟨s', hs', hfacts'⟩ := (Option.any_eq_true _ _).mp hlater
  obtain ⟨hcompleted, hempty⟩ := of_decide_eq_true hfacts'
  exact ⟨s, s', ⟨hdelivered, hcompleted, hempty⟩,
    command_moves_forward (run_of_execute hs) (run_of_execute hs')⟩

/-- **A repeated acknowledgement takes a command back**: it comes when the result has been stored,
and the command goes from `COMPLETED` to `ACK`. -/
theorem not_command_moves_forward : ∃ s s' : CommandCalls (Fin 6) Unit,
    Run (Calls.step (commandStatement 1 restartCalls)) (fun _ _ ↦ True) commandsStart
        [(0, 0), (1, 1000), (2, 1100), (2, 1200), (3, 5000), (3, 5100)] s ∧
      Run (Calls.step (commandStatement 1 restartCalls)) (fun _ _ ↦ True) s
        [(4, 5200), (4, 5300)] s' ∧
      s.store.command.map GatewayCommand.status = some .COMPLETED ∧
      s'.store.command.map GatewayCommand.status = some .ACK ∧
      ¬ MovesForward restartCalls s s' := by
  have hexecute : (execute (Calls.step (commandStatement 1 restartCalls)) (fun _ _ ↦ True)
      [(0, 0), (1, 1000), (2, 1100), (2, 1200), (3, 5000), (3, 5100)] commandsStart).any (fun s ↦
        decide (s.store.command.map GatewayCommand.status = some .COMPLETED ∧
          (execute (Calls.step (commandStatement 1 restartCalls)) (fun _ _ ↦ True)
            [(4, 5200), (4, 5300)] s).any (fun s' ↦
              decide (s'.store.command.map GatewayCommand.status = some .ACK)) = true)) = true := by
    decide +kernel
  obtain ⟨s, hs, hfacts⟩ := (Option.any_eq_true _ _).mp hexecute
  obtain ⟨hcompleted, hlater⟩ := of_decide_eq_true hfacts
  obtain ⟨s', hs', hfacts'⟩ := (Option.any_eq_true _ _).mp hlater
  have hacked := of_decide_eq_true hfacts'
  refine ⟨s, s', run_of_execute hs, run_of_execute hs', hcompleted, hacked, fun hforward ↦ ?_⟩
  obtain ⟨c, hc, hstatus⟩ := Option.map_eq_some_iff.mp hcompleted
  obtain ⟨c', hc', hstatus'⟩ := Option.map_eq_some_iff.mp hacked
  obtain ⟨c'', hc'', hsame, -⟩ := hforward.final c hc (.inl hstatus)
  rw [hc', Option.some.injEq] at hc''
  rw [← hc'', hstatus', hstatus] at hsame
  cases hsame

end RwServer
