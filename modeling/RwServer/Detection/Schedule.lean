import Mathlib
import RwServer.Foundation.DelayQueue
import RwServer.Station.StateLog

/-!
# Scheduling the detection timers

A completed cycle prepares its detection inside its transaction and enqueues it after the commit.
Enqueueing is a call of `scheduleDetection` (or of `cancelDetection`) that nobody waits for: it
removes both timers of the station, reads the clock, and adds the slow and the down timer, one
request to a queue after the other. `CallMove.apply` is one such request, so that the calls of
several cycles can be interleaved; `call_cases` says what each of them does.
-/

namespace RwServer

/-! ## Preparing -/

/-- The thresholds of a row of `StationBlob`. -/
structure StationBlob where
  slowDetect : Option ℚ
  downtimeDetect : Option ℚ
deriving DecidableEq

inductive PreparedDetection
  | cancel (stationId : Uuid)
  | schedule (stationId : Uuid) (slowStartAfter downStartAfter : Option Time)
deriving DecidableEq, Repr

namespace PreparedDetection

def stationId : PreparedDetection → Uuid
  | cancel stationId => stationId
  | schedule stationId _ _ => stationId

def slowStartAfter : PreparedDetection → Option Time
  | cancel _ => none
  | schedule _ slowStartAfter _ => slowStartAfter

def downStartAfter : PreparedDetection → Option Time
  | cancel _ => none
  | schedule _ _ downStartAfter => downStartAfter

end PreparedDetection

/-- `new Date(ms)` drops the fraction. -/
def newDate (ms : ℚ) : Time := if 0 ≤ ms then ⌊ms⌋ else ⌈ms⌉

theorem newDate_mono : Monotone newDate := by
  intro a b h
  rw [newDate, newDate]
  split
  · rename_i ha
    rw [if_pos (ha.trans h)]
    exact Int.floor_mono h
  · rename_i ha
    split
    · rename_i hb
      exact (Int.ceil_le.mpr (by exact_mod_cast (not_le.mp ha).le)).trans (Int.floor_nonneg.mpr hb)
    · exact Int.ceil_mono h

/-- A timer at `delayMs` after `now`, where its threshold is configured and positive. -/
def startAfter (now : Time) (threshold : Option ℚ) (delayMs : ℚ → ℚ) : Option Time :=
  match threshold with
  | none => none
  | some x => if x > 0 then some (newDate (now + delayMs x)) else none

/-- `blob` and `standardCycle` are the current configuration of the station and of the job. -/
def prepareDetection (blob : Option StationBlob) (standardCycle : Option ℚ) (stationId : Uuid)
    (now : Time) : PreparedDetection :=
  match blob, standardCycle with
  | some blob, some standardCycleSeconds =>
    if standardCycleSeconds ≤ 0 then .cancel stationId
    else .schedule stationId
      (startAfter now blob.slowDetect fun slowFraction ↦
        standardCycleSeconds * (1 + slowFraction) * 1000)
      (startAfter now blob.downtimeDetect fun downtimeSeconds ↦
        (standardCycleSeconds + downtimeSeconds) * 1000)
  | _, _ => .cancel stationId

@[simp] theorem prepareDetection_stationId (blob : Option StationBlob) (standardCycle : Option ℚ)
    (stationId : Uuid) (now : Time) :
    (prepareDetection blob standardCycle stationId now).stationId = stationId := by
  rw [prepareDetection.eq_def]
  split
  · split <;> rfl
  · rfl

theorem startAfter_mono {threshold : Option ℚ} {delayMs : ℚ → ℚ} {now now' d : Time}
    (h : now ≤ now') (hd : d ∈ startAfter now threshold delayMs) :
    ∃ d' ∈ startAfter now' threshold delayMs, d ≤ d' := by
  cases threshold with
  | none => cases hd
  | some x =>
    rw [startAfter] at hd ⊢
    split at hd
    · rename_i hx
      cases hd
      refine ⟨_, if_pos hx, newDate_mono (add_le_add_left ?_ _)⟩
      exact_mod_cast h
    · cases hd

/-- With constant thresholds, what is prepared later starts later. -/
theorem downStartAfter_mono {blob : Option StationBlob} {standardCycle : Option ℚ}
    {stationId : Uuid} {now now' d : Time} (h : now ≤ now')
    (hd : d ∈ (prepareDetection blob standardCycle stationId now).downStartAfter) :
    ∃ d' ∈ (prepareDetection blob standardCycle stationId now').downStartAfter, d ≤ d' := by
  rw [prepareDetection.eq_def] at hd ⊢
  cases blob with
  | none => cases hd
  | some blob =>
    cases standardCycle with
    | none => cases hd
    | some standardCycleSeconds =>
      dsimp only at hd ⊢
      by_cases hpos : standardCycleSeconds ≤ 0
      · rw [if_pos hpos] at hd
        cases hd
      · rw [if_neg hpos] at hd ⊢
        exact startAfter_mono h hd

/-! ## The queues -/

/-- The data of a timer, and the call that added it, which the source does not record. -/
structure DetectionJob (ι : Type) where
  stationId : Uuid
  addedBy : ι
deriving DecidableEq

/-- The queues `station-slow-detect` and `station-down-detect`. The id of a timer, `slow-` or
`down-` with the station's id, is determined by the station. -/
structure DetectionQueues (ι : Type) where
  slow : DelayQueue Uuid Time (DetectionJob ι)
  down : DelayQueue Uuid Time (DetectionJob ι)

/-- How far a call has come. -/
inductive CallState
  | idle
  /-- The two removes are sent together; `true` for the one that is still under way. -/
  | removing (slow down : Bool)
  /-- It has read the clock, and is going to add the slow timer. -/
  | addingSlow (now : Time)
  | addingDown (now : Time)
  | finished
deriving DecidableEq, Repr

inductive CallMove
  | start
  | removeSlow
  | removeDown
  | proceed
  | addSlow
  | addDown
deriving DecidableEq, Repr

variable {ι : Type}

/-- Add a timer, where there is one to add. The delay was computed at `now`, and counts from the
moment `clock` at which the job is added. -/
def addTimer (queue : DelayQueue Uuid Time (DetectionJob ι)) (stationId : Uuid) (call : ι)
    (clock now : Time) (startAfter : Option Time) : DelayQueue Uuid Time (DetectionJob ι) :=
  match startAfter with
  | none => queue
  | some t => queue.add stationId ⟨stationId, call⟩ (clock + max 0 (t - now))

/-- The next request of the call of `enqueueDetection`, at the time `clock`. -/
def CallMove.apply (prepared : PreparedDetection) (call : ι) (clock : Time)
    (queues : DetectionQueues ι) : CallMove → CallState → Option (CallState × DetectionQueues ι)
  | .start, .idle => some (.removing true true, queues)
  | .removeSlow, .removing true down =>
    some (.removing false down, { queues with slow := queues.slow.remove prepared.stationId })
  | .removeDown, .removing slow true =>
    some (.removing slow false, { queues with down := queues.down.remove prepared.stationId })
  | .proceed, .removing false false =>
    match prepared with
    | .cancel _ => some (.finished, queues)
    | .schedule _ _ _ => some (.addingSlow clock, queues)
  | .addSlow, .addingSlow now =>
    some (.addingDown now, { queues with
      slow := addTimer queues.slow prepared.stationId call clock now prepared.slowStartAfter })
  | .addDown, .addingDown now =>
    some (.finished, { queues with
      down := addTimer queues.down prepared.stationId call clock now prepared.downStartAfter })
  | _, _ => none

/-- What a request does. -/
inductive Called (prepared : PreparedDetection) (call : ι) (clock : Time)
    (queues : DetectionQueues ι) :
    CallMove → CallState → CallState → DetectionQueues ι → Prop
  | start : Called prepared call clock queues .start .idle (.removing true true) queues
  | removeSlow {down : Bool} : Called prepared call clock queues .removeSlow (.removing true down)
      (.removing false down) { queues with slow := queues.slow.remove prepared.stationId }
  | removeDown {slow : Bool} : Called prepared call clock queues .removeDown (.removing slow true)
      (.removing slow false) { queues with down := queues.down.remove prepared.stationId }
  | canceled : prepared.downStartAfter = none →
      Called prepared call clock queues .proceed (.removing false false) .finished queues
  | proceed : Called prepared call clock queues .proceed (.removing false false)
      (.addingSlow clock) queues
  | addSlow {now : Time} : Called prepared call clock queues .addSlow (.addingSlow now)
      (.addingDown now) { queues with
        slow := addTimer queues.slow prepared.stationId call clock now prepared.slowStartAfter }
  | addDown {now : Time} : Called prepared call clock queues .addDown (.addingDown now)
      .finished { queues with
        down := addTimer queues.down prepared.stationId call clock now prepared.downStartAfter }

theorem call_cases {prepared : PreparedDetection} {call : ι} {clock : Time}
    {queues queues' : DetectionQueues ι} {m : CallMove} {s s' : CallState}
    (h : m.apply prepared call clock queues s = some (s', queues')) :
    Called prepared call clock queues m s s' queues' := by
  rw [CallMove.apply.eq_def] at h
  split at h
  · cases h
    exact .start
  · cases h
    exact .removeSlow
  · cases h
    exact .removeDown
  · split at h
    · cases h
      exact .canceled rfl
    · cases h
      exact .proceed
  · cases h
    exact .addSlow
  · cases h
    exact .addDown
  · cases h

/-- What the call has read of the clock is not in the future. -/
def CallState.ReadBy (clock : Time) : CallState → Prop
  | .addingSlow now | .addingDown now => now ≤ clock
  | _ => True

theorem CallState.ReadBy.mono {clock clock' : Time} {s : CallState} (h : s.ReadBy clock)
    (hle : clock ≤ clock') : s.ReadBy clock' := by
  cases s with
  | addingSlow now => exact le_trans h hle
  | addingDown now => exact le_trans h hle
  | _ => trivial

section

variable {prepared : PreparedDetection} {call : ι} {clock : Time}
  {queues queues' : DetectionQueues ι} {m : CallMove} {s s' : CallState}

theorem Called.readBy (h : Called prepared call clock queues m s s' queues')
    (hs : s.ReadBy clock) : s'.ReadBy clock := by
  cases h with
  | proceed => exact le_refl clock
  | addSlow => exact hs
  | _ => trivial

/-- A request leaves the down queue alone, or removes the timer of the station, or adds it. -/
theorem Called.down (h : Called prepared call clock queues m s s' queues') :
    queues'.down = queues.down ∨ queues'.down = queues.down.remove prepared.stationId ∨
      ∃ now, s = .addingDown now ∧ queues'.down
        = addTimer queues.down prepared.stationId call clock now prepared.downStartAfter := by
  cases h with
  | removeDown => exact .inr (.inl rfl)
  | addDown => exact .inr (.inr ⟨_, rfl, rfl⟩)
  | _ => exact .inl rfl

end

/-- A timer that is added comes no earlier than it should. -/
theorem le_delayed {clock now t : Time} (h : now ≤ clock) : t ≤ clock + max 0 (t - now) := by
  have := le_max_right 0 (t - now)
  linarith

end RwServer
