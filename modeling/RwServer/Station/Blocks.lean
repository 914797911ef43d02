import Mathlib
import RwServer.Station.Chain
import RwServer.Station.Stretches

/-!
# Blocks of the state log

Every entry of the state log carries a block id. A cycle that finds the station `UP` goes on with
the block of the open entry, a split leaves both parts in one block, and everything else draws a
fresh id. The intent is that a block is a contiguous stretch of one state, and
`assignDowntimeReason` relies on it: it gives the reason to all the entries of the block, "the
entire contiguous downtime period".

One half holds always: the entries of a block have one state (`OneState`). The other half fails
where `transitionToDown` converts an entry that starts where a downtime ends. A lone cycle between
two downtimes does this: its `UP` entry becomes a downtime, adjoins the downtime before, and has a
block of its own. `blocks_contiguous` says which steps keep blocks and contiguous stretches the
same.
-/

open scoped List

namespace RwServer

open Timeline Relational Transition

/-! ## Runs -/

/-- The block id an operation draws. -/
def StateOp.freshBlockId? : StateOp → Option Uuid
  | .transitionToUp _ freshBlockId _ _ => some freshBlockId
  | .completeImmediate _ freshBlockId _ _ _ => some freshBlockId
  | .transitionToSlow _ freshBlockId _ => some freshBlockId
  | .transitionToDown _ _ freshBlockId _ => some freshBlockId
  | .splitDownEntry _ _ _ _ => none

/-- `randomUUID` draws an id that no row has. -/
def DrawsNew (log : StateLog) (op : StateOp) : Prop :=
  ∀ block ∈ op.freshBlockId?, ∀ e ∈ log.rows, e.blockId ≠ block

instance (log : StateLog) (op : StateOp) : Decidable (DrawsNew log op) :=
  inferInstanceAs (Decidable (∀ block ∈ op.freshBlockId?, _))

/-- The state log, and the time of the last operation. -/
structure TimedLog where
  log : StateLog
  clock : Time

/-- An operation at a time that does not lie before the last one. -/
def blockStep (stationId : Uuid) (op : StateOp) (s : TimedLog) : Option TimedLog :=
  if s.clock ≤ op.time ∧ DrawsNew s.log op then
    (op.apply stationId s.log).map (⟨·, op.time⟩)
  else none

/-- No cycle ends a downtime at the very time at which an `UP` entry ends. -/
def EndsDowntimeApart (stationId : Uuid) (log : StateLog) (timestamp : Time) : Prop :=
  ∀ current ∈ findOpenStateEntry log stationId, current.state = .down →
    ∀ e ∈ log.live stationId, e.state = .up → e.endTime ≠ some timestamp

/-- No entry that starts where a downtime ends is converted. -/
def ConvertsApart (stationId : Uuid) (log : StateLog) : Prop :=
  ∀ current ∈ findOpenStateEntry log stationId, current.state = .up →
    ∀ e ∈ log.live stationId, e.state = .down → e.endTime ≠ some current.startTime

instance (stationId : Uuid) (log : StateLog) (timestamp : Time) :
    Decidable (EndsDowntimeApart stationId log timestamp) :=
  inferInstanceAs (Decidable (∀ current ∈ findOpenStateEntry log stationId, _ → _))

instance (stationId : Uuid) (log : StateLog) : Decidable (ConvertsApart stationId log) :=
  inferInstanceAs (Decidable (∀ current ∈ findOpenStateEntry log stationId, _ → _))

/-- The operations that keep blocks and contiguous stretches the same. -/
def KeepsBlocks (stationId : Uuid) (s : TimedLog) : StateOp → Prop
  | .transitionToUp _ _ timestamp _ => EndsDowntimeApart stationId s.log timestamp
  | .completeImmediate _ _ timestamp _ _ => EndsDowntimeApart stationId s.log timestamp
  | .transitionToDown _ _ _ _ => ConvertsApart stationId s.log
  | .transitionToSlow _ _ _ => True
  | .splitDownEntry _ _ _ _ => True

instance (stationId : Uuid) (s : TimedLog) : (op : StateOp) → Decidable (KeepsBlocks stationId s op)
  | .transitionToUp _ _ timestamp _ =>
    inferInstanceAs (Decidable (EndsDowntimeApart stationId s.log timestamp))
  | .completeImmediate _ _ timestamp _ _ =>
    inferInstanceAs (Decidable (EndsDowntimeApart stationId s.log timestamp))
  | .transitionToDown _ _ _ _ => inferInstanceAs (Decidable (ConvertsApart stationId s.log))
  | .transitionToSlow _ _ _ => inferInstanceAs (Decidable True)
  | .splitDownEntry _ _ _ _ => inferInstanceAs (Decidable True)

/-- Two consecutive live entries of the station are in one block exactly when they have one state.
-/
def BlocksContiguous (stationId : Uuid) (log : StateLog) : Prop :=
  ∀ e ∈ log.live stationId, ∀ f ∈ log.live stationId, e.endTime = some f.startTime →
    (e.blockId = f.blockId ↔ e.state = f.state)

theorem blocksContiguous_iff {stationId : Uuid} {log : StateLog} :
    BlocksContiguous stationId log ↔ Contiguous (log.stretches stationId) := by
  constructor
  · intro h s hs s' hs'
    obtain ⟨e, he, rfl⟩ := StateLog.mem_stretches.mp hs
    obtain ⟨f, hf, rfl⟩ := StateLog.mem_stretches.mp hs'
    exact h e he f hf
  · exact fun h e he f hf ↦ h e.stretch (StateLog.mem_stretches.mpr ⟨e, he, rfl⟩) f.stretch
      (StateLog.mem_stretches.mpr ⟨f, hf, rfl⟩)

/-- What every run keeps: the timeline is a tiling behind the clock, and a block has one state. -/
structure Blocked (stationId : Uuid) (s : TimedLog) : Prop where
  chained : Chained stationId s.clock s.log
  oneState : OneState (s.log.stretches stationId)

section

variable {stationId : Uuid} {s s' : TimedLog}

/-- Where nothing is open the first stretch is alone. -/
theorem single_stretch {log log' : StateLog} {state : StationState} {timestamp : Time}
    {block : Uuid} (h : Tiling (log.timeline stationId))
    (hnone : findOpenStateEntry log stationId = none)
    (hl : log'.stretches stationId ~ ⟨⟨timestamp, none⟩, state, block⟩ :: log.stretches stationId) :
    OneState (log'.stretches stationId) ∧ Contiguous (log'.stretches stationId) := by
  rw [stretches_eq_nil h hnone] at hl
  constructor
  · refine OneState.perm hl fun x hx y hy _ ↦ ?_
    rw [List.mem_singleton.mp hx, List.mem_singleton.mp hy]
  · refine Contiguous.perm hl fun x hx y hy hadjoins ↦ ?_
    rw [List.mem_singleton.mp hx] at hadjoins
    exact absurd hadjoins (by simp [Stretch.Adjoins])

/-- The open entry started by the clock. -/
theorem start_le_of_findOpen {e : StationStateLog} (h : Chained stationId s.clock s.log)
    (hfind : findOpenStateEntry s.log stationId = some e) : e.startTime ≤ s.clock := by
  obtain ⟨hmem, hopen⟩ := findOpenStateEntry_eq_some hfind
  obtain ⟨hst, hend, hdel⟩ := isOpenOf_iff.mp hopen
  exact h.openedBy e.span
    (StateLog.mem_timeline.mpr ⟨e, StateLog.mem_live.mpr ⟨hmem, hst, hdel⟩, rfl⟩) hend

theorem blockId_ne_of_stretches {log : StateLog} {fresh : Uuid}
    (h : ∀ e ∈ log.rows, e.blockId ≠ fresh) :
    ∀ x ∈ log.stretches stationId, x.blockId ≠ fresh := by
  intro x hx
  obtain ⟨e, he, rfl⟩ := StateLog.mem_stretches.mp hx
  exact h e (StateLog.mem_live.mp he).1

/-- A condition on the live rows, read on the stretches. -/
theorem forall_stretches_iff {log : StateLog} {state : StationState} {timestamp : Time} :
    (∀ x ∈ log.stretches stationId, x.state = state → x.span.stop ≠ some timestamp) ↔
      ∀ e ∈ log.live stationId, e.state = state → e.endTime ≠ some timestamp := by
  constructor
  · exact fun h e he ↦ h e.stretch (StateLog.mem_stretches.mpr ⟨e, he, rfl⟩)
  · intro h x hx
    obtain ⟨e, he, rfl⟩ := StateLog.mem_stretches.mp hx
    exact h e he

/-- A cycle. -/
theorem Blocked.renewed {log' : StateLog} {id fresh : Uuid} {timestamp : Time}
    {jobBlobId : Option Uuid} (h : Blocked stationId s) (hle : s.clock ≤ timestamp)
    (hfresh : ∀ e ∈ s.log.rows, e.blockId ≠ fresh)
    (hrenewed : Renewed s.log id
      { stationId, startTime := timestamp, state := .up, status := .up,
        blockId := upBlockId (findOpenStateEntry s.log stationId) fresh, jobBlobId } log') :
    OneState (log'.stretches stationId) ∧ (Contiguous (s.log.stretches stationId) →
      (Contiguous (log'.stretches stationId) ↔ EndsDowntimeApart stationId s.log timestamp)) := by
  have htiling := h.chained.tiling
  rcases hrenewed.stretches with ⟨hnone, hl⟩ | ⟨e, rest, hfind, hl, hl'⟩
  · obtain ⟨hone, hcont⟩ := single_stretch htiling hnone hl
    refine ⟨hone, fun _ ↦ iff_of_true hcont fun current hcurrent ↦ ?_⟩
    rw [hnone] at hcurrent
    exact absurd hcurrent (by simp)
  · have hopen : e.stretch.span.stop = none :=
      (isOpenOf_iff.mp (findOpenStateEntry_eq_some hfind).2).2.1
    have hstart := (start_le_of_findOpen h.chained hfind).trans hle
    rw [← StateLog.map_span_stretches] at htiling
    have hnew : ∀ x ∈ s.log.stretches stationId, x.blockId ≠ fresh :=
      blockId_ne_of_stretches hfresh
    refine ⟨(h.oneState.renewed hl hnew).perm hl', fun hcontiguous ↦ ?_⟩
    rw [contiguous_perm_iff hl',
      contiguous_renewed_iff hcontiguous hl htiling hopen hstart hnew, forall_stretches_iff]
    constructor
    · intro hcond current hcurrent
      rw [Option.mem_def, hfind, Option.some_inj] at hcurrent
      exact hcurrent ▸ hcond
    · exact fun hcond ↦ hcond e hfind

/-- A station that goes down. -/
theorem Blocked.wentDown {log' : StateLog} {jobLog : List StationJobLog} {id fresh : Uuid}
    {timestamp : Time} {r : StationStateLog × Option (Time × Time)} (h : Blocked stationId s)
    (hfresh : ∀ e ∈ s.log.rows, e.blockId ≠ fresh)
    (hr : transitionToDown s.log jobLog id fresh stationId timestamp = some (log', r)) :
    OneState (log'.stretches stationId) ∧ (Contiguous (s.log.stretches stationId) →
      (Contiguous (log'.stretches stationId) ↔ ConvertsApart stationId s.log)) := by
  have hnew : ∀ x ∈ s.log.stretches stationId, x.blockId ≠ fresh := blockId_ne_of_stretches hfresh
  rcases transitionToDown_stretches hr with ⟨hnone, hl⟩ | ⟨e, hfind, hsame | hconv⟩
  · obtain ⟨hone, hcont⟩ := single_stretch h.chained.tiling hnone hl
    refine ⟨hone, fun _ ↦ iff_of_true hcont fun current hcurrent ↦ ?_⟩
    rw [hnone] at hcurrent
    exact absurd hcurrent (by simp)
  · rw [hsame.2]
    refine ⟨h.oneState, fun hcontiguous ↦ iff_of_true hcontiguous fun current hcurrent hup ↦ ?_⟩
    rw [Option.mem_def, hfind, Option.some_inj] at hcurrent
    rw [← hcurrent, hsame.1] at hup
    exact absurd hup (by simp)
  · obtain ⟨rest, hup, hl, hl'⟩ := hconv
    have hopen : e.stretch.span.stop = none :=
      (isOpenOf_iff.mp (findOpenStateEntry_eq_some hfind).2).2.1
    refine ⟨(h.oneState.converted hl hnew).perm hl', fun hcontiguous ↦ ?_⟩
    rw [contiguous_perm_iff hl', contiguous_converted_iff hcontiguous hl hopen hnew hup,
      forall_stretches_iff]
    constructor
    · intro hcond current hcurrent _
      rw [Option.mem_def, hfind, Option.some_inj] at hcurrent
      exact hcurrent ▸ hcond
    · exact fun hcond ↦ hcond e hfind hup

/-- **One operation** keeps what every run keeps, and keeps blocks contiguous exactly when it meets
the condition. -/
theorem Blocked.step {op : StateOp} (h : Blocked stationId s)
    (hstep : blockStep stationId op s = some s') :
    Blocked stationId s' ∧ (BlocksContiguous stationId s.log →
      (BlocksContiguous stationId s'.log ↔ KeepsBlocks stationId s op)) := by
  rw [blockStep] at hstep
  split at hstep
  · rename_i hguard
    obtain ⟨log', hop, rfl⟩ := Option.map_eq_some_iff.mp hstep
    suffices hkept : OneState (log'.stretches stationId) ∧ (Contiguous (s.log.stretches stationId) →
        (Contiguous (log'.stretches stationId) ↔ KeepsBlocks stationId s op)) from
      ⟨⟨h.chained.step hguard.1 hop, hkept.1⟩, fun hcontiguous ↦
        blocksContiguous_iff.trans (hkept.2 (blocksContiguous_iff.mp hcontiguous))⟩
    have htiling := h.chained.tiling
    cases op with
    | transitionToUp id fresh timestamp options =>
      obtain ⟨⟨_, r⟩, hr, rfl⟩ := Option.map_eq_some_iff.mp hop
      exact h.renewed hguard.1 (hguard.2 fresh rfl) (transitionToUp_renewed hr)
    | completeImmediate id fresh timestamp jobBlobId isSlow =>
      exact h.renewed hguard.1 (hguard.2 fresh rfl) (closeAndOpen_renewed hop)
    | transitionToSlow id fresh timestamp =>
      obtain ⟨⟨_, r⟩, hr, rfl⟩ := Option.map_eq_some_iff.mp hop
      rcases transitionToSlow_stretches hr with ⟨hnone, hl⟩ | hsame
      · obtain ⟨hone, hcont⟩ := single_stretch htiling hnone hl
        exact ⟨hone, fun _ ↦ iff_of_true hcont trivial⟩
      · rw [hsame]
        exact ⟨h.oneState, fun hcontiguous ↦ iff_of_true hcontiguous trivial⟩
    | transitionToDown jobLog id fresh timestamp =>
      obtain ⟨⟨_, r⟩, hr, rfl⟩ := Option.map_eq_some_iff.mp hop
      exact h.wentDown (hguard.2 fresh rfl) hr
    | splitDownEntry id entryId splitAt now =>
      obtain ⟨⟨_, r⟩, hr, rfl⟩ := Option.map_eq_some_iff.mp hop
      rcases splitDownEntry_stretches hr stationId with hsame | ⟨x, rest, hstart, hstop, hl, hl'⟩
      · exact ⟨h.oneState.perm hsame, fun hcontiguous ↦
          iff_of_true (hcontiguous.perm hsame) trivial⟩
      · rw [← StateLog.map_span_stretches] at htiling
        exact ⟨(h.oneState.cut hl).perm hl', fun hcontiguous ↦ iff_of_true
          ((hcontiguous.cut hl htiling hstart hstop).perm hl') trivial⟩
  · exact absurd hstep (by simp)

end

/-! ## Assigning a reason to a downtime -/

/-- The error codes of `assignDowntimeReason`. -/
inductive AssignReasonError
  | notFound
  | invalidState
  | reasonNotFound
deriving DecidableEq, Repr

def AssignReasonError.message : AssignReasonError → String
  | .notFound => "State log entry not found"
  | .invalidState => "Only DOWN entries can have a downtime reason"
  | .reasonNotFound => "Status reason not found"

def AssignReasonError.code : AssignReasonError → String
  | .notFound => "NOT_FOUND"
  | .invalidState => "INVALID_STATE"
  | .reasonNotFound => "REASON_NOT_FOUND"

/-- What an assignment answers and does: the number of rows it changed, the range whose metrics are
computed again, and whether the open entry was part of it. -/
structure AssignedReason where
  updatedCount : ℕ
  rangeStart : Time
  rangeEnd : Time
  openAffected : Bool
deriving DecidableEq, Repr

/-- The first read: the live row, which must be a `DOWN` one, and the reason, which must exist. -/
def findReasonEntry (log : StateLog) (statusReasons : List Uuid) (entryId : Uuid)
    (statusReasonId : Option Uuid) : Except AssignReasonError StationStateLog :=
  match log.rows.find? fun e ↦ e.id == entryId && e.deletedAt.isNone with
  | none => .error .notFound
  | some entry =>
    if entry.state ≠ .down then .error .invalidState
    else if statusReasonId.all (· ∈ statusReasons) then .ok entry
    else .error .reasonNotFound

/-- `{ blockId: entry.blockId, state: "DOWN", deletedAt: null }`. -/
def isDownOfBlock (blockId : Uuid) (e : StationStateLog) : Bool :=
  e.blockId == blockId && e.state == .down && e.deletedAt.isNone

/-- The range of the block: from the start of its first entry to the end of its last. -/
def blockRange (log : StateLog) (entry : StationStateLog) (now : Time) : Time × Time :=
  let blockEntries := (log.rows.filter (isDownOfBlock entry.blockId)).mergeSort
    fun a b ↦ decide (a.startTime ≤ b.startTime)
  match blockEntries.head?, blockEntries.getLast? with
  | some first, some last => (first.startTime, last.endTime.getD now)
  | _, _ => (entry.startTime, entry.endTime.getD now)

/-- `applyToBlock` is true unless the options say otherwise. -/
def assignDowntimeReason (log : StateLog) (statusReasons : List Uuid) (entryId : Uuid)
    (statusReasonId : Option Uuid) (applyToBlock : Option Bool) (now : Time) :
    Option (StateLog × Except AssignReasonError AssignedReason) :=
  match findReasonEntry log statusReasons entryId statusReasonId with
  | .error err => some (log, .error err)
  | .ok entry =>
    let block := applyToBlock.getD true
    let named : StationStateLog → Bool := fun e ↦
      if block then isDownOfBlock entry.blockId e else e.id == entryId && e.deletedAt.isNone
    (log.updateMany named fun e ↦ { e with statusReasonId }).map fun log' ↦
      let range := if block then blockRange log' entry now
        else (entry.startTime, entry.endTime.getD now)
      let openAffected := if block then log'.rows.any fun e ↦
          isOpenOf entry.stationId e && e.blockId == entry.blockId
        else entry.endTime.isNone
      (log', .ok ⟨log.rows.countP named, range.1, range.2, openAffected⟩)

/-- Two `DOWN` entries of the station, one of which starts where the other ends. -/
def DownNeighbours (stationId : Uuid) (log : StateLog) (e f : StationStateLog) : Prop :=
  (e ∈ log.live stationId ∧ e.state = .down) ∧ (f ∈ log.live stationId ∧ f.state = .down) ∧
    (e.endTime = some f.startTime ∨ f.endTime = some e.startTime)

/-- The contiguous downtime of an entry. -/
def DowntimePeriod (stationId : Uuid) (log : StateLog) : StationStateLog → StationStateLog → Prop :=
  Relation.ReflTransGen (DownNeighbours stationId log)

/-- A reason assigned to an entry of the station, applied to its block, reaches the entire
contiguous downtime period. -/
def AssignsPeriods (stationId : Uuid) (log : StateLog) : Prop :=
  ∀ (statusReasons : List Uuid) (entry : StationStateLog) (statusReasonId : Option Uuid)
    (applyToBlock : Option Bool) (now : Time) (log' : StateLog) (assigned : AssignedReason),
    entry ∈ log.live stationId → applyToBlock ≠ some false →
    assignDowntimeReason log statusReasons entry.id statusReasonId applyToBlock now =
      some (log', .ok assigned) →
    ∀ f, DowntimePeriod stationId log entry f → { f with statusReasonId } ∈ log'.rows

theorem findReasonEntry_eq_ok {log : StateLog} {statusReasons : List Uuid} {entryId : Uuid}
    {statusReasonId : Option Uuid} {entry : StationStateLog}
    (h : findReasonEntry log statusReasons entryId statusReasonId = .ok entry) :
    entry ∈ log.rows ∧ entry.id = entryId ∧ entry.deletedAt = none ∧ entry.state = .down := by
  rw [findReasonEntry] at h
  cases hfind : log.rows.find? fun e ↦ e.id == entryId && e.deletedAt.isNone with
  | none =>
    rw [hfind] at h
    cases h
  | some e =>
    rw [hfind] at h
    dsimp only at h
    split at h
    · cases h
    · rename_i hdown
      split at h
      · cases h
        have hp := List.find?_some hfind
        rw [Bool.and_eq_true, beq_iff_eq, Option.isNone_iff_eq_none] at hp
        exact ⟨List.mem_of_find?_eq_some hfind, hp.1, hp.2, not_not.mp hdown⟩
      · cases h

/-- Where blocks are contiguous, the entries of a downtime are in one block. -/
theorem blockId_eq_of_downtimePeriod {stationId : Uuid} {log : StateLog}
    (h : BlocksContiguous stationId log) {entry f : StationStateLog}
    (hentry : entry ∈ log.live stationId ∧ entry.state = .down)
    (hperiod : DowntimePeriod stationId log entry f) :
    (f ∈ log.live stationId ∧ f.state = .down) ∧ f.blockId = entry.blockId := by
  induction hperiod with
  | refl => exact ⟨hentry, rfl⟩
  | tail _ hneighbours ih =>
    obtain ⟨⟨he, hedown⟩, ⟨hf, hfdown⟩, hadjoins⟩ := hneighbours
    refine ⟨⟨hf, hfdown⟩, Eq.trans ?_ ih.2⟩
    rcases hadjoins with hadjoins | hadjoins
    · exact ((h _ he _ hf hadjoins).mpr (hedown.trans hfdown.symm)).symm
    · exact (h _ hf _ he hadjoins).mpr (hfdown.trans hedown.symm)

theorem BlocksContiguous.assignsPeriods {stationId : Uuid} {log : StateLog}
    (h : BlocksContiguous stationId log) : AssignsPeriods stationId log := by
  intro statusReasons entry statusReasonId applyToBlock now log' assigned hentry happly hassign f
    hperiod
  rw [assignDowntimeReason] at hassign
  cases hfind : findReasonEntry log statusReasons entry.id statusReasonId with
  | error err =>
    rw [hfind] at hassign
    cases hassign
  | ok found =>
    rw [hfind] at hassign
    obtain ⟨hmem, hid, -, hdown⟩ := findReasonEntry_eq_ok hfind
    obtain rfl : found = entry := log.eq_of_key_eq hmem (StateLog.mem_live.mp hentry).1 hid
    obtain ⟨log₁, hupdate, hassign⟩ := Option.map_eq_some_iff.mp hassign
    cases hassign
    have hblock : applyToBlock.getD true = true := by
      cases applyToBlock with
      | none => rfl
      | some b =>
        cases b with
        | true => rfl
        | false => exact absurd rfl happly
    obtain ⟨⟨hf, hfdown⟩, hfblock⟩ := blockId_eq_of_downtimePeriod h ⟨hentry, hdown⟩ hperiod
    rw [StateLog.mem_live] at hf
    -- the update names the entries of the block
    have hmild : Table.Mild stateLogSchema fun e ↦ { e with statusReasonId } :=
      mild_of_keeps (fun _ ↦ rfl) (fun _ ↦ rfl) fun _ he ↦ he
    rw [Table.rows_of_updateMany hmild hupdate, List.mem_map]
    refine ⟨f, hf.1, if_pos ?_⟩
    rw [if_pos hblock, isDownOfBlock, hfblock, hfdown, hf.2.2]
    simp

/-! ## Every run -/

/-- **Blocks are the contiguous stretches of one state**, and a reason reaches the entire downtime,
in a run in which no entry that starts where a downtime ends is converted and no cycle ends a
downtime at the very time at which an `UP` entry ends; and a run in which blocks are contiguous
after every step is one of these. -/
theorem blocks_contiguous {stationId : Uuid} {log₀ : StateLog} {clock : Time} {ops : List StateOp}
    {s : TimedLog} (hlive : log₀.live stationId = []) :
    (Run (blockStep stationId) (KeepsBlocks stationId) ⟨log₀, clock⟩ ops s →
      BlocksContiguous stationId s.log ∧ AssignsPeriods stationId s.log) ∧
    (Run (blockStep stationId) (KeepsBlocks stationId) ⟨log₀, clock⟩ ops s ↔
      Run (blockStep stationId)
        (fun s op ↦ ∀ s', blockStep stationId op s = some s' → BlocksContiguous stationId s'.log)
        ⟨log₀, clock⟩ ops s) := by
  have hblocked : Blocked stationId ⟨log₀, clock⟩ := by
    have hnil : log₀.timeline stationId = [] := by rw [StateLog.timeline, hlive, List.map_nil]
    have hnone : log₀.stretches stationId = [] := congrArg (List.map _) hlive
    refine ⟨⟨hnil ▸ tiling_nil, ?_⟩, ?_⟩
    · exact fun x hx ↦ absurd (hnil ▸ hx) (by simp)
    · exact fun x hx ↦ absurd (hnone ▸ hx) (by simp)
  have hcontiguous : BlocksContiguous stationId log₀ :=
    fun e he ↦ absurd (hlive ▸ he) (by simp)
  constructor
  · intro hrun
    suffices hkept : Blocked stationId s ∧ BlocksContiguous stationId s.log from
      ⟨hkept.2, hkept.2.assignsPeriods⟩
    induction hrun with
    | nil => exact ⟨hblocked, hcontiguous⟩
    | snoc _ hok hstep ih =>
      obtain ⟨hblocked', hiff⟩ := ih.1.step hstep
      exact ⟨hblocked', (hiff ih.2).mpr hok⟩
  · exact run_iff_run_keeping ⟨hblocked, hcontiguous⟩ (fun _ _ _ h hstep ↦ (h.step hstep).1)
      fun _ _ _ h hcont hstep ↦ (h.step hstep).2 hcont

/-- A split downtime after a cycle, and a cycle that ends it. -/
theorem blocks_contiguous_split : ∃ s : TimedLog,
    (s.log.live 20).map StationStateLog.blockId = [2, 2, 4] ∧
      BlocksContiguous 20 s.log ∧ AssignsPeriods 20 s.log := by
  let ops : List StateOp := [.transitionToUp 1 1 0 {}, .transitionToDown [] 2 2 900000,
    .splitDownEntry 3 1 400000 900000, .transitionToUp 4 4 1000000 {}]
  have hexecute : (execute (blockStep 20) (KeepsBlocks 20) ops ⟨default, 0⟩).any (fun s ↦
      decide ((s.log.live 20).map StationStateLog.blockId = [2, 2, 4])) = true := by
    decide +kernel
  obtain ⟨s, hs, hfacts⟩ := (Option.any_eq_true _ _).mp hexecute
  have hlive : (default : StateLog).live 20 = [] := rfl
  exact ⟨s, of_decide_eq_true hfacts, (blocks_contiguous hlive).1 (run_of_execute hs)⟩

/-- A lone cycle between two downtimes: it becomes a downtime itself, in a block of its own. -/
theorem not_blocks_contiguous : ¬ ∀ (ops : List StateOp) (s : TimedLog),
    Run (blockStep 20) (fun _ _ ↦ True) ⟨default, 0⟩ ops s → BlocksContiguous 20 s.log := by
  intro hall
  let ops : List StateOp := [.transitionToUp 1 1 0 {}, .transitionToDown [] 2 2 900000,
    .transitionToUp 3 3 1000000 {}, .transitionToDown [] 4 4 1900000]
  have hexecute : (execute (blockStep 20) (fun _ _ ↦ True) ops ⟨default, 0⟩).any (fun s ↦
      decide (∃ e ∈ s.log.live 20, ∃ f ∈ s.log.live 20, e.endTime = some f.startTime ∧
        e.blockId ≠ f.blockId ∧ e.state = f.state)) = true := by
    decide +kernel
  obtain ⟨s, hs, hfacts⟩ := (Option.any_eq_true _ _).mp hexecute
  obtain ⟨e, he, f, hf, hend, hblock, hstate⟩ :
    ∃ e ∈ s.log.live 20, ∃ f ∈ s.log.live 20, e.endTime = some f.startTime ∧
      e.blockId ≠ f.blockId ∧ e.state = f.state := of_decide_eq_true hfacts
  exact hblock ((hall ops s (run_of_execute hs) e he f hf hend).mpr hstate)

end RwServer
