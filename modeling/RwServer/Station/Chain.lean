import Mathlib
import RwServer.Foundation.Run
import RwServer.Station.Transitions

/-!
# The state log is one gap-free chain

A run is a sequence of calls of the state operations of one station, each of them a transaction
that commits. Rows of other stations, and calls that the database rolls back, play no part. When
the times the calls are given never go back, the live rows of the station form a gap-free chain
with one open row at its end: the invariant is that the timeline is a tiling whose open span was
opened by the latest of these times.
-/

open scoped List

namespace RwServer

open Timeline Relational Transition

/-- A call of a state operation: the ids it draws, its arguments, and what it reads elsewhere. -/
inductive StateOp
  | transitionToUp (id freshBlockId : Uuid) (timestamp : Time) (options : TransitionToUpOptions)
  /-- The close and open made inline by `completeImmediate`. -/
  | completeImmediate (id freshBlockId : Uuid) (timestamp : Time) (jobBlobId : Uuid)
      (isSlow : Bool)
  | transitionToSlow (id freshBlockId : Uuid) (timestamp : Time)
  | transitionToDown (jobLog : List StationJobLog) (id freshBlockId : Uuid) (timestamp : Time)
  | splitDownEntry (id entryId : Uuid) (splitAt now : Time)

namespace StateOp

/-- The timestamp the call is given; for a split the `now` it reads. -/
def time : StateOp → Time
  | transitionToUp _ _ timestamp _ => timestamp
  | completeImmediate _ _ timestamp _ _ => timestamp
  | transitionToSlow _ _ timestamp => timestamp
  | transitionToDown _ _ _ timestamp => timestamp
  | splitDownEntry _ _ _ now => now

/-- The call on a station, as a transaction on the log. -/
def apply (stationId : Uuid) : StateOp → StateLog → Option StateLog
  | transitionToUp id freshBlockId timestamp options, log =>
    (RwServer.transitionToUp log id freshBlockId stationId timestamp options).map Prod.fst
  | completeImmediate id freshBlockId timestamp jobBlobId isSlow, log =>
    completeImmediateState log id freshBlockId stationId timestamp jobBlobId isSlow
  | transitionToSlow id freshBlockId timestamp, log =>
    (RwServer.transitionToSlow log id freshBlockId stationId timestamp).map Prod.fst
  | transitionToDown jobLog id freshBlockId timestamp, log =>
    (RwServer.transitionToDown log jobLog id freshBlockId stationId timestamp).map Prod.fst
  | splitDownEntry id entryId splitAt now, log =>
    (RwServer.splitDownEntry log id entryId splitAt now).map Prod.fst

/-- Every state operation does one piece of recording at its time. -/
theorem recorded {stationId : Uuid} {op : StateOp} {log log' : StateLog}
    (h : op.apply stationId log = some log') :
    Recorded op.time (log.timeline stationId) (log'.timeline stationId) := by
  cases op with
  | transitionToUp id freshBlockId timestamp options =>
    obtain ⟨⟨_, r⟩, hr, rfl⟩ := Option.map_eq_some_iff.mp h
    exact .reopen (transitionToUp_timeline hr)
  | completeImmediate id freshBlockId timestamp jobBlobId isSlow =>
    exact .reopen (closeAndOpen_timeline h)
  | transitionToSlow id freshBlockId timestamp =>
    obtain ⟨⟨_, r⟩, hr, rfl⟩ := Option.map_eq_some_iff.mp h
    exact transitionToSlow_timeline hr
  | transitionToDown jobLog id freshBlockId timestamp =>
    obtain ⟨⟨_, r⟩, hr, rfl⟩ := Option.map_eq_some_iff.mp h
    exact transitionToDown_timeline hr
  | splitDownEntry id entryId splitAt now =>
    obtain ⟨⟨_, r⟩, hr, rfl⟩ := Option.map_eq_some_iff.mp h
    exact splitDownEntry_timeline hr stationId

end StateOp

/-! ## The invariant over runs -/

/-- The timeline of the station is a tiling, and its open span was opened by `clock`. -/
structure Chained (stationId : Uuid) (clock : Time) (log : StateLog) : Prop where
  tiling : Tiling (log.timeline stationId)
  openedBy : OpenedBy clock (log.timeline stationId)

/-- One operation at a time that does not lie before the clock. -/
theorem Chained.step {stationId : Uuid} {clock : Time} {log log' : StateLog} {op : StateOp}
    (h : Chained stationId clock log) (hle : clock ≤ op.time)
    (hop : op.apply stationId log = some log') : Chained stationId op.time log' := by
  obtain ⟨ht, ho⟩ := (StateOp.recorded hop).tiling h.tiling (h.openedBy.mono hle)
  exact ⟨ht, ho⟩

/-- A run of operations whose times do not go back, from a log chained by the time of the first
one. -/
theorem Chained.run {stationId : Uuid} {clock : Time} {log₀ log : StateLog} {ops : List StateOp}
    (h₀ : Chained stationId clock log₀)
    (hrun : Run (StateOp.apply stationId) (fun _ _ ↦ True) log₀ ops log)
    (htime : (clock :: ops.map StateOp.time).Pairwise (· ≤ ·)) :
    Chained stationId ((ops.map StateOp.time).getLast?.getD clock) log := by
  induction hrun with
  | nil => exact h₀
  | @snoc ops log op log' _ _ hop ih =>
    rw [List.map_append, List.map_singleton, ← List.cons_append, List.pairwise_append] at htime
    have hchained := ih htime.1
    rw [List.map_append, List.map_singleton, List.getLast?_concat, Option.getD_some]
    refine hchained.step (htime.2.2 _ ?_ _ (List.mem_singleton_self _)) hop
    rcases h : (ops.map StateOp.time).getLast? with _ | t
    · exact List.mem_cons_self
    · exact List.mem_cons_of_mem _ (List.mem_of_getLast? h)

/-! ## Chains of rows -/

/-- The rows, in this order, form a gap-free chain whose last row is the open one. -/
structure StateChain (rows : List StationStateLog) : Prop where
  sorted : rows.Pairwise fun a b ↦ a.startTime ≤ b.startTime
  start_le_end : ∀ e ∈ rows, ∀ t ∈ e.endTime, e.startTime ≤ t
  linked : rows.IsChain fun a b ↦ a.endTime = some b.startTime
  open_iff_last : ∀ e ∈ rows, e.endTime = none ↔ rows.getLast? = some e

/-- A chain of spans, read on the rows that record them. -/
theorem stateChain_of_chain {rows : List StationStateLog}
    (h : Chain (rows.map StationStateLog.span)) : StateChain rows where
  sorted := (List.pairwise_map (R := fun s s' : Span Time ↦ s.start ≤ s'.start)).mp h.sorted
  start_le_end e he := h.wellFormed e.span (List.mem_map_of_mem he)
  linked := (List.isChain_map _).mp h.linked
  open_iff_last e he := by
    constructor
    · intro hopen
      obtain ⟨p, q, rfl⟩ := List.append_of_mem he
      cases q with
      | nil => rw [List.getLast?_append_cons, List.getLast?_singleton]
      | cons a q =>
        -- an entry with a successor is closed
        have hlink := (List.isChain_map _).mp h.linked
        rw [List.isChain_append_cons_cons] at hlink
        rw [StationStateLog.span_stop, hopen] at hlink
        exact absurd hlink.2.1 (by simp)
    · intro hlast
      exact h.openEnd e.span (by rw [List.getLast?_map, hlast]; rfl)

/-- A timeline that is a tiling comes from rows that form a chain when put in the right order. -/
theorem exists_stateChain {rows : List StationStateLog}
    (h : Tiling (rows.map StationStateLog.span)) : ∃ c, c ~ rows ∧ StateChain c := by
  obtain ⟨spans, hperm, hchain⟩ := h
  have hrel : List.Forall₂ (fun s e ↦ StationStateLog.span e = s)
      (rows.map StationStateLog.span) rows :=
    List.forall₂_map_left_iff.mpr (List.forall₂_same.mpr fun _ _ ↦ rfl)
  obtain ⟨c, hc, hcrows⟩ := List.perm_comp_forall₂ hperm hrel
  have hspans : c.map StationStateLog.span = spans :=
    List.forall₂_eq_eq_eq ▸ List.forall₂_map_left_iff.mpr (hc.flip.imp fun _ _ h ↦ h)
  exact ⟨c, hcrows, stateChain_of_chain (hspans ▸ hchain)⟩

/-- The live rows of the station form a gap-free chain when put in the right order. -/
def GapFree (log : StateLog) (stationId : Uuid) : Prop :=
  ∃ c, c ~ log.live stationId ∧ StateChain c

theorem chain_of_stateChain {rows : List StationStateLog} (h : StateChain rows) :
    Chain (rows.map StationStateLog.span) where
  wellFormed s hs := by
    obtain ⟨e, he, rfl⟩ := List.mem_map.mp hs
    exact h.start_le_end e he
  linked := (List.isChain_map _).mpr h.linked
  openEnd s hs := by
    rw [List.getLast?_map, Option.mem_def, Option.map_eq_some_iff] at hs
    obtain ⟨e, he, rfl⟩ := hs
    exact (h.open_iff_last e (List.mem_of_getLast? he)).mpr he

theorem GapFree.tiling {log : StateLog} {stationId : Uuid} (h : GapFree log stationId) :
    Tiling (log.timeline stationId) := by
  obtain ⟨c, hc, hchain⟩ := h
  exact ⟨c.map StationStateLog.span, hc.map _, chain_of_stateChain hchain⟩

/-- **The live entries of a station always form one gap-free chain**: after any run of state
operations from a log without live entries of the station, with times that never go back, they can
be put in an order in which they are sorted by start, every end is the next start and exactly the
last entry is open. They are pairwise disjoint, and cover everything from the first start on. -/
theorem stateLog_chain {stationId : Uuid} {log₀ log : StateLog} {ops : List StateOp}
    (hfresh : log₀.live stationId = [])
    (hrun : Run (StateOp.apply stationId) (fun _ _ ↦ True) log₀ ops log)
    (htime : (ops.map StateOp.time).Pairwise (· ≤ ·)) :
    GapFree log stationId ∧
      (log.live stationId).Pairwise (fun a b ↦ a.span.Apart b.span) ∧
      ∀ e ∈ log.live stationId, ∀ t, e.startTime ≤ t →
        ∃ e' ∈ log.live stationId, e'.span.Covers t := by
  obtain ⟨clock, hclock⟩ : ∃ clock, (clock :: ops.map StateOp.time).Pairwise (· ≤ ·) := by
    cases hops : ops.map StateOp.time with
    | nil => exact ⟨0, List.pairwise_singleton _ _⟩
    | cons t ts =>
      rw [hops] at htime
      refine ⟨t, List.pairwise_cons.mpr ⟨?_, htime⟩⟩
      intro t' ht'
      rcases List.mem_cons.mp ht' with rfl | ht'
      · exact le_rfl
      · exact (List.pairwise_cons.mp htime).1 t' ht'
  have hnil : log₀.timeline stationId = [] := by rw [StateLog.timeline, hfresh, List.map_nil]
  have h₀ : Chained stationId clock log₀ := by
    constructor <;> rw [hnil]
    · exact tiling_nil
    · exact fun s hs ↦ absurd hs (by simp)
  have htiling := (h₀.run hrun hclock).tiling
  have htiles := htiling.tiles
  refine ⟨exists_stateChain htiling, List.pairwise_map.mp htiles.apart, ?_⟩
  intro e he t ht
  obtain ⟨s, hs, hcov⟩ := htiles.gapless e.span (List.mem_map_of_mem he) t ht
  obtain ⟨e', he', rfl⟩ := StateLog.mem_timeline.mp hs
  exact ⟨e', he', hcov⟩

/-- A first cycle, a downtime split in the middle, and the cycle that ends it. -/
def splitDowntimeRun : List StateOp :=
  [.transitionToUp 1 1 0 {}, .transitionToDown [] 2 2 900000, .splitDownEntry 3 1 400000 900000,
    .completeImmediate 4 4 900000 7 true]

theorem stateLog_chain_splitDowntimeRun :
    ∃ log : StateLog,
      log.timeline 10 = [⟨0, some 400000⟩, ⟨400000, some 900000⟩, ⟨900000, none⟩] ∧
      GapFree log 10 ∧
      (log.live 10).Pairwise (fun a b ↦ a.span.Apart b.span) ∧
      ∀ e ∈ log.live 10, ∀ t, e.startTime ≤ t → ∃ e' ∈ log.live 10, e'.span.Covers t := by
  have hexec : (execute (StateOp.apply 10) (fun _ _ ↦ True) splitDowntimeRun default).map
      (·.timeline 10) = some [⟨0, some 400000⟩, ⟨400000, some 900000⟩, ⟨900000, none⟩] := by
    decide
  obtain ⟨log, hlog, htimeline⟩ := Option.map_eq_some_iff.mp hexec
  have hfresh : (default : StateLog).live 10 = [] := rfl
  exact ⟨log, htimeline, stateLog_chain hfresh (run_of_execute hlog) (by decide)⟩

end RwServer

