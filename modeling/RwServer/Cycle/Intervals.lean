import RwServer.Cycle.Effects
import RwServer.Foundation.Run

/-!
# The intervals of immediate cycles

Live and replayed immediate completions of one station, one after the other. The start of each new
cycle is the greatest end stored so far, so whatever the timestamps are, an earlier cycle ends by
the start of every later one. A cycle that is completed with an older timestamp than a stored one
therefore ends before it starts: the intervals are well formed exactly when the timestamps never go
back (`immediateCycles_iff`).
-/

namespace RwServer

open Timeline Relational Transition ReadCommitted

/-- The stretch of time a cycle takes. -/
def Cycle.span (c : Cycle) : Span Time := ⟨c.start, c.cycleEnd⟩

/-- The stored cycles of a station, in the order in which they were inserted. -/
def stationCycles (db : Database) (stationId : Uuid) : List Cycle :=
  db.cycles.rows.filter (·.stationId == stationId)

/-- A new cycle of the station is its last one. -/
theorem stationCycles_of_insert {db db' : Database} {stationId : Uuid} {c : Cycle}
    (hc : c.stationId = stationId) (h : db'.cycles.rows = db.cycles.rows ++ [c]) :
    stationCycles db' stationId = stationCycles db stationId ++ [c] := by
  rw [stationCycles, h, List.filter_append, List.filter_cons_of_pos (by rw [hc, beq_self_eq_true]),
    List.filter_nil, stationCycles]

/-- A call of an immediate strategy. -/
inductive ImmediateCall
  | live (args : StrategyArgs)
  | replayed (args : StrategyArgs)
deriving DecidableEq

namespace ImmediateCall

def args : ImmediateCall → StrategyArgs
  | live args => args
  | replayed args => args

def timestamp (call : ImmediateCall) : Time := call.args.timestamp

/-- The call, run alone; `none` when it is rolled back. -/
def apply (call : ImmediateCall) (db : Database) : Option Database :=
  match call with
  | live args => ((Tx.completeImmediate args).alone store db).map Prod.fst
  | replayed args => ((Tx.completeImmediateReplay args).alone store db).map Prod.fst

/-- Both strategies store the same cycle. -/
theorem cycles_of_apply {call : ImmediateCall} {db db' : Database}
    (h : call.apply db = some db') : db'.cycles.rows = db.cycles.rows ++
      [call.args.immediateCycle (prevCycleEnd db call.args.stationId)] := by
  cases call with
  | live args =>
    obtain ⟨⟨_, r⟩, hr, rfl⟩ := Option.map_eq_some_iff.mp h
    obtain ⟨cycles, log, batch, buckets, hcycles, -, -, -, rfl⟩ := alone_immediateLocked hr
    exact Table.rows_of_insert hcycles
  | replayed args =>
    obtain ⟨⟨_, r⟩, hr, rfl⟩ := Option.map_eq_some_iff.mp h
    obtain ⟨cycles, batch, hcycles, -, rfl⟩ := alone_immediateReplayLocked hr
    exact Table.rows_of_insert hcycles

end ImmediateCall

/-! ## The previous end -/

/-- The greatest end of some cycles. -/
def lastEnd (cycles : List Cycle) : Option Time := (cycles.filterMap Cycle.cycleEnd).max?

theorem prevCycleEnd_eq (db : Database) (stationId : Uuid) :
    prevCycleEnd db stationId = lastEnd (stationCycles db stationId) := rfl

/-- No cycle ends after the last end. -/
theorem le_lastEnd {cycles : List Cycle} {c : Cycle} {t : Time} (hc : c ∈ cycles)
    (ht : c.cycleEnd = some t) : ∃ m, lastEnd cycles = some m ∧ t ≤ m := by
  have hmem : t ∈ cycles.filterMap Cycle.cycleEnd := List.mem_filterMap.mpr ⟨c, hc, ht⟩
  cases hlast : lastEnd cycles with
  | none =>
    rw [lastEnd, List.max?_eq_none_iff] at hlast
    rw [hlast] at hmem
    exact absurd hmem (by simp)
  | some m =>
    rw [lastEnd, List.max?_eq_some_iff] at hlast
    exact ⟨m, rfl, hlast.2 t hmem⟩

/-- The last end is the end of a cycle. -/
theorem exists_of_lastEnd {cycles : List Cycle} {m : Time} (h : lastEnd cycles = some m) :
    ∃ c ∈ cycles, c.cycleEnd = some m := by
  rw [lastEnd, List.max?_eq_some_iff] at h
  exact List.mem_filterMap.mp h.1

/-! ## Runs -/

/-- What the stored cycles say about the timestamps they were completed with. -/
structure CompletedAt (timestamps : List Time) (cycles : List Cycle) : Prop where
  ends : cycles.map Cycle.cycleEnd = timestamps.map some
  after : cycles.Pairwise fun a b ↦ ∀ t ∈ a.cycleEnd, t ≤ b.start
  wellFormed : timestamps.Pairwise (· ≤ ·) → ∀ c ∈ cycles, ∀ t ∈ c.cycleEnd, c.start ≤ t

theorem CompletedAt.step {timestamps : List Time} {stationId : Uuid} {db : Database}
    {args : StrategyArgs} (h : CompletedAt timestamps (stationCycles db stationId)) :
    CompletedAt (timestamps ++ [args.timestamp])
      (stationCycles db stationId ++ [args.immediateCycle (prevCycleEnd db stationId)]) where
  ends := by
    rw [List.map_append, List.map_append, h.ends]
    rfl
  after := by
    rw [List.pairwise_append]
    refine ⟨h.after, List.pairwise_singleton _ _, ?_⟩
    intro a ha b hb t ht
    obtain ⟨m, hm, hle⟩ := le_lastEnd ha ht
    rw [List.mem_singleton.mp hb, prevCycleEnd_eq, hm]
    exact hle
  wellFormed hsorted c hc t ht := by
    rw [List.pairwise_append] at hsorted
    rcases List.mem_append.mp hc with hc | hc
    · exact h.wellFormed hsorted.1 c hc t ht
    · rw [List.mem_singleton.mp hc] at ht ⊢
      have htime : args.timestamp = t := Option.some_inj.mp ht
      cases hprev : prevCycleEnd db stationId with
      | none => exact htime.le
      | some m =>
        -- the previous end is one of the earlier timestamps
        obtain ⟨a, ha, haend⟩ := exists_of_lastEnd hprev
        have hmem : some m ∈ timestamps.map some := by
          rw [← h.ends, ← haend]
          exact List.mem_map_of_mem ha
        obtain ⟨m', hm', hmm'⟩ := List.mem_map.mp hmem
        rw [← Option.some_inj.mp hmm', ← htime]
        exact hsorted.2.2 m' hm' _ (List.mem_singleton_self _)

theorem completedAt_of_run {stationId : Uuid} {db₀ db : Database} {calls : List ImmediateCall}
    (hnone : stationCycles db₀ stationId = [])
    (hrun : Run ImmediateCall.apply (fun _ call ↦ call.args.stationId = stationId) db₀ calls db) :
    CompletedAt (calls.map ImmediateCall.timestamp) (stationCycles db stationId) := by
  induction hrun with
  | nil =>
    rw [hnone]
    exact ⟨rfl, .nil, fun _ c hc ↦ absurd hc (by simp)⟩
  | @snoc calls db call db' _ hstation hcall ih =>
    have hcycles : stationCycles db' stationId = stationCycles db stationId ++
        [call.args.immediateCycle (prevCycleEnd db stationId)] := by
      refine stationCycles_of_insert hstation ?_
      rw [ImmediateCall.cycles_of_apply hcall, hstation]
    rw [hcycles, List.map_append]
    exact ih.step

/-- **Immediate cycles are well formed exactly when the timestamps never go back.** For every run
of immediate completions of a station, from a database without cycles of it: every stored cycle
starts by its end and any two are disjoint, if and only if no timestamp is older than one before
it. -/
theorem immediateCycles_iff {stationId : Uuid} {db₀ db : Database} {calls : List ImmediateCall}
    (hnone : stationCycles db₀ stationId = [])
    (hrun : Run ImmediateCall.apply (fun _ call ↦ call.args.stationId = stationId) db₀ calls db) :
    ((∀ c ∈ stationCycles db stationId, ∃ t, c.cycleEnd = some t ∧ c.start ≤ t) ∧
      (stationCycles db stationId).Pairwise fun a b ↦ a.span.Apart b.span) ↔
    (calls.map ImmediateCall.timestamp).Pairwise (· ≤ ·) := by
  have h := completedAt_of_run hnone hrun
  have hended : ∀ c ∈ stationCycles db stationId, ∃ t, c.cycleEnd = some t := by
    intro c hc
    have hmem := List.mem_map_of_mem (f := Cycle.cycleEnd) hc
    rw [h.ends] at hmem
    obtain ⟨t, -, ht⟩ := List.mem_map.mp hmem
    exact ⟨t, ht.symm⟩
  constructor
  · rintro ⟨hwf, -⟩
    -- each end is followed by a start that is followed by an end
    have hends : (stationCycles db stationId).Pairwise fun a b ↦
        ∀ t ∈ a.cycleEnd, ∀ u ∈ b.cycleEnd, t ≤ u := by
      refine h.after.imp_of_mem fun {a b} _ hb hab t ht u hu ↦ ?_
      obtain ⟨u', hu', hle⟩ := hwf b hb
      rw [Option.mem_def, hu', Option.some_inj] at hu
      exact hu ▸ (hab t ht).trans hle
    rw [← List.pairwise_map (f := Cycle.cycleEnd) (R := fun x y ↦ ∀ t ∈ x, ∀ u ∈ y, t ≤ u),
      h.ends, List.pairwise_map] at hends
    exact hends.imp fun htu ↦ htu _ rfl _ rfl
  · intro hsorted
    refine ⟨fun c hc ↦ ?_, h.after.imp_of_mem fun {a b} ha _ hab ↦ ?_⟩
    · obtain ⟨t, ht⟩ := hended c hc
      exact ⟨t, ht, h.wellFormed hsorted c hc t ht⟩
    · obtain ⟨t, ht⟩ := hended a ha
      exact Span.Precedes.apart ⟨t, ht, hab t ht⟩

/-- The arguments of a completion on station `1`. -/
def completionAt (timestamp : Time) (id : Uuid) : StrategyArgs where
  stationId := 1
  timestamp := timestamp
  jobId := 1
  jobBlobId := 1
  cycleId := id
  zeroCycleId := 0
  stateId := id
  freshBlockId := id

/-- A replayed completion that is older than a live one stored before it ends before it starts. -/
theorem immediateCycles_backdated : ∃ db, Run ImmediateCall.apply
      (fun _ call ↦ call.args.stationId = 1) default
      [.live (completionAt 100 1), .replayed (completionAt 50 2)] db ∧
    ¬∀ c ∈ stationCycles db 1, ∃ t, c.cycleEnd = some t ∧ c.start ≤ t := by
  have hexec : (execute ImmediateCall.apply (fun _ call ↦ call.args.stationId = 1)
      [.live (completionAt 100 1), .replayed (completionAt 50 2)] default).map
      (fun db ↦ (stationCycles db 1).map Cycle.span)
      = some [⟨100, some 100⟩, ⟨100, some 50⟩] := by decide
  obtain ⟨db, hdb, hspans⟩ := Option.map_eq_some_iff.mp hexec
  refine ⟨db, run_of_execute hdb, fun hwf ↦ ?_⟩
  have hmem : (⟨100, some 50⟩ : Span Time) ∈ (stationCycles db 1).map Cycle.span := by
    rw [hspans]
    simp
  obtain ⟨c, hc, hspan⟩ := List.mem_map.mp hmem
  obtain ⟨t, ht, hle⟩ := hwf c hc
  have hend := congrArg Span.stop hspan
  have hstart := congrArg Span.start hspan
  change c.cycleEnd = some 50 at hend
  change c.start = 100 at hstart
  rw [hend, Option.some_inj] at ht
  rw [hstart, ← ht] at hle
  exact absurd hle (by decide)

theorem immediateCycles_iff_increasing : ∃ db, Run ImmediateCall.apply
      (fun _ call ↦ call.args.stationId = 1) default
      [.live (completionAt 50 1), .replayed (completionAt 100 2)] db ∧
    (∀ c ∈ stationCycles db 1, ∃ t, c.cycleEnd = some t ∧ c.start ≤ t) ∧
      (stationCycles db 1).Pairwise fun a b ↦ a.span.Apart b.span := by
  have hexec : (execute ImmediateCall.apply (fun _ call ↦ call.args.stationId = 1)
      [.live (completionAt 50 1), .replayed (completionAt 100 2)] default).isSome := by decide
  obtain ⟨db, hdb⟩ := Option.isSome_iff_exists.mp hexec
  have hrun := run_of_execute hdb
  exact ⟨db, hrun, (immediateCycles_iff rfl hrun).mpr (by decide)⟩

end RwServer
