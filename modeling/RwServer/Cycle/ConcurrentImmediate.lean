import RwServer.Cycle.Intervals

/-!
# Concurrent immediate completions

`completeImmediate` takes its station's lock inside the statement that reads the previous end, so
the snapshot it reads is older than the lock. The outline of a session says which commits its
snapshot contains, and the cycles of the station are determined by the history of the commits
(`Stored`). The second of two completions therefore starts by the end of the first one only when
its statement began after the first commit, or when the end it read instead is late enough
(`concurrentImmediate_iff`).
-/

namespace RwServer

open Timeline Relational Transition ReadCommitted

/-- The cycles of a station after some immediate completions: each starts at the last end among
those that had been committed when its session began. -/
inductive Stored {ι : Type} (base : List Cycle) (args : ι → StrategyArgs) :
    List (ι × ℕ) → List Cycle → Prop
  | nil : Stored base args [] base
  | snoc {h : List (ι × ℕ)} {cycles seen : List Cycle} {i : ι} {n : ℕ} :
      Stored base args h cycles → n ≤ h.length → Stored base args (h.take n) seen →
      Stored base args (h ++ [(i, n)]) (cycles ++ [(args i).immediateCycle (lastEnd seen)])

variable {ι : Type} [DecidableEq ι]

/-- A session before its first statement, or waiting for its lock with what that statement read. -/
inductive ImmediateReady (base : List Cycle) (args : ι → StrategyArgs) (i : ι) :
    Option ℕ → Tx StrategyResult → List (ι × ℕ) → Prop
  | start {h : List (ι × ℕ)} :
      ImmediateReady base args i none (Tx.completeImmediate (args i)) h
  | waiting {n : ℕ} {h : List (ι × ℕ)} {seen : List Cycle} {row : Option StationStateLog} :
      n ≤ h.length → Stored base args (h.take n) seen →
      ImmediateReady base args i (some n)
        (.lock (.reopen (args i).timestamp) (Tx.immediateLocked (args i) (lastEnd seen) row)) h

omit [DecidableEq ι] in
/-- A commit of another session leaves the snapshot of a waiting one as it is. -/
theorem ImmediateReady.append {base : List Cycle} {args : ι → StrategyArgs} {i : ι}
    {b : Option ℕ} {p : Tx StrategyResult} {h : List (ι × ℕ)} (e : ι × ℕ)
    (hr : ImmediateReady base args i b p h) : ImmediateReady base args i b p (h ++ [e]) := by
  cases hr with
  | start => exact .start
  | waiting hle hseen =>
    refine .waiting ?_ ?_
    · rw [List.length_append]
      exact hle.trans (Nat.le_add_right _ _)
    · rwa [List.take_append_of_le_length hle]

/-- The outline of any number of immediate completions on one station. -/
def immediateOutline (base : List Cycle) (args : ι → StrategyArgs) (stationId : Uuid)
    (hstation : ∀ i, (args i).stationId = stationId) :
    LockOutline store (fun (_ : LockInfo) (_ : Database) ↦ True) ι StrategyResult where
  Inv h db := Stored base args h (stationCycles db stationId)
  Ready i b p h _ := ImmediateReady base args i b p h
  ready_run := by
    intro i b writes next h db hinv hr
    generalize hp : Program.run writes next = p at hr
    cases hr with
    | start =>
      -- the first statement reads the cycles that are committed by now
      cases hp
      have hseen : Stored base args (h.take h.length) (stationCycles db stationId) := by
        rwa [List.take_length]
      have hwaiting : ImmediateReady base args i (some h.length) (.lock _ (Tx.immediateLocked
          (args i) _ (findOpenStateEntry db.stateLog (args i).stationId))) h :=
        .waiting le_rfl hseen
      have hprev : prevCycleEnd db (args i).stationId
          = lastEnd (stationCycles db stationId) := by
        rw [hstation]
        rfl
      rw [← hprev] at hwaiting
      exact ⟨rfl, hwaiting⟩
    | waiting => cases hp
  ready_lock := by
    intro i b label next h db hr
    generalize hp : Program.lock label next = p at hr ⊢
    cases hr with
    | start => cases hp
    | waiting hle hseen => exact .waiting hle hseen
  leave := by
    intro i b result h db hinv hr
    generalize hp : Program.commit result = p at hr
    cases hr with
    | start => cases hp
    | waiting => cases hp
  locked := by
    intro i n label next h db db' result hinv hr _ halone
    refine ⟨?_, fun j b' p _ hj ↦ hj.append _⟩
    generalize hp : Program.lock label next = p at hr
    cases hr with
    | waiting hle hseen =>
      cases hp
      obtain ⟨cycles, log, batch, buckets, hcycles, -, -, -, rfl⟩ := alone_immediateLocked halone
      have hrows : (db.setCycles cycles).cycles.rows = db.cycles.rows ++ [_] :=
        Table.rows_of_insert hcycles
      change Stored base args _ (stationCycles (db.setCycles cycles) stationId)
      rw [stationCycles_of_insert (hstation i) hrows]
      exact .snoc hinv hle hseen

omit [DecidableEq ι] in
theorem stored_nil {base cycles : List Cycle} {args : ι → StrategyArgs}
    (hs : Stored base args [] cycles) : cycles = base := by
  generalize hl : ([] : List (ι × ℕ)) = l at hs
  cases hs with
  | nil => rfl
  | snoc => exact absurd hl (by simp)

omit [DecidableEq ι] in
theorem stored_snoc {base cycles : List Cycle} {args : ι → StrategyArgs} {h : List (ι × ℕ)}
    {i : ι} {n : ℕ} (hs : Stored base args (h ++ [(i, n)]) cycles) :
    ∃ before seen, Stored base args h before ∧ n ≤ h.length ∧
      Stored base args (h.take n) seen ∧
      cycles = before ++ [(args i).immediateCycle (lastEnd seen)] := by
  generalize hl : h ++ [(i, n)] = l at hs
  cases hs with
  | nil => exact absurd hl (by simp)
  | snoc hbefore hle hseen =>
    obtain ⟨rfl, he⟩ := List.append_inj' hl rfl
    cases he
    exact ⟨_, _, hbefore, hle, hseen, rfl⟩

omit [DecidableEq ι] in
/-- After two commits: the second session saw the first cycle if it began after the first commit,
and the same cycles as the first session else. -/
theorem stored_pair {base cycles : List Cycle} {args : ι → StrategyArgs} {i j : ι} {n m : ℕ}
    (hs : Stored base args [(i, n), (j, m)] cycles) :
    ∃ seen, (m = 0 ∧ seen = base ∨
        m = 1 ∧ seen = base ++ [(args i).immediateCycle (lastEnd base)]) ∧
      cycles = base ++ [(args i).immediateCycle (lastEnd base),
        (args j).immediateCycle (lastEnd seen)] := by
  have hone : ∀ {c}, Stored base args [(i, n)] c →
      c = base ++ [(args i).immediateCycle (lastEnd base)] := by
    intro c hc
    obtain ⟨before, seen, hbefore, hn, hseen, rfl⟩ := stored_snoc (h := []) hc
    rw [List.take_nil] at hseen
    rw [stored_nil hbefore, stored_nil hseen]
  obtain ⟨before, seen, hbefore, hm, hseen, rfl⟩ := stored_snoc (h := [(i, n)]) hs
  refine ⟨seen, ?_, ?_⟩
  · rcases Nat.le_one_iff_eq_zero_or_eq_one.mp hm with rfl | rfl
    · exact Or.inl ⟨rfl, stored_nil hseen⟩
    · exact Or.inr ⟨rfl, hone hseen⟩
  · rw [hone hbefore, List.append_assoc]
    rfl

/-- **Two concurrent immediate completions are serialized exactly when the second one saw enough.**
In every interleaving of two completions on a station in which both commit, let `i` be the first to
commit and `j` the second, and `m` the number of commits there were when `j` took its snapshot. The
two inserted cycles do not overlap, the second one starting no earlier than the first one ends, if
and only if the snapshot was taken after the first commit, or the previous end in it — without one,
the timestamp of `j` itself — is not before the timestamp of `i`. -/
theorem concurrentImmediate_iff {args : Bool → StrategyArgs} {stationId : Uuid}
    (hstation : ∀ i, (args i).stationId = stationId) {db : Database} {ms : List (Move Bool)}
    {y : System Database Write LockInfo StrategyResult Bool}
    (hrun : Run (step store) (fun _ _ ↦ True)
      (.start db fun i ↦ Tx.completeImmediate (args i)) ms y)
    {i j : Bool} {n m : ℕ} (hhistory : y.history = [(i, n), (j, m)]) :
    ∃ first second : Cycle,
      stationCycles y.committed stationId = stationCycles db stationId ++ [first, second] ∧
      first.cycleEnd = some (args i).timestamp ∧ second.cycleEnd = some (args j).timestamp ∧
      (first.span.Apart second.span ∧ (args i).timestamp ≤ second.start ↔
        m = 1 ∨ (args i).timestamp ≤ (prevCycleEnd db stationId).getD (args j).timestamp) := by
  let O := immediateOutline (stationCycles db stationId) args stationId hstation
  have hinv : O.Inv y.history y.committed := by
    refine O.sound (s := db) .nil (fun i ↦ .start) (hrun.mono fun y mv _ ↦ ?_)
    cases mv with
    | abort => trivial
    | run i =>
      rw [LockWhen]
      split <;> trivial
  rw [hhistory] at hinv
  obtain ⟨seen, hseen, hcycles⟩ := stored_pair hinv
  refine ⟨_, _, hcycles, rfl, rfl, ?_⟩
  set first := (args i).immediateCycle (lastEnd (stationCycles db stationId))
  set second := (args j).immediateCycle (lastEnd seen)
  have hapart : (args i).timestamp ≤ second.start → first.span.Apart second.span :=
    fun hle ↦ Span.Precedes.apart ⟨_, rfl, hle⟩
  rcases hseen with ⟨rfl, rfl⟩ | ⟨rfl, rfl⟩
  · -- the second session saw what the first one saw
    constructor
    · exact fun h ↦ Or.inr h.2
    · rintro (h | h)
      · exact absurd h (by simp)
      · exact ⟨hapart h, h⟩
  · -- the second session saw the first cycle
    refine ⟨fun _ ↦ Or.inl rfl, fun _ ↦ ?_⟩
    have hmem : first ∈ stationCycles db stationId ++ [first] := by simp
    obtain ⟨e, he, hle⟩ := le_lastEnd hmem rfl
    have hstart : (args i).timestamp ≤ second.start := by
      have : second.start = e := by
        rw [show second.start = (lastEnd (stationCycles db stationId ++ [first])).getD
          (args j).timestamp from rfl, he, Option.getD_some]
      exact this ▸ hle
    exact ⟨hapart hstart, hstart⟩

/-- A station with one cycle, which ended at `100`. -/
def oneCycleDatabase : Database :=
  { (default : Database) with
    cycles := ⟨[⟨1, 1, 0, some 100, 1, none⟩], by decide, by decide⟩ }

/-- The completions at `200` and at `300`. -/
def twoCompletions (i : Bool) : StrategyArgs :=
  if i then completionAt 300 3 else completionAt 200 2

/-- Both sessions take their snapshot before the first one commits. -/
def bothSnapshotsFirst : List (Move Bool) :=
  [.run false, .run true] ++ List.replicate 7 (.run false) ++ List.replicate 7 (.run true)

/-- The second completion starts where the first one started, and not where it ended. -/
theorem concurrentImmediate_overlap : ∃ y first second, Run (step store) (fun _ _ ↦ True)
      (.start oneCycleDatabase fun i ↦ Tx.completeImmediate (twoCompletions i))
      bothSnapshotsFirst y ∧
    y.history = [(false, 0), (true, 0)] ∧
    stationCycles y.committed 1 = stationCycles oneCycleDatabase 1 ++ [first, second] ∧
    ¬first.span.Apart second.span ∧ ¬(twoCompletions false).timestamp ≤ second.start := by
  have hexec : (execute (step store) (fun _ _ ↦ True) bothSnapshotsFirst
      (.start oneCycleDatabase fun i ↦ Tx.completeImmediate (twoCompletions i))).map
      (fun y ↦ (y.history, stationCycles y.committed 1))
      = some ([(false, 0), (true, 0)], [⟨1, 1, 0, some 100, 1, none⟩,
        ⟨2, 1, 100, some 200, 1, none⟩, ⟨3, 1, 100, some 300, 1, none⟩]) := by decide
  obtain ⟨y, hy, hres⟩ := Option.map_eq_some_iff.mp hexec
  obtain ⟨hhistory, hcycles⟩ := Prod.mk.inj hres
  refine ⟨y, _, _, run_of_execute hy, hhistory, hcycles, fun hapart ↦ ?_, by decide⟩
  exact hapart 150 (by decide) (by decide)

/-- One completion after the other. -/
theorem concurrentImmediate_iff_serial : ∃ (y : System Database Write LockInfo StrategyResult Bool)
    (first second : Cycle),
    stationCycles y.committed 1 = stationCycles oneCycleDatabase 1 ++ [first, second] ∧
      first.span.Apart second.span ∧ (200 : Time) ≤ second.start := by
  have hexec : (execute (step store) (fun _ _ ↦ True)
      (List.replicate 8 (.run false) ++ List.replicate 8 (.run true))
      (.start oneCycleDatabase fun i ↦ Tx.completeImmediate (twoCompletions i))).map
      (·.history) = some [(false, 0), (true, 1)] := by decide
  obtain ⟨y, hy, hhistory⟩ := Option.map_eq_some_iff.mp hexec
  obtain ⟨first, second, hcycles, -, -, hiff⟩ := concurrentImmediate_iff
    (show ∀ i, (twoCompletions i).stationId = 1 by decide) (run_of_execute hy) hhistory
  exact ⟨y, first, second, hcycles, hiff.mpr (Or.inl rfl)⟩

end RwServer
