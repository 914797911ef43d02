import RwServer.Cycle.Effects

/-!
# Concurrent splits

`splitDownEntry` reads its entry before it takes the lock, and goes on with that copy. It runs here
with any number of other splits, `transitionToUp`, `completeImmediate` and `fixStateEntries`
transactions on one station, in every interleaving.

A stale copy of an open entry does no harm: while another open row exists the unique index refuses
the second part, and the transaction is rolled back. A stale copy of a closed entry does, and so
does a timestamp or a window from before entries that are already closed. `Undisturbed` excludes
exactly these, at the moment a transaction takes the lock, and under it the live entries tile after
every commit (`liveTiled_of_undisturbed`).
-/

open scoped List

namespace RwServer

open Timeline Relational Transition ReadCommitted

/-! ## Rows are never taken away -/

/-- Every row keeps its id, its station and its start. -/
def Keeps (log log' : StateLog) : Prop :=
  ∀ e ∈ log.rows, ∃ e' ∈ log'.rows, e'.id = e.id ∧ e'.stationId = e.stationId ∧
    e'.startTime = e.startTime

theorem Keeps.refl (log : StateLog) : Keeps log log := fun e he ↦ ⟨e, he, rfl, rfl, rfl⟩

theorem Keeps.trans {log log' log'' : StateLog} (h : Keeps log log') (h' : Keeps log' log'') :
    Keeps log log'' := by
  intro e he
  obtain ⟨e', he', hid, hst, hstart⟩ := h e he
  obtain ⟨e'', he'', hid', hst', hstart'⟩ := h' e' he'
  exact ⟨e'', he'', hid'.trans hid, hst'.trans hst, hstart'.trans hstart⟩

theorem keeps_of_insert {log log' : StateLog} {e : StationStateLog}
    (h : log.insert e = some log') : Keeps log log' := by
  intro a ha
  rw [Table.rows_of_insert h]
  exact ⟨a, List.mem_append_left _ ha, rfl, rfl, rfl⟩

theorem keeps_of_update {log log' : StateLog} {p : StationStateLog → Bool}
    {f : StationStateLog → StationStateLog} (hmild : Table.Mild stateLogSchema f)
    (hst : ∀ e, (f e).stationId = e.stationId) (hstart : ∀ e, (f e).startTime = e.startTime)
    (h : log.updateMany p f = some log') : Keeps log log' := by
  intro e he
  rw [Table.rows_of_updateMany hmild h]
  refine ⟨_, List.mem_map_of_mem he, ?_⟩
  split
  · exact ⟨hmild.key e, hst e, hstart e⟩
  · exact ⟨rfl, rfl, rfl⟩

theorem keeps_of_close {log log' : StateLog} {stationId : Uuid} {t : Time}
    (h : closeOpenStateEntries log stationId t = some log') : Keeps log log' :=
  keeps_of_update (mild_close t) (fun _ ↦ rfl) (fun _ ↦ rfl) h

theorem keeps_of_mark {log log' : StateLog} {id : Uuid} {status : Option StationStatus}
    (h : (updateStateEntry log id fun e ↦ { e with status }) = some log') : Keeps log log' :=
  keeps_of_update (f := fun e ↦ { e with status })
    (mild_of_keeps (fun _ ↦ rfl) (fun _ ↦ rfl) fun _ h ↦ h) (fun _ ↦ rfl) (fun _ ↦ rfl) h

theorem Renewed.keeps {log log' : StateLog} {id : Uuid} {data : CreateStateEntry}
    (h : Renewed log id data log') : Keeps log log' := by
  obtain ⟨log₁, log₂, hclose, hcreate, hmark⟩ := h
  have h₂ := (keeps_of_close hclose).trans (keeps_of_insert hcreate)
  rcases hmark with rfl | hmark
  · exact h₂
  · exact h₂.trans (keeps_of_mark hmark)

theorem keeps_fixStateEntries {log log' : StateLog} {jobLog : List StationJobLog}
    {closedId openId blockId stationId : Uuid} {minTs maxTs now : Time}
    (h : fixStateEntries log jobLog closedId openId blockId stationId minTs maxTs now
      = some log') : Keeps log log' := by
  rw [fixStateEntries] at h
  obtain ⟨log₁, hdelete, h⟩ := Option.bind_eq_some_iff.mp h
  obtain ⟨log₂, hclosed, hopen⟩ := Option.bind_eq_some_iff.mp h
  have h₁ : Keeps log log₁ :=
    keeps_of_update (mild_softDelete now) (fun _ ↦ rfl) (fun _ ↦ rfl) hdelete
  exact (h₁.trans (keeps_of_insert hclosed)).trans (keeps_of_insert hopen)

theorem keeps_splitEntry {log log' : StateLog} {id : Uuid} {entry : StationStateLog}
    {splitAt now : Time} {r : Except SplitError (StationStateLog × StationStateLog)}
    (h : splitEntry log id entry splitAt now = some (log', r)) : Keeps log log' := by
  rcases splitEntry_cases h with rfl | ⟨-, log₁, htrunc, hins⟩
  · exact .refl _
  · have h₁ : Keeps log log₁ :=
      keeps_of_update (mild_close splitAt) (fun _ ↦ rfl) (fun _ ↦ rfl) htrunc
    exact h₁.trans (keeps_of_insert hins)

/-! ## A split under the lock -/

/-- The row that a split truncates still has the end that the copy has: a closed copy is asked for
it, and an open copy is refused by the unique index otherwise. -/
private theorem exists_row_of_copy {log log₁ log' : StateLog} {entry : StationStateLog}
    {id : Uuid} {splitAt : Time} (htiles : Tiles (log.timeline entry.stationId))
    (hne : log.timeline entry.stationId ≠ [])
    (hrow : ∃ e ∈ log.rows, e.id = entry.id ∧ e.stationId = entry.stationId ∧
      e.startTime = entry.startTime)
    (hsame : ∀ t ∈ entry.endTime, ∃ e ∈ log.live entry.stationId, e.id = entry.id ∧
      e.startTime = entry.startTime ∧ e.endTime = some t)
    (htrunc : truncateEntry log entry.id splitAt = some log₁)
    (hins : log₁.insert (secondPart entry id splitAt) = some log') :
    ∃ e ∈ log.live entry.stationId, e.id = entry.id ∧ e.startTime = entry.startTime ∧
      e.endTime = entry.endTime := by
  cases hend : entry.endTime with
  | some t => exact hsame t hend
  | none =>
    obtain ⟨s, hs, hopen⟩ := htiles.exists_open hne
    obtain ⟨o, ho, rfl⟩ := StateLog.mem_timeline.mp hs
    have holive := StateLog.mem_live.mp ho
    by_cases hid : o.id = entry.id
    · obtain ⟨e, he, heid, -, hestart⟩ := hrow
      have heo : e = o := log.eq_of_key_eq he holive.1 (heid.trans hid.symm)
      exact ⟨o, ho, hid, heo ▸ hestart, hopen⟩
    · -- another row is open, so a second open one is refused
      have ho₁ : o ∈ log₁.rows := by
        rw [Table.rows_of_updateMany (mild_close splitAt) htrunc]
        refine List.mem_map.mpr ⟨o, holive.1, if_neg ?_⟩
        rwa [beq_iff_eq]
      have hclash := (Table.insert_eq_some_iff.mp hins).2.1 o ho₁
      have hboth : stateLogSchema.clash o (secondPart entry id splitAt) = true := by
        rw [clash_iff, StationStateLog.isOpen_iff, StationStateLog.isOpen_iff]
        exact ⟨holive.2.1, ⟨hopen, holive.2.2⟩, hend, rfl⟩
      rw [hboth] at hclash
      exact absurd hclash (by simp)

theorem tiles_splitEntry {log log' : StateLog} {id : Uuid} {entry : StationStateLog}
    {splitAt now : Time} {r : Except SplitError (StationStateLog × StationStateLog)}
    (htiles : Tiles (log.timeline entry.stationId))
    (hne : log.timeline entry.stationId ≠ [])
    (hrow : ∃ e ∈ log.rows, e.id = entry.id ∧ e.stationId = entry.stationId ∧
      e.startTime = entry.startTime)
    (hsame : validateSplit entry splitAt now = .ok () → ∀ t ∈ entry.endTime,
      ∃ e ∈ log.live entry.stationId, e.id = entry.id ∧ e.startTime = entry.startTime ∧
        e.endTime = some t)
    (h : splitEntry log id entry splitAt now = some (log', r)) :
    Tiles (log'.timeline entry.stationId) ∧ log'.timeline entry.stationId ≠ [] := by
  rcases splitEntry_cases h with rfl | ⟨hval, log₁, htrunc, hins⟩
  · exact ⟨htiles, hne⟩
  · obtain ⟨e, he, hid, hstart, hend⟩ :=
      exists_row_of_copy htiles hne hrow (hsame hval) htrunc hins
    obtain ⟨hmem, hst, hdel⟩ := StateLog.mem_live.mp he
    obtain ⟨rest, hl, hl'⟩ := cut_of_truncate_insert hmem
      (StationStateLog.isLive_iff.mpr ⟨hst, hdel⟩) hid.symm rfl hend.symm htrunc hins
    obtain ⟨hlo, hhi⟩ := validateSplit_eq_ok hval
    have hcut : e.span.CutAt splitAt := by
      refine ⟨by rw [StationStateLog.span_start, hstart]; exact hlo.le, fun t ht ↦ ?_⟩
      rw [StationStateLog.span_stop, Option.mem_def, hend] at ht
      rw [ht, Option.getD_some] at hhi
      exact hhi.le
    refine ⟨((htiles.perm hl).cut hcut).perm hl'.symm, fun hnil ↦ ?_⟩
    rw [hnil] at hl'
    exact absurd hl'.length_eq (by simp)

/-! ## The sessions -/

/-- A replay window, as `trackReplayedCycle` keeps it: the least and the greatest timestamp. -/
structure ReplayWindow where
  minTs : Time
  maxTs : Time
  le : minTs ≤ maxTs

/-- A call that works on the state log of the station, with the ids it draws. -/
inductive StateCall
  | transitionToUp (id freshBlockId : Uuid) (timestamp : Time) (options : TransitionToUpOptions)
  | completeImmediate (args : StrategyArgs)
  | fixStateEntries (closedId openId blockId : Uuid) (window : ReplayWindow) (now : Time)
  | splitDownEntry (id entryId : Uuid) (splitAt now : Time)

/-- The transaction of a call on a station; its result is dropped. -/
def StateCall.program (stationId : Uuid) : StateCall → Tx Unit
  | .transitionToUp id freshBlockId timestamp options =>
    Tx.transitionToUp id freshBlockId stationId timestamp options fun _ ↦ .commit ()
  | .completeImmediate args =>
    (Tx.completeImmediate { args with stationId }).map fun _ ↦ ()
  | .fixStateEntries closedId openId blockId window now =>
    Tx.fixStateEntries closedId openId blockId stationId window.minTs window.maxTs now (.commit ())
  | .splitDownEntry id entryId splitAt now =>
    Tx.splitDownEntry id entryId splitAt now fun _ ↦ .commit ()

/-- What must hold of the live entries of the station when a transaction takes the lock.

A completion reopens at a time by which every nonempty closed entry has ended. A reconciliation
finds no entry that ends before its window, and only empty closed ones that start after it. A split
is of an entry of the station, and where it is valid and its copy is closed, the entry is still live
with the start and the end of the copy. -/
def Undisturbed (stationId : Uuid) : LockInfo → Database → Prop
  | .plain, _ => True
  | .reopen timestamp, db =>
    ∀ e ∈ db.stateLog.live stationId, ∀ t ∈ e.endTime, e.startTime < t → t ≤ timestamp
  | .reconcile minTs maxTs, db =>
    ∀ e ∈ db.stateLog.live stationId, ∀ t ∈ e.endTime,
      minTs ≤ t ∧ (maxTs < e.startTime → t ≤ e.startTime)
  | .split entry splitAt now, db =>
    entry.stationId = stationId ∧ (validateSplit entry splitAt now = .ok () →
      ∀ t ∈ entry.endTime, ∃ e ∈ db.stateLog.live entry.stationId,
        e.id = entry.id ∧ e.startTime = entry.startTime ∧ e.endTime = some t)

instance (stationId : Uuid) (info : LockInfo) (db : Database) :
    Decidable (Undisturbed stationId info db) := by
  cases info <;> rw [Undisturbed] <;> infer_instance

/-- A session outside the lock: before its first step, waiting for the lock with what it has read,
or about to return without it. A split that waits has read a row that will not go away, from a
timeline that will not become empty. -/
inductive StateReady (stationId : Uuid) : Tx Unit → Database → Prop
  | start (call : StateCall) {db : Database} : StateReady stationId (call.program stationId) db
  | waitingImmediate {args : StrategyArgs} {prevEnd : Option Time}
      {row : Option StationStateLog} {db : Database} : args.stationId = stationId →
      StateReady stationId
        (.lock (.reopen args.timestamp) ((Tx.immediateLocked args prevEnd row).map fun _ ↦ ())) db
  | waitingSplit {id : Uuid} {entry : StationStateLog} {splitAt now : Time} {db : Database} :
      (∃ e ∈ db.stateLog.rows, e.id = entry.id ∧ e.stationId = entry.stationId ∧
        e.startTime = entry.startTime) →
      (entry.stationId = stationId → db.stateLog.timeline stationId ≠ []) →
      StateReady stationId (.lock (.split entry splitAt now)
        (Tx.splitLocked id entry splitAt now fun _ ↦ .commit ())) db
  | leaving {db : Database} : StateReady stationId (.commit ()) db

/-- Commits of others leave a waiting session as it is. -/
theorem StateReady.mono {stationId : Uuid} {p : Tx Unit} {db db' : Database}
    (h : StateReady stationId p db) (hkeeps : Keeps db.stateLog db'.stateLog)
    (hne : db.stateLog.timeline stationId ≠ [] → db'.stateLog.timeline stationId ≠ []) :
    StateReady stationId p db' := by
  cases h with
  | start call => exact .start call
  | waitingImmediate hst => exact .waitingImmediate hst
  | waitingSplit hrow htimeline =>
    obtain ⟨e, he, hid, hst, hstart⟩ := hrow
    obtain ⟨e', he', hid', hst', hstart'⟩ := hkeeps e he
    exact .waitingSplit ⟨e', he', hid'.trans hid, hst'.trans hst, hstart'.trans hstart⟩
      fun hs ↦ hne (htimeline hs)
  | leaving => exact .leaving

/-! ## What a transaction does from its lock on -/

theorem tiles_of_reopenedAt {stationId : Uuid} {timestamp : Time} {db : Database} {log : StateLog}
    (htiles : Tiles (db.stateLog.timeline stationId))
    (hguard : Undisturbed stationId (.reopen timestamp) db)
    (h : ReopenedAt timestamp (db.stateLog.timeline stationId) (log.timeline stationId)) :
    Tiles (log.timeline stationId) := by
  refine htiles.reopenedAt ?_ h
  intro s hs t ht hlt
  obtain ⟨e, he, rfl⟩ := StateLog.mem_timeline.mp hs
  exact hguard e he t ht hlt

/-- A transaction that takes the lock undisturbed leaves a timeline that tiles, keeps the rows, and
does not empty the timeline. -/
theorem StateReady.locked {stationId : Uuid} {label : LockInfo} {next : Tx Unit}
    {db db' : Database} {r : Unit} (hready : StateReady stationId (.lock label next) db)
    (htiles : Tiles (db.stateLog.timeline stationId)) (hguard : Undisturbed stationId label db)
    (halone : next.alone store db = some (db', r)) :
    Tiles (db'.stateLog.timeline stationId) ∧ Keeps db.stateLog db'.stateLog ∧
      (db.stateLog.timeline stationId ≠ [] → db'.stateLog.timeline stationId ≠ []) := by
  generalize hp : Program.lock label next = p at hready
  cases hready with
  | start call =>
    cases call with
    | transitionToUp id freshBlockId timestamp options =>
      obtain ⟨rfl, rfl⟩ := Program.lock.inj hp
      obtain ⟨⟨log, entry⟩, hup, hres⟩ := Option.bind_eq_some_iff.mp
        ((Tx.alone_transitionToUp id freshBlockId stationId timestamp options
          (fun _ ↦ .commit ()) db).symm.trans halone)
      cases hres
      have hmove : ReopenedAt timestamp (db.stateLog.timeline stationId)
          (log.timeline stationId) := transitionToUp_timeline hup
      exact ⟨tiles_of_reopenedAt htiles hguard hmove, (transitionToUp_renewed hup).keeps,
        fun _ ↦ hmove.ne_nil⟩
    | completeImmediate args => cases hp
    | fixStateEntries closedId openId blockId window now =>
      obtain ⟨rfl, rfl⟩ := Program.lock.inj hp
      obtain ⟨log, hfix, hres⟩ := Option.bind_eq_some_iff.mp
        ((Tx.alone_fixStateEntries closedId openId blockId stationId window.minTs window.maxTs now
          (.commit ()) db).symm.trans halone)
      cases hres
      refine ⟨tiles_fixStateEntries htiles window.le ?_ ?_ hfix, keeps_fixStateEntries hfix,
        fun _ hnil ↦ ?_⟩
      · intro s hs t ht
        obtain ⟨e, he, rfl⟩ := StateLog.mem_timeline.mp hs
        exact (hguard e he t ht).1
      · intro s hs hlt t ht
        obtain ⟨e, he, rfl⟩ := StateLog.mem_timeline.mp hs
        exact (hguard e he t ht).2 hlt
      · have hperm := fixStateEntries_timeline hfix
        rw [Database.setStateLog_stateLog] at hnil
        rw [hnil] at hperm
        exact List.cons_ne_nil _ _ hperm.symm.eq_nil
    | splitDownEntry id entryId splitAt now => cases hp
  | @waitingImmediate args prevEnd row _ hst =>
    -- the row it has read only matters for the block id
    obtain ⟨rfl, rfl⟩ := Program.lock.inj hp
    rw [Program.alone_map] at halone
    obtain ⟨⟨db₁, res⟩, hcomplete, hres⟩ := Option.map_eq_some_iff.mp halone
    cases hres
    obtain ⟨cycles, log, batch, buckets, -, hlog, -, -, rfl⟩ := alone_immediateLocked hcomplete
    rw [hst] at hlog
    have hmove := closeAndOpen_timeline hlog
    exact ⟨tiles_of_reopenedAt htiles hguard hmove, (closeAndOpen_renewed hlog).keeps,
      fun _ ↦ hmove.ne_nil⟩
  | @waitingSplit id entry splitAt now _ hrow hne =>
    obtain ⟨rfl, rfl⟩ := Program.lock.inj hp
    obtain ⟨⟨log, res⟩, hsplit, hres⟩ := Option.bind_eq_some_iff.mp
      ((Tx.alone_splitLocked id entry splitAt now _ db).symm.trans halone)
    cases hres
    obtain ⟨rfl, hsame⟩ := hguard
    obtain ⟨htiles', hne'⟩ := tiles_splitEntry htiles (hne rfl) hrow hsame hsplit
    exact ⟨htiles', keeps_splitEntry hsplit, fun _ ↦ hne'⟩
  | leaving => cases hp

/-- The outline of any number of calls on one station. -/
def stateOutline (ι : Type) (stationId : Uuid) :
    LockOutline store (Undisturbed stationId) ι Unit where
  Inv _ db := Tiles (db.stateLog.timeline stationId)
  Ready _ _ p _ db := StateReady stationId p db
  ready_run := by
    intro i b writes next h db _ hready
    generalize hp : Program.run writes next = p at hready
    cases hready with
    | start call =>
      cases call with
      | transitionToUp => cases hp
      | completeImmediate args =>
        cases hp
        exact ⟨rfl, .waitingImmediate rfl⟩
      | fixStateEntries => cases hp
      | splitDownEntry id entryId splitAt now =>
        cases hp
        refine ⟨rfl, ?_⟩
        dsimp only
        cases hfind : findSplitEntry db.stateLog entryId with
        -- it returns without having asked for the lock
        | error err => exact .leaving
        | ok entry =>
          obtain ⟨hmem, -, hdel, -⟩ := findSplitEntry_eq_ok hfind
          refine .waitingSplit ⟨entry, hmem, rfl, rfl, rfl⟩ fun hst ↦ ?_
          exact List.ne_nil_of_mem (StateLog.mem_timeline.mpr
            ⟨entry, StateLog.mem_live.mpr ⟨hmem, hst, hdel⟩, rfl⟩)
    | waitingImmediate => cases hp
    | waitingSplit => cases hp
    | leaving => cases hp
  ready_lock h := h
  leave hinv _ := ⟨hinv, fun _ _ _ _ h ↦ h⟩
  locked hinv hready hguard halone :=
    have h := hready.locked hinv hguard halone
    ⟨h.1, fun _ _ _ _ hj ↦ hj.mono h.2.1 h.2.2⟩

/-! ## The live entries -/

/-- The live entries of the station are pairwise disjoint, cover without gap everything from the
start of any of them on, and at most one of them is open. -/
structure LiveTiled (log : StateLog) (stationId : Uuid) : Prop where
  apart : (log.live stationId).Pairwise fun a b ↦ a.span.Apart b.span
  gapless : ∀ e ∈ log.live stationId, ∀ t, e.startTime ≤ t →
    ∃ e' ∈ log.live stationId, e'.span.Covers t
  one_open : ((log.live stationId).filter StationStateLog.isOpen).length ≤ 1

theorem liveTiled_iff {log : StateLog} {stationId : Uuid} :
    LiveTiled log stationId ↔ Tiles (log.timeline stationId) := by
  constructor
  · rintro ⟨hapart, hgapless, -⟩
    refine ⟨List.pairwise_map.mpr hapart, fun s hs t ht ↦ ?_⟩
    obtain ⟨e, he, rfl⟩ := StateLog.mem_timeline.mp hs
    obtain ⟨e', he', hc⟩ := hgapless e he t ht
    exact ⟨_, StateLog.mem_timeline.mpr ⟨e', he', rfl⟩, hc⟩
  · intro htiles
    refine ⟨List.pairwise_map.mp htiles.apart, fun e he t ht ↦ ?_, ?_⟩
    · obtain ⟨s, hs, hc⟩ := htiles.gapless e.span (List.mem_map_of_mem he) t ht
      obtain ⟨e', he', rfl⟩ := StateLog.mem_timeline.mp hs
      exact ⟨e', he', hc⟩
    · have hopen := (List.pairwise_map.mp htiles.open_unique).filter StationStateLog.isOpen
      by_contra hcon
      obtain ⟨a, b, rest, hl⟩ : ∃ a b rest,
          (log.live stationId).filter StationStateLog.isOpen = a :: b :: rest := by
        match hl : (log.live stationId).filter StationStateLog.isOpen with
        | [] => exact absurd (by rw [hl]; exact Nat.zero_le _) hcon
        | [a] => exact absurd (by rw [hl]; exact le_rfl) hcon
        | a :: b :: rest => exact ⟨a, b, rest, rfl⟩
      have hmem : ∀ c ∈ a :: b :: rest, c.endTime = none := fun c hc ↦
        (StationStateLog.isOpen_iff.mp (List.mem_filter.mp (hl ▸ hc)).2).1
      rw [hl] at hopen
      exact (List.pairwise_cons.mp hopen).1 b List.mem_cons_self
        ⟨hmem a List.mem_cons_self, hmem b (List.mem_cons_of_mem _ List.mem_cons_self)⟩

/-- **The live entries tile after every commit where every transaction takes the lock
undisturbed**, in every interleaving of any number of splits, `transitionToUp`, `completeImmediate`
and `fixStateEntries` transactions of a station. -/
theorem liveTiled_of_undisturbed {ι : Type} [Fintype ι] [DecidableEq ι] {stationId : Uuid}
    (calls : ι → StateCall) {db : Database} (hstart : LiveTiled db.stateLog stationId)
    {ms : List (Move ι)} {y : System Database Write LockInfo Unit ι}
    (hrun : Run (step store) (LockWhen (Undisturbed stationId))
      (.start db fun i ↦ (calls i).program stationId) ms y) :
    LiveTiled y.committed.stateLog stationId :=
  liveTiled_iff.mpr ((stateOutline ι stationId).sound (liveTiled_iff.mp hstart)
    (fun i ↦ .start (calls i)) hrun)

/-- A stop that has ended, and the running entry after it. -/
def endedStop : StateLog where
  rows :=
    [{ replacementEntry 1 1 0 (some 6000000) 1 none with state := .down, status := some .down },
      replacementEntry 2 1 6000000 none 2 none]
  nodup := by decide
  noClash := by decide

def endedStopDatabase : Database := { (default : Database) with stateLog := endedStop }

private theorem liveTiled_endedStop : LiveTiled endedStop 1 :=
  liveTiled_iff.mpr (GapFree.tiling
    ⟨endedStop.rows, .refl _, by decide, by decide, by decide, by decide⟩).tiles

/-- Two splits of the ended stop. -/
def twoSplits (i : Bool) : StateCall :=
  if i then .splitDownEntry 4 1 4000000 9000000 else .splitDownEntry 3 1 2000000 9000000

/-- Both splits read the stop before one of them takes the lock. -/
def bothSplitsReadFirst : List (Move Bool) :=
  [.run false, .run true] ++ List.replicate 4 (.run false) ++ List.replicate 4 (.run true)

/-- The second split truncates the first part again, and its second part lies over the one that the
first split made. -/
theorem splitDownEntry_overlap : LiveTiled endedStopDatabase.stateLog 1 ∧
    ∃ y, Run (step store) (fun _ _ ↦ True)
        (.start endedStopDatabase fun i ↦ (twoSplits i).program 1) bothSplitsReadFirst y ∧
      (∀ i, (y.sessions i).phase = .committed) ∧ ¬LiveTiled y.committed.stateLog 1 := by
  have hexec : (execute (step store) (fun _ _ ↦ True) bothSplitsReadFirst
      (.start endedStopDatabase fun i ↦ (twoSplits i).program 1)).map
      (fun y ↦ ((y.sessions false).phase, (y.sessions true).phase,
        y.committed.stateLog.timeline 1))
      = some (.committed, .committed, [⟨0, some 4000000⟩, ⟨6000000, none⟩,
        ⟨2000000, some 6000000⟩, ⟨4000000, some 6000000⟩]) := by decide
  obtain ⟨y, hy, hres⟩ := Option.map_eq_some_iff.mp hexec
  obtain ⟨hfalse, htrue, htimeline⟩ : (y.sessions false).phase = .committed ∧
      (y.sessions true).phase = .committed ∧ y.committed.stateLog.timeline 1 = _ := by
    simpa only [Prod.mk.injEq] using hres
  refine ⟨liveTiled_endedStop, y, run_of_execute hy, ?_, fun h ↦ ?_⟩
  · rintro (_ | _)
    · exact hfalse
    · exact htrue
  · have hapart := (liveTiled_iff.mp h).apart
    rw [htimeline, List.pairwise_cons] at hapart
    exact hapart.1 ⟨2000000, some 6000000⟩ (by simp) 3000000 (by decide) (by decide)

/-- A split of the ended stop, and the start of a running entry after it. -/
def splitAndCycle (i : Bool) : StateCall :=
  if i then .transitionToUp 4 4 9000000 {} else .splitDownEntry 3 1 2000000 9000000

/-- The cycle takes the lock after the split. -/
theorem liveTiled_of_undisturbed_splitAndCycle : ∃ y,
    Run (step store) (LockWhen (Undisturbed 1))
        (.start endedStopDatabase fun i ↦ (splitAndCycle i).program 1)
        (List.replicate 5 (.run false) ++ List.replicate 5 (.run true)) y ∧
      (∀ i, (y.sessions i).phase = .committed) ∧ LiveTiled y.committed.stateLog 1 := by
  have hexec : (execute (step store) (LockWhen (Undisturbed 1))
      (List.replicate 5 (.run false) ++ List.replicate 5 (.run true))
      (.start endedStopDatabase fun i ↦ (splitAndCycle i).program 1)).map
      (fun y ↦ ((y.sessions false).phase, (y.sessions true).phase))
      = some (.committed, .committed) := by decide
  obtain ⟨y, hy, hres⟩ := Option.map_eq_some_iff.mp hexec
  obtain ⟨hfalse, htrue⟩ := Prod.mk.inj hres
  have hrun := run_of_execute hy
  refine ⟨y, hrun, ?_, liveTiled_of_undisturbed splitAndCycle liveTiled_endedStop hrun⟩
  rintro (_ | _)
  · exact hfalse
  · exact htrue

end RwServer
