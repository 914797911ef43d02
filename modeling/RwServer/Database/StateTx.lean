import RwServer.Database.Tables
import RwServer.Replay.Reconcile

/-!
# The state log transactions, statement by statement

`transitionToUp`, `splitDownEntry` and `fixStateEntries` as programs over the database, with their
lock where the source takes it. Run alone, each has the effect of the serial function that
`Station.Transitions` and `Replay.Reconcile` model (`alone_transitionToUp`, `alone_splitDownEntry`,
`alone_fixStateEntries`); under a concurrent schedule it may not.

Each program takes the rest of its transaction as an argument, since the caller may go on with
statements of its own.
-/

namespace RwServer

open Relational ReadCommitted

namespace Tx

variable {α : Type}

/-! ## Statements -/

/-- `UPDATE "StationStateLog" SET f WHERE p`. -/
def updateStates (p : StationStateLog → Bool) (f : StationStateLog → StationStateLog)
    (next : Tx α) : Tx α :=
  .exec (fun db ↦ (db.stateLog.changed p f).map .updateState) next

/-- `INSERT INTO "StationStateLog"`. -/
def insertState (e : StationStateLog) (next : Tx α) : Tx α :=
  .exec (fun _ ↦ [.insertState e]) next

/-- `closeOpenStateEntries`. -/
def closeOpenStateEntries (stationId : Uuid) (endTime : Time) (next : Tx α) : Tx α :=
  updateStates (isOpenOf stationId) (fun e ↦ { e with endTime := some endTime }) next

/-- The update that marks an entry `SLOW`. -/
def markSlow (id : Uuid) (next : Tx α) : Tx α :=
  updateStates (·.id == id) (fun e ↦ { e with status := some .slow }) next

theorem alone_updateStates (p : StationStateLog → Bool) (f : StationStateLog → StationStateLog)
    (next : Tx α) (db : Database) : (updateStates p f next).alone store db
      = (db.stateLog.updateMany p f).bind fun log ↦ next.alone store (db.setStateLog log) := by
  rw [updateStates, Program.alone_exec, writeAll_updateState, Table.updateMany, Option.bind_map]
  rfl

theorem alone_insertState (e : StationStateLog) (next : Tx α) (db : Database) :
    (insertState e next).alone store db
      = (db.stateLog.insert e).bind fun log ↦ next.alone store (db.setStateLog log) := by
  rw [insertState, Program.alone_exec, writeAll_singleton, Database.write, Option.bind_map]
  rfl

/-! ## The transactions -/

/-- The close of `transitionToUp`, made only where an open entry was found. -/
def closeCurrent (stationId : Uuid) (timestamp : Time) (current : Option StationStateLog)
    (next : Tx α) : Tx α :=
  match current with
  | some _ => closeOpenStateEntries stationId timestamp next
  | none => next

/-- `transitionToUp` inside a transaction, which goes on with the new entry and the closed one. -/
def transitionToUp (id freshBlockId stationId : Uuid) (timestamp : Time)
    (options : TransitionToUpOptions)
    (next : StationStateLog × Option ClosedEntryInfo → Tx α) : Tx α :=
  .lock (.reopen timestamp) <|
  .read (fun db ↦ findOpenStateEntry db.stateLog stationId) fun current ↦
  closeCurrent stationId timestamp current <|
  let entry : StationStateLog := CreateStateEntry.row
    { stationId, startTime := timestamp, state := .up, status := .up,
      blockId := upBlockId current freshBlockId, jobBlobId := options.jobBlobId } id
  insertState entry <|
  if options.isSlow then
    markSlow id <| next ({ entry with status := some .slow }, closedEntryInfo current timestamp)
  else next (entry, closedEntryInfo current timestamp)

/-- `splitDownEntry` once it holds the lock: it goes on with the copy it read before. -/
def splitLocked (id : Uuid) (entry : StationStateLog) (splitAt now : Time)
    (next : Except SplitError (StationStateLog × StationStateLog) → Tx α) : Tx α :=
  match validateSplit entry splitAt now with
  | .error err => next (.error err)
  | .ok () =>
    updateStates (·.id == entry.id) (fun e ↦ { e with endTime := some splitAt }) <|
    insertState (secondPart entry id splitAt) <|
    next (.ok ({ entry with endTime := some splitAt }, secondPart entry id splitAt))

/-- `splitDownEntry`: the entry is read first, and the lock is taken after that. -/
def splitDownEntry (id entryId : Uuid) (splitAt now : Time)
    (next : Except SplitError (StationStateLog × StationStateLog) → Tx α) : Tx α :=
  .read (fun db ↦ findSplitEntry db.stateLog entryId) fun found ↦
  match found with
  | .error err => next (.error err)
  | .ok entry => .lock (.split entry splitAt now) <| splitLocked id entry splitAt now next

/-- The transaction of `reconcileReplay`: the lock, and `fixStateEntries`. -/
def fixStateEntries (closedId openId blockId stationId : Uuid) (minTs maxTs now : Time)
    (next : Tx α) : Tx α :=
  .lock (.reconcile minTs maxTs) <|
  updateStates (fun e ↦ e.isLive stationId && overlapsWindow minTs maxTs e.span)
    (fun e ↦ { e with deletedAt := some now }) <|
  .read (fun db ↦ activeJobBlobId db.jobLog stationId) fun jobBlobId ↦
  insertState (replacementEntry closedId stationId minTs (some maxTs) blockId jobBlobId) <|
  insertState (replacementEntry openId stationId maxTs none blockId jobBlobId) next

/-! ## Run alone -/

theorem alone_closeCurrent (stationId : Uuid) (timestamp : Time)
    (current : Option StationStateLog) (next : Tx α) (db : Database) :
    (closeCurrent stationId timestamp current next).alone store db
      = (RwServer.closeCurrent db.stateLog stationId timestamp current).bind
        fun log ↦ next.alone store (db.setStateLog log) := by
  cases current with
  | none => rfl
  | some _ => exact alone_updateStates _ _ next db

theorem alone_transitionToUp (id freshBlockId stationId : Uuid) (timestamp : Time)
    (options : TransitionToUpOptions)
    (next : StationStateLog × Option ClosedEntryInfo → Tx α) (db : Database) :
    (transitionToUp id freshBlockId stationId timestamp options next).alone store db
      = (RwServer.transitionToUp db.stateLog id freshBlockId stationId timestamp options).bind
        fun r ↦ (next r.2).alone store (db.setStateLog r.1) := by
  rw [transitionToUp, Program.alone_lock, Program.alone_read, alone_closeCurrent,
    RwServer.transitionToUp, Option.bind_eq_bind, Option.bind_assoc]
  refine Option.bind_congr fun log _ ↦ ?_
  rw [alone_insertState, Option.bind_assoc]
  refine Option.bind_congr fun log' _ ↦ ?_
  cases options.isSlow with
  | false => rfl
  | true =>
    rw [if_pos rfl, if_pos rfl, markSlow, alone_updateStates, Option.bind_assoc]
    rfl

theorem alone_splitLocked (id : Uuid) (entry : StationStateLog) (splitAt now : Time)
    (next : Except SplitError (StationStateLog × StationStateLog) → Tx α) (db : Database) :
    (splitLocked id entry splitAt now next).alone store db
      = (splitEntry db.stateLog id entry splitAt now).bind
        fun r ↦ (next r.2).alone store (db.setStateLog r.1) := by
  rw [splitLocked, splitEntry]
  cases validateSplit entry splitAt now with
  | error err => rfl
  | ok u =>
    dsimp only
    rw [alone_updateStates, Option.bind_eq_bind, Option.bind_assoc]
    refine Option.bind_congr fun log _ ↦ ?_
    rw [alone_insertState, Option.bind_assoc]
    rfl

theorem alone_splitDownEntry (id entryId : Uuid) (splitAt now : Time)
    (next : Except SplitError (StationStateLog × StationStateLog) → Tx α) (db : Database) :
    (splitDownEntry id entryId splitAt now next).alone store db
      = (RwServer.splitDownEntry db.stateLog id entryId splitAt now).bind
        fun r ↦ (next r.2).alone store (db.setStateLog r.1) := by
  rw [splitDownEntry, Program.alone_read, RwServer.splitDownEntry]
  cases findSplitEntry db.stateLog entryId with
  | error err => rfl
  | ok entry => exact alone_splitLocked id entry splitAt now next db

theorem alone_fixStateEntries (closedId openId blockId stationId : Uuid) (minTs maxTs now : Time)
    (next : Tx α) (db : Database) :
    (fixStateEntries closedId openId blockId stationId minTs maxTs now next).alone store db
      = (RwServer.fixStateEntries db.stateLog db.jobLog closedId openId blockId stationId minTs
          maxTs now).bind fun log ↦ next.alone store (db.setStateLog log) := by
  rw [fixStateEntries, Program.alone_lock, alone_updateStates, RwServer.fixStateEntries,
    Option.bind_eq_bind, Option.bind_assoc]
  refine Option.bind_congr fun log _ ↦ ?_
  rw [Program.alone_read, alone_insertState, Option.bind_assoc]
  refine Option.bind_congr fun log' _ ↦ ?_
  rw [alone_insertState]
  rfl

end Tx

end RwServer
