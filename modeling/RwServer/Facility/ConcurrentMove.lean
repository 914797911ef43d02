import Mathlib
import RwServer.Foundation.ParentMap
import RwServer.Foundation.Run
import RwServer.Foundation.Table
import RwServer.Metrics.Shifts
import RwServer.Orders.Operations

/-!
# Workcenters moved at the same time

A move hangs a workcenter under another one. It first walks from the new parent upwards, one query
for each level, and refuses where it comes to the workcenter that is moved; then it writes. There is
no transaction around the walk and the write, so another move may write in between, and what the
walk has seen is no longer so.

`moves_stay_acyclic` says which writes keep the workcenters without a cycle, and that the recursive
queries that follow the parents then come to an end; `move_alone_acyclic`, that a move that nothing
comes between is such a one.
-/

namespace RwServer

open Relational Transition ParentMap

/-- A row of `Workcenter`, with its site. -/
structure SiteWorkcenter extends Workcenter where
  siteId : Uuid
deriving DecidableEq, Repr

/-- `@@unique([siteId, parentId, name])`, where a missing parent is never the same. -/
def workcenterSchema : Schema SiteWorkcenter Uuid where
  key w := w.id
  clash a b := a.siteId == b.siteId && a.name == b.name && a.parentId.isSome &&
    a.parentId == b.parentId
  clash_symm a b := Bool.eq_iff_iff.mpr <| by
    simp only [Bool.and_eq_true, beq_iff_eq]
    constructor
    · rintro ⟨⟨⟨hsite, hname⟩, hsome⟩, hparent⟩
      exact ⟨⟨⟨hsite.symm, hname.symm⟩, hparent ▸ hsome⟩, hparent.symm⟩
    · rintro ⟨⟨⟨hsite, hname⟩, hsome⟩, hparent⟩
      exact ⟨⟨⟨hsite.symm, hname.symm⟩, hparent ▸ hsome⟩, hparent.symm⟩

/-- The parent of a workcenter. -/
def parentOf (t : Table workcenterSchema) (id : Uuid) : Option Uuid :=
  (t.find id).bind fun w ↦ w.parentId

/-! ## A move, query by query -/

/-- The arguments of a call of `move`. -/
structure MoveCall where
  id : Uuid
  newParentId : Option Uuid
  workspaceId : Option Uuid := none
deriving DecidableEq, Repr

inductive MoveResult
  | moved
  | refused (e : ServiceError)
  /-- The update has failed. -/
  | thrown
deriving DecidableEq, Repr

/-- Which query of a call comes next. -/
inductive MovePhase
  | start
  | readingParent (newParentId siteId : Uuid)
  | walking (checkId : Uuid)
  | writing
  | finished (result : MoveResult)
deriving DecidableEq, Repr

structure MoveState (ι : Type*) where
  workcenters : Table workcenterSchema
  /-- The workspace of a site. -/
  workspaceOf : Uuid → Uuid
  phases : ι → MovePhase

def refusedMove (error code : String) : MovePhase := .finished (.refused ⟨error, code⟩)

/-- The phase after the query that reads the workcenter. -/
def afterStart (call : MoveCall) (workspaceOf : Uuid → Uuid) (current : Option SiteWorkcenter) :
    MovePhase :=
  match current with
  | none => refusedMove "Workcenter not found" "WORKCENTER_NOT_FOUND"
  | some current =>
    if call.workspaceId.any fun w ↦ decide (workspaceOf current.siteId ≠ w) then
      refusedMove "Unauthorized" "WORKSPACE_MISMATCH"
    else match call.newParentId with
    | none => .writing
    | some newParentId =>
      if newParentId = call.id then
        refusedMove "Cannot move workcenter to itself" "CIRCULAR_REFERENCE"
      else .readingParent newParentId current.siteId

/-- The phase after the query that reads the new parent. -/
def afterParent (newParentId siteId : Uuid) (newParent : Option SiteWorkcenter) : MovePhase :=
  match newParent with
  | none => refusedMove "New parent workcenter not found" "PARENT_NOT_FOUND"
  | some newParent =>
    if newParent.siteId ≠ siteId then
      refusedMove "Cannot move workcenter to a different site" "SITE_MISMATCH"
    else .walking newParentId

/-- The phase after the query for one level of the walk. -/
def afterLevel (call : MoveCall) (ancestor : Option SiteWorkcenter) : MovePhase :=
  match ancestor with
  | none => .writing
  | some ancestor =>
    match ancestor.parentId with
    | none => .writing
    | some parentId =>
      if parentId = call.id then
        refusedMove "Cannot move workcenter to its own descendant" "CIRCULAR_REFERENCE"
      else .walking parentId

/-- The update of the parent; it fails where the row or the parent is not there, or the parent has
a child of that name. -/
def writeParent (call : MoveCall) (t : Table workcenterSchema) : Option (Table workcenterSchema) :=
  if call.newParentId.all fun p ↦ (t.find p).isSome then
    t.update call.id fun w ↦ { w with parentId := call.newParentId }
  else none

section

variable {ι : Type*} [DecidableEq ι]

/-- The call `i` goes on to another phase. -/
def MoveState.goto (s : MoveState ι) (i : ι) (phase : MovePhase) : MoveState ι :=
  { s with phases := Function.update s.phases i phase }

/-- The next query of the call `i`. -/
def moveStep (calls : ι → MoveCall) (i : ι) (s : MoveState ι) : Option (MoveState ι) :=
  match s.phases i with
  | .start =>
    some (s.goto i (afterStart (calls i) s.workspaceOf (s.workcenters.find (calls i).id)))
  | .readingParent newParentId siteId =>
    some (s.goto i (afterParent newParentId siteId (s.workcenters.find newParentId)))
  | .walking checkId => some (s.goto i (afterLevel (calls i) (s.workcenters.find checkId)))
  | .writing =>
    match writeParent (calls i) s.workcenters with
    | none => some (s.goto i (.finished .thrown))
    | some workcenters => some { s.goto i (.finished .moved) with workcenters := workcenters }
  | .finished _ => none

@[simp] theorem MoveState.phases_goto_self (s : MoveState ι) (i : ι) (phase : MovePhase) :
    (s.goto i phase).phases i = phase := Function.update_self ..

/-- Before any of the calls. -/
def moveStart (t : Table workcenterSchema) (workspaceOf : Uuid → Uuid) : MoveState ι where
  workcenters := t
  workspaceOf := workspaceOf
  phases _ := .start

/-- What a step does to the workcenters: nothing, unless it is a write that goes through. -/
theorem moveStep_cases {calls : ι → MoveCall} {i : ι} {s s' : MoveState ι}
    (h : moveStep calls i s = some s') :
    (s'.workcenters = s.workcenters) ∨
      (s.phases i = .writing ∧ writeParent (calls i) s.workcenters = some s'.workcenters) := by
  rw [moveStep] at h
  split at h
  · exact .inl (Option.some.inj h ▸ rfl)
  · exact .inl (Option.some.inj h ▸ rfl)
  · exact .inl (Option.some.inj h ▸ rfl)
  · rename_i hphase
    split at h
    · exact .inl (Option.some.inj h ▸ rfl)
    · rename_i workcenters hwrite
      obtain rfl := Option.some.inj h
      exact .inr ⟨hphase, hwrite⟩
  · cases h

/-- A write changes one parent. -/
theorem parentOf_writeParent {call : MoveCall} {t t' : Table workcenterSchema}
    (h : writeParent call t = some t') :
    parentOf t' = Function.update (parentOf t) call.id call.newParentId := by
  rw [writeParent] at h
  split at h
  · have hkey : ∀ w : SiteWorkcenter, workcenterSchema.key { w with parentId := call.newParentId }
        = workcenterSchema.key w := fun _ ↦ rfl
    have hfind := Table.find_update hkey h
    obtain ⟨w, hw, -⟩ := Option.bind_eq_some_iff.mp h
    funext id
    rw [parentOf, hfind]
    by_cases hid : id = call.id
    · rw [if_pos hid, hid, hw, Function.update_self]
      rfl
    · rw [if_neg hid, Function.update_of_ne hid]
      rfl
  · cases h

/-! ## The writes that keep the workcenters without a cycle -/

/-- The condition on a step: where it is the write, the workcenter that is moved is at that moment
neither the new parent nor above it. -/
def NotAboveParent (calls : ι → MoveCall) (s : MoveState ι) (i : ι) : Prop :=
  s.phases i = .writing → ∀ newParentId ∈ (calls i).newParentId,
    ¬ AtOrAbove (parentOf s.workcenters) newParentId (calls i).id

/-- **What one write does.** A write that goes through leaves the workcenters without a cycle iff
the workcenter that is moved is neither the new parent nor above it. -/
theorem acyclic_writeParent_iff {call : MoveCall} {t t' : Table workcenterSchema}
    (hacyclic : Acyclic (parentOf t)) (h : writeParent call t = some t') :
    Acyclic (parentOf t') ↔
      ∀ newParentId ∈ call.newParentId, ¬ AtOrAbove (parentOf t) newParentId call.id := by
  rw [parentOf_writeParent h]
  cases hnew : call.newParentId with
  | none => exact iff_of_true (acyclic_update_none hacyclic call.id) (by simp)
  | some newParentId =>
    rw [acyclic_update_iff hacyclic]
    simp

theorem acyclic_of_moveStep {calls : ι → MoveCall} {i : ι} {s s' : MoveState ι}
    (hacyclic : Acyclic (parentOf s.workcenters)) (hok : NotAboveParent calls s i)
    (h : moveStep calls i s = some s') : Acyclic (parentOf s'.workcenters) := by
  rcases moveStep_cases h with hsame | ⟨hphase, hwrite⟩
  · rw [hsame]
    exact hacyclic
  · exact (acyclic_writeParent_iff hacyclic hwrite).mpr (hok hphase)

/-! ## The recursive queries -/

/-- `station_ancestors`, round by round: the stations of a site with their workcenters, and then
each row with the parent of its workcenter. The query ends with the first round without a row. -/
def stationAncestors (t : Table workcenterSchema) (siteId : Uuid) (stations : List MeteredStation) :
    ℕ → List (Uuid × Uuid)
  | 0 => (stations.filter fun s ↦ decide (s.siteId = siteId ∧ s.deletedAt = none)).filterMap fun s ↦
      s.workcenterId.map fun wc ↦ (s.id, wc)
  | n + 1 => (stationAncestors t siteId stations n).filterMap fun row ↦
      (parentOf t row.2).map fun parentId ↦ (row.1, parentId)

/-- The rows of the `n`-th round have a workcenter of a station, `n` levels up. -/
theorem mem_stationAncestors {t : Table workcenterSchema} {siteId : Uuid}
    {stations : List MeteredStation} {n : ℕ} {row : Uuid × Uuid}
    (h : row ∈ stationAncestors t siteId stations n) :
    ∃ wc, climb (parentOf t) n wc = some row.2 := by
  induction n generalizing row with
  | zero => exact ⟨row.2, rfl⟩
  | succ n ih =>
    obtain ⟨below, hbelow, hrow⟩ := List.mem_filterMap.mp h
    obtain ⟨parentId, hparent, rfl⟩ := Option.map_eq_some_iff.mp hrow
    obtain ⟨wc, hwc⟩ := ih hbelow
    exact ⟨wc, Option.bind_eq_some_iff.mpr ⟨_, hwc, hparent⟩⟩

/-- A chain of parents is not longer than there are workcenters. -/
theorem climb_parentOf {t : Table workcenterSchema} (hacyclic : Acyclic (parentOf t)) (id : Uuid) :
    climb (parentOf t) (t.rows.length + 1) id = none := by
  have hkeys : ∀ a b, parentOf t a = some b → a ∈ (t.rows.map workcenterSchema.key).toFinset := by
    intro a b hab
    obtain ⟨w, hw, -⟩ := Option.bind_eq_some_iff.mp hab
    obtain ⟨hmem, rfl⟩ := Table.find_eq_some_iff.mp hw
    exact List.mem_toFinset.mpr (List.mem_map_of_mem hmem)
  have hcard : (t.rows.map workcenterSchema.key).toFinset.card ≤ t.rows.length :=
    (List.toFinset_card_le _).trans_eq (List.length_map _)
  by_contra hne
  have hsome := climb_mono (Nat.succ_le_succ hcard) (Option.isSome_iff_ne_none.mpr hne)
  rw [climb_eq_none hacyclic hkeys id] at hsome
  cases hsome

/-- **The recursion ends**, after no more rounds than there are workcenters and one. -/
theorem stationAncestors_eq_nil {t : Table workcenterSchema} (hacyclic : Acyclic (parentOf t))
    (siteId : Uuid) (stations : List MeteredStation) :
    ∃ n ≤ t.rows.length + 1, stationAncestors t siteId stations n = [] := by
  refine ⟨_, le_rfl, List.eq_nil_iff_forall_not_mem.mpr fun row hrow ↦ ?_⟩
  obtain ⟨wc, hwc⟩ := mem_stationAncestors hrow
  rw [climb_parentOf hacyclic wc] at hwc
  cases hwc

/-- **Moves that stay without a cycle.** In every interleaving of moves whose writes find the
workcenter that is moved neither at nor above its new parent, the workcenters have no cycle at any
time, and the recursive queries along the parents end. -/
theorem moves_stay_acyclic (calls : ι → MoveCall) {t : Table workcenterSchema}
    (hacyclic : Acyclic (parentOf t)) (workspaceOf : Uuid → Uuid) {steps : List ι}
    {s : MoveState ι}
    (hrun : Run (moveStep calls) (NotAboveParent calls) (moveStart t workspaceOf) steps s) :
    Acyclic (parentOf s.workcenters) ∧ ∀ siteId stations, ∃ n ≤ s.workcenters.rows.length + 1,
      stationAncestors s.workcenters siteId stations n = [] := by
  have hend : Acyclic (parentOf s.workcenters) := by
    induction hrun with
    | nil => exact hacyclic
    | snoc _ hok hstep ih => exact acyclic_of_moveStep ih hok hstep
  exact ⟨hend, fun siteId stations ↦ stationAncestors_eq_nil hend siteId stations⟩

/-! ## A move that nothing comes between -/

/-- What a call has found out about the workcenters as they are. -/
def Checked (t : Table workcenterSchema) (call : MoveCall) : MovePhase → Prop
  | .readingParent newParentId _ => call.newParentId = some newParentId ∧ newParentId ≠ call.id
  | .walking checkId => checkId ≠ call.id ∧ ∀ newParentId ∈ call.newParentId,
      AtOrAbove (parentOf t) newParentId call.id → AtOrAbove (parentOf t) checkId call.id
  | .writing => ∀ newParentId ∈ call.newParentId, ¬ AtOrAbove (parentOf t) newParentId call.id
  | _ => True

theorem checked_afterStart (t : Table workcenterSchema) (call : MoveCall)
    (workspaceOf : Uuid → Uuid) (current : Option SiteWorkcenter) :
    Checked t call (afterStart call workspaceOf current) := by
  unfold afterStart
  split
  · trivial
  · split
    · trivial
    · split
      · rename_i hnone
        intro newParentId hnew
        rw [hnone] at hnew
        cases hnew
      · rename_i hsome
        split
        · trivial
        · exact ⟨hsome, ‹_›⟩

theorem checked_afterParent {t : Table workcenterSchema} {call : MoveCall}
    {newParentId siteId : Uuid} (h : Checked t call (.readingParent newParentId siteId))
    (newParent : Option SiteWorkcenter) :
    Checked t call (afterParent newParentId siteId newParent) := by
  unfold afterParent
  split
  · trivial
  · split
    · trivial
    · refine ⟨h.2, fun p hp habove ↦ ?_⟩
      rw [Option.mem_def, h.1, Option.some.injEq] at hp
      exact hp ▸ habove

/-- A level higher: the moved workcenter is not there, and what is above has still to be looked
at. -/
theorem checked_afterLevel {t : Table workcenterSchema} {call : MoveCall} {checkId : Uuid}
    (h : Checked t call (.walking checkId)) :
    Checked t call (afterLevel call (t.find checkId)) := by
  obtain ⟨hne, habove⟩ := h
  have htop : parentOf t checkId = none → Checked t call .writing := fun hnone p hp hp' ↦
    hne (eq_of_atOrAbove_of_none hnone (habove p hp hp')).symm
  cases hfind : t.find checkId with
  | none => exact htop (by rw [parentOf, hfind, Option.bind_none])
  | some ancestor =>
    have hparent : parentOf t checkId = ancestor.parentId := by
      rw [parentOf, hfind, Option.bind_some]
    unfold afterLevel
    dsimp only
    split
    · rename_i hnone
      exact htop (hparent.trans hnone)
    · rename_i parentId hsome
      split
      · trivial
      · rename_i hid
        exact ⟨hid, fun p hp hp' ↦
          atOrAbove_parent hne.symm (hparent.trans hsome) (habove p hp hp')⟩

/-- **A move alone makes no cycle.** Where only the queries of one call are made, one after the
other, the workcenters stay without a cycle. -/
theorem move_alone_acyclic (calls : ι → MoveCall) (i : ι) {t : Table workcenterSchema}
    (hacyclic : Acyclic (parentOf t)) (workspaceOf : Uuid → Uuid) {steps : List ι}
    {s : MoveState ι}
    (hrun : Run (moveStep calls) (fun _ j ↦ j = i) (moveStart t workspaceOf) steps s) :
    Acyclic (parentOf s.workcenters) := by
  have hinv : Acyclic (parentOf s.workcenters) ∧
      Checked s.workcenters (calls i) (s.phases i) := by
    induction hrun with
    | nil => exact ⟨hacyclic, trivial⟩
    | snoc _ hlabel hstep ih =>
      rename_i s j s' _
      subst hlabel
      obtain ⟨hacyc, hchecked⟩ := ih
      have hok : NotAboveParent calls s j := fun hphase ↦ by
        rw [hphase] at hchecked
        exact hchecked
      refine ⟨acyclic_of_moveStep hacyc hok hstep, ?_⟩
      rw [moveStep] at hstep
      split at hstep
      · obtain rfl := Option.some.inj hstep
        rw [MoveState.phases_goto_self]
        exact checked_afterStart ..
      · rename_i hphase
        rw [hphase] at hchecked
        obtain rfl := Option.some.inj hstep
        rw [MoveState.phases_goto_self]
        exact checked_afterParent hchecked _
      · rename_i hphase
        rw [hphase] at hchecked
        obtain rfl := Option.some.inj hstep
        rw [MoveState.phases_goto_self]
        exact checked_afterLevel hchecked
      · split at hstep
        · obtain rfl := Option.some.inj hstep
          rw [MoveState.phases_goto_self]
          trivial
        · obtain rfl := Option.some.inj hstep
          rw [MoveState.phases_goto_self]
          trivial
      · cases hstep
  exact hinv.1

end

/-! ## Two workcenters -/

/-- Two workcenters of one site, neither under the other. -/
def twoWorkcenters : Table workcenterSchema :=
  ⟨[⟨⟨1, "Line 1", none⟩, 0⟩, ⟨⟨2, "Line 2", none⟩, 0⟩], by decide, by decide⟩

/-- One call hangs the first under the second, the other the second under the first. -/
def crossedMoves : Bool → MoveCall
  | false => ⟨1, some 2, none⟩
  | true => ⟨2, some 1, none⟩

theorem acyclic_twoWorkcenters : Acyclic (parentOf twoWorkcenters) := by
  intro a h
  obtain ⟨b, hb, -⟩ := Relation.TransGen.head'_iff.mp h
  obtain ⟨w, hw, hparent⟩ := Option.bind_eq_some_iff.mp hb
  have hroots : ∀ w ∈ twoWorkcenters.rows, w.parentId = none := by decide
  rw [hroots w (Table.find_eq_some_iff.mp hw).1] at hparent
  cases hparent

/-- Of the two moves the second one comes when the first has written, and is refused. -/
theorem moves_stay_acyclic_refused : ∃ s : MoveState Bool,
    (s.phases false = .finished .moved ∧
      s.phases true = refusedMove "Cannot move workcenter to its own descendant"
        "CIRCULAR_REFERENCE") ∧
      Acyclic (parentOf s.workcenters) ∧ ∀ siteId stations, ∃ n ≤ s.workcenters.rows.length + 1,
        stationAncestors s.workcenters siteId stations n = [] := by
  -- the condition is checked by hand at the one write
  have hcond : ∀ (s : MoveState Bool) (i : Bool), s.phases i ≠ .writing →
      NotAboveParent crossedMoves s i := fun _ _ hread hwrite ↦ absurd hwrite hread
  have hbefore : (execute (moveStep crossedMoves) (fun s i ↦ s.phases i ≠ .writing)
      [false, false, false] (moveStart twoWorkcenters fun _ ↦ 0)).any (fun s ↦
        decide (s.phases false = .writing ∧ parentOf s.workcenters 2 = none ∧
          (((moveStep crossedMoves false s).bind
            (execute (moveStep crossedMoves) (fun s i ↦ s.phases i ≠ .writing)
              [true, true, true])).any fun s' ↦
            decide (s'.phases false = .finished .moved ∧
              s'.phases true = refusedMove "Cannot move workcenter to its own descendant"
                "CIRCULAR_REFERENCE")) = true)) = true := by
    decide +kernel
  obtain ⟨s, hs, hfacts⟩ := (Option.any_eq_true _ _).mp hbefore
  obtain ⟨-, hroot, hafter⟩ := of_decide_eq_true hfacts
  obtain ⟨s', hs', hphases⟩ := (Option.any_eq_true _ _).mp hafter
  obtain ⟨s₁, hwrite, hrest⟩ := Option.bind_eq_some_iff.mp hs'
  have hok : NotAboveParent crossedMoves s false := by
    intro _ newParentId hnew habove
    obtain rfl := Option.some.inj hnew
    exact absurd (eq_of_atOrAbove_of_none hroot habove) (by decide)
  have hrun₁ := (run_of_execute hs).mono hcond
  have hrun₂ := (run_of_execute hrest).mono hcond
  exact ⟨s', of_decide_eq_true hphases, moves_stay_acyclic crossedMoves acyclic_twoWorkcenters _
    ((hrun₁.snoc hok hwrite).trans hrun₂)⟩

/-- **Two moves make a cycle.** Each walks up from its new parent before the other one has written,
finds nothing, and then both write: each of the two workcenters is the parent of the other. -/
theorem not_moves_stay_acyclic : ¬ ∀ s : MoveState Bool,
    Run (moveStep crossedMoves) (fun _ _ ↦ True) (moveStart twoWorkcenters fun _ ↦ 0)
      [false, false, false, true, true, true, false, true] s →
    Acyclic (parentOf s.workcenters) := by
  intro hall
  have hrun : (execute (moveStep crossedMoves) (fun _ _ ↦ True)
      [false, false, false, true, true, true, false, true]
      (moveStart twoWorkcenters fun _ ↦ 0)).any (fun s ↦
        decide (parentOf s.workcenters 1 = some 2 ∧ parentOf s.workcenters 2 = some 1)) = true := by
    decide +kernel
  obtain ⟨s, hs, hparents⟩ := (Option.any_eq_true _ _).mp hrun
  obtain ⟨hfirst, hsecond⟩ := of_decide_eq_true hparents
  exact hall s (run_of_execute hs) 1 (Relation.TransGen.head hfirst (.single hsecond))

end RwServer
