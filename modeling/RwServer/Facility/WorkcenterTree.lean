import Mathlib
import RwServer.Facility.ConcurrentMove

/-!
# The tree of workcenters

`create`, `move` and `remove`, one call after the other. A move walks from the new parent upwards
and compares the parent of each workcenter that it passes with the one that is moved; the new parent
itself it has compared before. So it refuses when the new parent is the workcenter or below it, and
only then (`ends_walking`), and it ends, since the workcenters have no cycle before the call; and that
they have none after it is what the refusal is for (`workcenters_stay_tree`).
-/

namespace RwServer

open Relational Transition ParentMap

/-! ## Calls -/

/-- What the calls read besides the workcenters. -/
structure SiteContext where
  siteExists : Uuid → Bool
  /-- The workspace of a site. -/
  workspaceOf : Uuid → Uuid
  /-- `_count: { stations }` of a workcenter. -/
  stationCount : Uuid → ℕ

structure CreateWorkcenterInput where
  name : String
  siteId : Uuid
  parentId : Option Uuid
deriving DecidableEq, Repr

inductive WorkcenterReply
  | data (id : Uuid)
  | success
  | refused (e : ServiceError)
  /-- A statement has failed. -/
  | thrown
deriving DecidableEq, Repr

abbrev WorkcenterTable := Table workcenterSchema

/-- The row is inserted, or the parent has a child of that name. -/
def insertWorkcenter (w : SiteWorkcenter) (t : WorkcenterTable) :
    WorkcenterReply × WorkcenterTable :=
  match t.insert w with
  | some t' => (.data w.id, t')
  | none => (.thrown, t)

/-- `create`; `id` is the identifier that the database makes. -/
def createWorkcenter (ctx : SiteContext) (id : Uuid) (input : CreateWorkcenterInput)
    (t : WorkcenterTable) : WorkcenterReply × WorkcenterTable :=
  let w : SiteWorkcenter := ⟨⟨id, input.name, input.parentId⟩, input.siteId⟩
  if !ctx.siteExists input.siteId then (.refused ⟨"Site not found", "SITE_NOT_FOUND"⟩, t)
  else match input.parentId with
  | none => insertWorkcenter w t
  | some parentId =>
    match t.find parentId with
    | none => (.refused ⟨"Parent workcenter not found", "PARENT_NOT_FOUND"⟩, t)
    | some parent =>
      if parent.siteId ≠ input.siteId then
        (.refused ⟨"Parent workcenter must belong to the same site", "SITE_MISMATCH"⟩, t)
      else insertWorkcenter w t

/-- `remove`. No child is left when the row is deleted, so none loses its parent. -/
def removeWorkcenter (ctx : SiteContext) (id : Uuid) (workspaceId : Option Uuid)
    (t : WorkcenterTable) : WorkcenterReply × WorkcenterTable :=
  match t.find id with
  | none => (.refused ⟨"Workcenter not found", "WORKCENTER_NOT_FOUND"⟩, t)
  | some workcenter =>
    if workspaceId.any fun w ↦ decide (ctx.workspaceOf workcenter.siteId ≠ w) then
      (.refused ⟨"Unauthorized", "WORKSPACE_MISMATCH"⟩, t)
    else if 0 < (t.rows.filter fun w ↦ decide (w.parentId = some id)).length then
      (.refused ⟨"Cannot delete workcenter with children. Delete or move children first.",
        "HAS_CHILDREN"⟩, t)
    else if 0 < ctx.stationCount id then
      (.refused ⟨"Cannot delete workcenter with stations. Delete or move stations first.",
        "HAS_STATIONS"⟩, t)
    else (.success, t.delete fun w ↦ decide (w.id = id))

/-! ## A move alone -/

/-- A call of `move` in some phase, alone. -/
def moveAt (t : WorkcenterTable) (workspaceOf : Uuid → Uuid) (phase : MovePhase) : MoveState Unit :=
  ⟨t, workspaceOf, fun _ ↦ phase⟩

/-- The queries of a call of `move`, one after the other; `none` where `fuel` queries do not
suffice. -/
def runMove (call : MoveCall) : ℕ → MoveState Unit → Option (MoveResult × WorkcenterTable)
  | 0, s =>
    match s.phases () with
    | .finished result => some (result, s.workcenters)
    | _ => none
  | fuel + 1, s =>
    match s.phases () with
    | .finished result => some (result, s.workcenters)
    | _ => (moveStep (fun _ ↦ call) () s).bind (runMove call fuel)

/-- `move`. -/
def moveWorkcenter (ctx : SiteContext) (call : MoveCall) (fuel : ℕ) (t : WorkcenterTable) :
    Option (MoveResult × WorkcenterTable) :=
  runMove call fuel (moveAt t ctx.workspaceOf .start)

/-- The queries that a move needs at most: one for each level, and four. -/
def moveQueries (t : WorkcenterTable) : ℕ := t.rows.length + 4

/-! ## Sequences of calls -/

inductive WorkcenterCall
  | create (id : Uuid) (input : CreateWorkcenterInput)
  | move (call : MoveCall)
  | remove (id : Uuid) (workspaceId : Option Uuid)
deriving DecidableEq, Repr

/-- The workcenters after a call; `none` if it does not end. -/
def treeStep (x : SiteContext × WorkcenterCall) (t : WorkcenterTable) : Option WorkcenterTable :=
  match x.2 with
  | .create id input => some (createWorkcenter x.1 id input t).2
  | .move call => (moveWorkcenter x.1 call (moveQueries t) t).map Prod.snd
  | .remove id workspaceId => some (removeWorkcenter x.1 id workspaceId t).2

/-- No cycle, and each parent is in the site of its child. -/
structure IsTree (t : WorkcenterTable) : Prop where
  acyclic : Acyclic (parentOf t)
  sameSite : ∀ w ∈ t.rows, ∀ parentId ∈ w.parentId, ∃ parent ∈ t.rows,
    parent.id = parentId ∧ parent.siteId = w.siteId

/-- `chain` of `getIncrementTargets`, round by round: the workcenter of a station, and then the
parent of the one before. The query ends with the first round without a row. -/
def chain (t : WorkcenterTable) (firstWcId : Uuid) : ℕ → List SiteWorkcenter
  | 0 => (t.find firstWcId).toList
  | n + 1 => (chain t firstWcId n).filterMap fun c ↦ c.parentId.bind t.find

/-! ## The walk -/

/-- From the phase on, `n` queries suffice for the call to end so. -/
def EndsWith (call : MoveCall) (t : WorkcenterTable) (workspaceOf : Uuid → Uuid) (phase : MovePhase)
    (n : ℕ) (result : MoveResult) (t' : WorkcenterTable) : Prop :=
  ∀ fuel ≥ n, runMove call fuel (moveAt t workspaceOf phase) = some (result, t')

section

variable {call : MoveCall} {t t' : WorkcenterTable} {workspaceOf : Uuid → Uuid}
  {phase phase' : MovePhase} {n : ℕ} {result : MoveResult}

theorem goto_moveAt :
    (moveAt t workspaceOf phase).goto () phase' = moveAt t workspaceOf phase' := by
  rw [MoveState.goto, moveAt, moveAt]
  congr 1

theorem endsWith_finished (result : MoveResult) :
    EndsWith call t workspaceOf (.finished result) 0 result t := by
  intro fuel _
  cases fuel with
  | zero => rfl
  | succ fuel => rfl

theorem EndsWith.mono {m : ℕ} (h : EndsWith call t workspaceOf phase n result t') (hnm : n ≤ m) :
    EndsWith call t workspaceOf phase m result t' := fun fuel hfuel ↦ h fuel (hnm.trans hfuel)

/-- A query, and what follows it. -/
theorem EndsWith.query {t₁ : WorkcenterTable}
    (h : EndsWith call t₁ workspaceOf phase' n result t')
    (hstep : moveStep (fun _ ↦ call) () (moveAt t workspaceOf phase)
      = some (moveAt t₁ workspaceOf phase')) :
    EndsWith call t workspaceOf phase (n + 1) result t' := by
  intro fuel hfuel
  obtain ⟨more, rfl⟩ := Nat.exists_eq_add_of_le' hfuel
  have hrun : runMove call (more + n + 1) (moveAt t workspaceOf phase)
      = (moveStep (fun _ ↦ call) () (moveAt t workspaceOf phase)).bind
          (runMove call (more + n)) := by
    cases phase with
    | finished result' => cases hstep
    | start => rfl
    | readingParent newParentId siteId => rfl
    | walking checkId => rfl
    | writing => rfl
  rw [← Nat.add_assoc, hrun, hstep]
  exact h (more + n) (Nat.le_add_left n more)

/-- The last query. -/
theorem EndsWith.last (hn : 1 ≤ n) (hstep : moveStep (fun _ ↦ call) () (moveAt t workspaceOf phase)
    = some (moveAt t workspaceOf (.finished result))) :
    EndsWith call t workspaceOf phase n result t :=
  ((endsWith_finished result).query hstep).mono hn

/-- How the write ends. -/
def WriteEnds (call : MoveCall) (t : WorkcenterTable) (result : MoveResult)
    (t' : WorkcenterTable) : Prop :=
  (result = .moved ∧ writeParent call t = some t') ∨ (result = .thrown ∧ t' = t)

theorem endsWith_writing (call : MoveCall) (t : WorkcenterTable) (workspaceOf : Uuid → Uuid) :
    ∃ result t', EndsWith call t workspaceOf .writing 1 result t' ∧ WriteEnds call t result t' := by
  cases hwrite : writeParent call t with
  | none =>
    have hstep : moveStep (fun _ ↦ call) () (moveAt t workspaceOf .writing)
        = some ((moveAt t workspaceOf .writing).goto () (.finished .thrown)) := by
      simp only [moveStep, moveAt, hwrite]
    rw [goto_moveAt] at hstep
    exact ⟨.thrown, t, (endsWith_finished _).query hstep, .inr ⟨rfl, rfl⟩⟩
  | some t' =>
    have hstep : moveStep (fun _ ↦ call) () (moveAt t workspaceOf .writing)
        = some { (moveAt t workspaceOf .writing).goto () (.finished .moved) with
          workcenters := t' } := by
      simp only [moveStep, moveAt, hwrite]
    rw [goto_moveAt] at hstep
    exact ⟨.moved, t', (endsWith_finished _).query hstep, .inl ⟨rfl, hwrite⟩⟩

def descendantError : ServiceError :=
  ⟨"Cannot move workcenter to its own descendant", "CIRCULAR_REFERENCE"⟩

theorem moveStep_walking (checkId : Uuid) :
    moveStep (fun _ ↦ call) () (moveAt t workspaceOf (.walking checkId))
      = some (moveAt t workspaceOf (afterLevel call (t.find checkId))) :=
  congrArg some goto_moveAt

/-- At a root the walk is over: nothing is above it, and the write is next. -/
theorem endsWith_walking_of_root {checkId : Uuid} (hne : checkId ≠ call.id)
    (hphase : afterLevel call (t.find checkId) = .writing) (hroot : parentOf t checkId = none) :
    ¬AtOrAbove (parentOf t) checkId call.id ∧ ∃ result t',
      EndsWith call t workspaceOf (.walking checkId) (n + 2) result t' ∧
        WriteEnds call t result t' := by
  obtain ⟨result, t', hends, hwrite⟩ := endsWith_writing call t workspaceOf
  refine ⟨fun habove ↦ hne (eq_of_atOrAbove_of_none hroot habove).symm, result, t', ?_, hwrite⟩
  rw [← hphase] at hends
  exact (hends.query (moveStep_walking checkId)).mono (Nat.le_add_left 2 n)

/-- **The walk ends**, and refuses where the workcenter that is moved is above the one where the
walk begins. -/
theorem endsWith_walking {checkId : Uuid} (hclimb : climb (parentOf t) n checkId = none)
    (hne : checkId ≠ call.id) :
    (AtOrAbove (parentOf t) checkId call.id ∧
        EndsWith call t workspaceOf (.walking checkId) (n + 1) (.refused descendantError) t) ∨
      (¬AtOrAbove (parentOf t) checkId call.id ∧ ∃ result t',
        EndsWith call t workspaceOf (.walking checkId) (n + 1) result t' ∧
          WriteEnds call t result t') := by
  induction n generalizing checkId with
  | zero => cases hclimb
  | succ n ih =>
    rw [climb_succ] at hclimb
    cases hfind : t.find checkId with
    | none =>
      refine .inr (endsWith_walking_of_root hne ?_ ?_)
      · rw [hfind]
        rfl
      · rw [parentOf, hfind, Option.bind_none]
    | some ancestor =>
      have hparent : parentOf t checkId = ancestor.parentId := by
        rw [parentOf, hfind, Option.bind_some]
      cases hsome : ancestor.parentId with
      | none =>
        refine .inr (endsWith_walking_of_root hne ?_ (hparent.trans hsome))
        rw [hfind, afterLevel, hsome]
      | some parentId =>
        rw [hparent, hsome, Option.bind_some] at hclimb
        have hlink : Link (parentOf t) checkId parentId := hparent.trans hsome
        by_cases hid : parentId = call.id
        · refine .inl ⟨hid ▸ .single hlink, ?_⟩
          have hphase : afterLevel call (t.find checkId)
              = .finished (.refused descendantError) := by
            rw [hfind, afterLevel, hsome]
            exact if_pos hid
          have hlast := @moveStep_walking call t workspaceOf checkId
          rw [hphase] at hlast
          exact .last (Nat.le_add_left 1 (n + 1)) hlast
        · have hphase : afterLevel call (t.find checkId) = .walking parentId := by
            rw [hfind, afterLevel, hsome]
            exact if_neg hid
          have hnext := @moveStep_walking call t workspaceOf checkId
          rw [hphase] at hnext
          have habove : AtOrAbove (parentOf t) checkId call.id ↔
              AtOrAbove (parentOf t) parentId call.id :=
            ⟨atOrAbove_parent hne.symm hlink, fun h ↦ h.head hlink⟩
          rw [habove]
          rcases ih hclimb hid with ⟨habove, hends⟩ | ⟨hnot, result, t', hends, hwrite⟩
          · exact .inl ⟨habove, hends.query hnext⟩
          · exact .inr ⟨hnot, result, t', hends.query hnext, hwrite⟩

/-- A new parent in the site of the workcenter that is moved, which the caller may move. -/
structure ValidParent (call : MoveCall) (t : WorkcenterTable) (workspaceOf : Uuid → Uuid)
    (newParentId : Uuid) : Prop where
  given : call.newParentId = some newParentId
  found : ∃ current newParent, t.find call.id = some current ∧
    t.find newParentId = some newParent ∧ newParent.siteId = current.siteId ∧
    ∀ w ∈ call.workspaceId, workspaceOf current.siteId = w

/-- What a call of `move` does: it refuses a new parent that is not valid, or that would make a
cycle, and writes otherwise. -/
inductive MoveOutcome (call : MoveCall) (t : WorkcenterTable) (workspaceOf : Uuid → Uuid) :
    MoveResult → WorkcenterTable → Prop
  | refused {e : ServiceError} (code : e.code ≠ "CIRCULAR_REFERENCE")
      (invalid : ∀ newParentId, ¬ValidParent call t workspaceOf newParentId) :
      MoveOutcome call t workspaceOf (.refused e) t
  | circular {error : String} {newParentId : Uuid} (given : call.newParentId = some newParentId)
      (above : AtOrAbove (parentOf t) newParentId call.id) :
      MoveOutcome call t workspaceOf (.refused ⟨error, "CIRCULAR_REFERENCE"⟩) t
  | wrote {result : MoveResult} {t' : WorkcenterTable} (write : WriteEnds call t result t')
      (safe : ∀ newParentId ∈ call.newParentId, ValidParent call t workspaceOf newParentId ∧
        ¬AtOrAbove (parentOf t) newParentId call.id) : MoveOutcome call t workspaceOf result t'

theorem endsWith_readingParent {current : SiteWorkcenter} {newParentId : Uuid}
    (hacyclic : Acyclic (parentOf t)) (hcurrent : t.find call.id = some current)
    (haccess : ∀ w ∈ call.workspaceId, workspaceOf current.siteId = w)
    (hgiven : call.newParentId = some newParentId) (hne : newParentId ≠ call.id) :
    ∃ result t', EndsWith call t workspaceOf (.readingParent newParentId current.siteId)
      (t.rows.length + 3) result t' ∧ MoveOutcome call t workspaceOf result t' := by
  have hstep : moveStep (fun _ ↦ call) ()
      (moveAt t workspaceOf (.readingParent newParentId current.siteId))
      = some (moveAt t workspaceOf
          (afterParent newParentId current.siteId (t.find newParentId))) :=
    congrArg some goto_moveAt
  have hsame : ∀ p, ValidParent call t workspaceOf p → ∃ newParent,
      t.find newParentId = some newParent ∧ newParent.siteId = current.siteId := by
    intro p hp
    obtain ⟨current', newParent, hcurrent', hparent, hsite, -⟩ := hp.found
    obtain rfl := Option.some.inj (hgiven.symm.trans hp.given)
    obtain rfl := Option.some.inj (hcurrent.symm.trans hcurrent')
    exact ⟨newParent, hparent, hsite⟩
  cases hparent : t.find newParentId with
  | none =>
    rw [hparent] at hstep
    refine ⟨_, t, .last (Nat.le_add_left 1 _) hstep, .refused (by decide) fun p hp ↦ ?_⟩
    obtain ⟨newParent, hfound, -⟩ := hsame p hp
    rw [hparent] at hfound
    cases hfound
  | some newParent =>
    rw [hparent, afterParent] at hstep
    by_cases hsite : newParent.siteId = current.siteId
    · rw [if_neg (not_not.mpr hsite)] at hstep
      have hvalid : ValidParent call t workspaceOf newParentId :=
        ⟨hgiven, current, newParent, hcurrent, hparent, hsite, haccess⟩
      rcases endsWith_walking (climb_parentOf hacyclic newParentId) hne with
        ⟨habove, hends⟩ | ⟨hnot, result, t', hends, hwrite⟩
      · exact ⟨_, t, hends.query hstep, .circular hgiven habove⟩
      · refine ⟨result, t', hends.query hstep, .wrote hwrite fun p hp ↦ ?_⟩
        obtain rfl := Option.some.inj (hgiven.symm.trans hp)
        exact ⟨hvalid, hnot⟩
    · rw [if_pos hsite] at hstep
      refine ⟨_, t, .last (Nat.le_add_left 1 _) hstep, .refused (by decide) fun p hp ↦ ?_⟩
      obtain ⟨newParent', hfound, hsite'⟩ := hsame p hp
      obtain rfl := Option.some.inj (hparent.symm.trans hfound)
      exact hsite hsite'

/-- **A move ends**, and does what it should. -/
theorem endsWith_start (hacyclic : Acyclic (parentOf t)) (call : MoveCall)
    (workspaceOf : Uuid → Uuid) : ∃ result t',
      EndsWith call t workspaceOf .start (moveQueries t) result t' ∧
        MoveOutcome call t workspaceOf result t' := by
  have hstep : moveStep (fun _ ↦ call) () (moveAt t workspaceOf .start)
      = some (moveAt t workspaceOf (afterStart call workspaceOf (t.find call.id))) :=
    congrArg some goto_moveAt
  have hone : 1 ≤ moveQueries t := Nat.le_add_left 1 _
  cases hcurrent : t.find call.id with
  | none =>
    rw [hcurrent] at hstep
    refine ⟨_, t, .last hone hstep, .refused (by decide) fun p hp ↦ ?_⟩
    obtain ⟨current, -, hfound, -⟩ := hp.found
    rw [hcurrent] at hfound
    cases hfound
  | some current =>
    rw [hcurrent, afterStart] at hstep
    cases hdenied : call.workspaceId.any fun w ↦ decide (workspaceOf current.siteId ≠ w) with
    | true =>
      rw [if_pos hdenied] at hstep
      refine ⟨_, t, .last hone hstep, .refused (by decide) fun p hp ↦ ?_⟩
      obtain ⟨w, hw, hno⟩ := (Option.any_eq_true _ _).mp hdenied
      obtain ⟨current', -, hfound, -, -, haccess⟩ := hp.found
      obtain rfl := Option.some.inj (hcurrent.symm.trans hfound)
      exact absurd (haccess w hw) (of_decide_eq_true hno)
    | false =>
      rw [if_neg (by rw [hdenied]; exact Bool.false_ne_true)] at hstep
      have haccess : ∀ w ∈ call.workspaceId, workspaceOf current.siteId = w := by
        intro w hw
        by_contra hno
        refine Bool.eq_false_iff.mp hdenied ((Option.any_eq_true _ _).mpr ⟨w, hw, ?_⟩)
        exact decide_eq_true hno
      cases hgiven : call.newParentId with
      | none =>
        rw [hgiven] at hstep
        obtain ⟨result, t', hends, hwrite⟩ := endsWith_writing call t workspaceOf
        refine ⟨result, t', (hends.query hstep).mono (Nat.le_add_left 2 _),
          .wrote hwrite fun p hp ↦ ?_⟩
        rw [hgiven] at hp
        cases hp
      | some newParentId =>
        rw [hgiven] at hstep
        dsimp only at hstep
        by_cases hself : newParentId = call.id
        · rw [if_pos hself] at hstep
          exact ⟨_, t, .last hone hstep, .circular hgiven (hself ▸ .refl)⟩
        · rw [if_neg hself] at hstep
          obtain ⟨result, t', hends, houtcome⟩ :=
            endsWith_readingParent hacyclic hcurrent haccess hgiven hself
          exact ⟨result, t', hends.query hstep, houtcome⟩

/-- Refused with `CIRCULAR_REFERENCE`. -/
def MoveResult.IsCircular (result : MoveResult) : Prop :=
  ∃ error, result = .refused ⟨error, "CIRCULAR_REFERENCE"⟩

/-- **When a move is refused for a cycle**: when the new parent is the workcenter or below it. -/
theorem MoveOutcome.isCircular_iff {newParentId : Uuid}
    (h : MoveOutcome call t workspaceOf result t')
    (hvalid : ValidParent call t workspaceOf newParentId) :
    result.IsCircular ↔ AtOrAbove (parentOf t) newParentId call.id := by
  cases h with
  | refused code invalid => exact absurd hvalid (invalid newParentId)
  | circular given above =>
    obtain rfl := Option.some.inj (given.symm.trans hvalid.given)
    exact iff_of_true ⟨_, rfl⟩ above
  | wrote write safe =>
    refine iff_of_false ?_ (safe newParentId hvalid.given).2
    rintro ⟨error, rfl⟩
    rcases write with ⟨h, -⟩ | ⟨h, -⟩
    · cases h
    · cases h

end

/-! ## The workcenters stay a tree -/

section

variable {t t' : WorkcenterTable}

theorem parentOf_of_mem {w : SiteWorkcenter} (hw : w ∈ t.rows) : parentOf t w.id = w.parentId := by
  have hfind : t.find w.id = some w := Table.find_of_mem hw
  rw [parentOf, hfind, Option.bind_some]

/-- A parent is a workcenter. -/
theorem IsTree.mem_of_link (h : IsTree t) {a b : Uuid} (hlink : Link (parentOf t) a b) :
    ∃ w ∈ t.rows, w.id = b := by
  obtain ⟨w, hw, hparent⟩ := Option.bind_eq_some_iff.mp hlink
  obtain ⟨parent, hmem, hid, -⟩ := h.sameSite w (Table.find_eq_some_iff.mp hw).1 b hparent
  exact ⟨parent, hmem, hid⟩

/-- A new workcenter is a leaf. -/
theorem IsTree.insert (h : IsTree t) {w : SiteWorkcenter} (hinsert : t.insert w = some t')
    (hparent : ∀ parentId ∈ w.parentId, ∃ parent ∈ t.rows,
      parent.id = parentId ∧ parent.siteId = w.siteId) : IsTree t' := by
  obtain ⟨hnew, -, hrows⟩ := Table.insert_eq_some_iff.mp hinsert
  have hnot : ∀ v ∈ t.rows, v.id ≠ w.id := fun v hv hid ↦ hnew (List.mem_map.mpr ⟨v, hv, hid⟩)
  have hmap : parentOf t' = Function.update (parentOf t) w.id w.parentId := by
    funext id
    by_cases hid : id = w.id
    · rw [hid, Function.update_self]
      exact parentOf_of_mem (by rw [hrows]; exact List.mem_append_right _ List.mem_cons_self)
    · rw [Function.update_of_ne hid, parentOf, parentOf, Table.find, Table.find, hrows,
        List.find?_append, List.find?_singleton]
      have hkey : decide (workcenterSchema.key w = id) = false := decide_eq_false fun heq ↦
        hid heq.symm
      rw [hkey, if_neg Bool.false_ne_true, Option.or_none]
  refine ⟨?_, fun v hv parentId hp ↦ ?_⟩
  · rw [hmap]
    cases hw : w.parentId with
    | none => exact acyclic_update_none h.acyclic w.id
    | some parentId =>
      -- nothing is below the new workcenter
      refine (acyclic_update_iff h.acyclic w.id parentId).mpr fun habove ↦ ?_
      rcases Relation.ReflTransGen.cases_tail habove with heq | ⟨c, -, hlink⟩
      · obtain ⟨parent, hmem, hid, -⟩ := hparent parentId hw
        exact hnot parent hmem (hid.trans heq.symm)
      · obtain ⟨v, hv, hid⟩ := h.mem_of_link hlink
        exact hnot v hv hid
  · have hin : ∃ parent ∈ t.rows, parent.id = parentId ∧ parent.siteId = v.siteId := by
      rw [hrows, List.mem_append, List.mem_singleton] at hv
      rcases hv with hv | rfl
      · exact h.sameSite v hv parentId hp
      · exact hparent parentId hp
    obtain ⟨parent, hmem, hfacts⟩ := hin
    exact ⟨parent, by rw [hrows]; exact List.mem_append_left _ hmem, hfacts⟩

theorem IsTree.create (h : IsTree t) (ctx : SiteContext) (id : Uuid)
    (input : CreateWorkcenterInput) : IsTree (createWorkcenter ctx id input t).2 := by
  have hinsert : ∀ w : SiteWorkcenter, (∀ parentId ∈ w.parentId, ∃ parent ∈ t.rows,
      parent.id = parentId ∧ parent.siteId = w.siteId) → IsTree (insertWorkcenter w t).2 := by
    intro w hparent
    rw [insertWorkcenter]
    cases hrows : t.insert w with
    | none => exact h
    | some t' => exact h.insert hrows hparent
  rw [createWorkcenter]
  split
  · exact h
  · split
    · rename_i hnone
      exact hinsert _ fun parentId hp ↦ by
        rw [hnone] at hp
        cases hp
    · rename_i parentId hsome
      split
      · exact h
      · rename_i parent hfind
        split
        · exact h
        · rename_i hsite
          obtain ⟨hmem, hid⟩ := Table.find_eq_some_iff.mp hfind
          refine hinsert _ fun p hp ↦ ⟨parent, hmem, ?_, not_not.mp hsite⟩
          exact hid.trans (Option.some.inj (hsome.symm.trans hp))

/-- A workcenter without children is taken out. -/
theorem IsTree.remove (h : IsTree t) (ctx : SiteContext) (id : Uuid) (workspaceId : Option Uuid) :
    IsTree (removeWorkcenter ctx id workspaceId t).2 := by
  rw [removeWorkcenter]
  split
  · exact h
  · split
    · exact h
    · split
      · exact h
      · split
        · exact h
        · rename_i hchildren _
          rw [not_lt, Nat.le_zero, List.length_eq_zero_iff, List.filter_eq_nil_iff] at hchildren
          refine ⟨?_, fun w hw parentId hp ↦ ?_⟩
          · have hmap : parentOf (t.delete fun w ↦ decide (w.id = id))
                = Function.update (parentOf t) id none := by
              funext id'
              have hfind : (t.delete fun w ↦ decide (w.id = id)).find id'
                  = if id' = id then none else t.find id' := Table.find_delete_key t id id'
              rw [parentOf, hfind]
              by_cases hid : id' = id
              · rw [if_pos hid, hid, Function.update_self]
                rfl
              · rw [if_neg hid, Function.update_of_ne hid]
                rfl
            rw [hmap]
            exact acyclic_update_none h.acyclic id
          · obtain ⟨hmem, -⟩ := List.mem_filter.mp hw
            obtain ⟨parent, hparent, hid, hsite⟩ := h.sameSite w hmem parentId hp
            refine ⟨parent, List.mem_filter.mpr ⟨hparent, ?_⟩, hid, hsite⟩
            -- the one that is deleted is nobody's parent
            rw [Bool.not_eq_true', decide_eq_false_iff_not]
            intro hdeleted
            refine hchildren w hmem (decide_eq_true ?_)
            rw [← hdeleted, hid]
            exact hp

theorem IsTree.outcome (h : IsTree t) {call : MoveCall} {workspaceOf : Uuid → Uuid}
    {result : MoveResult} (houtcome : MoveOutcome call t workspaceOf result t') : IsTree t' := by
  cases houtcome with
  | refused code invalid => exact h
  | circular given above => exact h
  | wrote write safe =>
    rcases write with ⟨-, hwrite⟩ | ⟨-, rfl⟩
    · refine ⟨(acyclic_writeParent_iff h.acyclic hwrite).mpr fun p hp ↦ (safe p hp).2, ?_⟩
      rw [writeParent] at hwrite
      split at hwrite
      · have hmem := fun x ↦ @Table.mem_update _ _ workcenterSchema _ t t' call.id
          (fun w ↦ { w with parentId := call.newParentId }) (fun _ ↦ rfl) hwrite x
        -- every workcenter is there after the update, in its site
        have hkept : ∀ v ∈ t.rows, ∃ v' ∈ t'.rows, v'.id = v.id ∧ v'.siteId = v.siteId := by
          intro v hv
          by_cases hid : v.id = call.id
          · exact ⟨_, (hmem _).mpr (.inr ⟨v, hv, hid, rfl⟩), rfl, rfl⟩
          · exact ⟨v, (hmem v).mpr (.inl ⟨hv, hid⟩), rfl, rfl⟩
        intro w hw parentId hp
        have hin : ∃ parent ∈ t.rows, parent.id = parentId ∧ parent.siteId = w.siteId := by
          rcases (hmem w).mp hw with ⟨hw, -⟩ | ⟨old, hold, hid, rfl⟩
          · exact h.sameSite w hw parentId hp
          · obtain ⟨current, newParent, hcurrent, hparent, hsite, -⟩ := (safe parentId hp).1.found
            have hsame : t.find call.id = some old := Table.find_eq_some_iff.mpr ⟨hold, hid⟩
            obtain rfl := Option.some.inj (hsame.symm.trans hcurrent)
            obtain ⟨hparent, hpid⟩ := Table.find_eq_some_iff.mp hparent
            exact ⟨newParent, hparent, hpid, hsite⟩
        obtain ⟨parent, hparent, hid, hsite⟩ := hin
        obtain ⟨v', hv', hid', hsite'⟩ := hkept parent hparent
        exact ⟨v', hv', hid'.trans hid, hsite'.trans hsite⟩
      · cases hwrite
    · exact h

/-- The rows of the `n`-th round are `n` levels up. -/
theorem mem_chain {firstWcId : Uuid} {n : ℕ} {w : SiteWorkcenter} (hw : w ∈ chain t firstWcId n) :
    w ∈ t.rows ∧ climb (parentOf t) n firstWcId = some w.id := by
  induction n generalizing w with
  | zero =>
    obtain ⟨hmem, hid⟩ := Table.find_eq_some_iff.mp (Option.mem_toList.mp hw)
    exact ⟨hmem, congrArg some hid.symm⟩
  | succ n ih =>
    obtain ⟨c, hc, hparent⟩ := List.mem_filterMap.mp hw
    obtain ⟨parentId, hsome, hfind⟩ := Option.bind_eq_some_iff.mp hparent
    obtain ⟨hmem, hclimb⟩ := ih hc
    obtain ⟨hw, rfl⟩ := Table.find_eq_some_iff.mp hfind
    refine ⟨hw, Option.bind_eq_some_iff.mpr ⟨c.id, hclimb, ?_⟩⟩
    exact (parentOf_of_mem hmem).trans hsome

theorem chain_eq_nil (hacyclic : Acyclic (parentOf t)) (firstWcId : Uuid) :
    chain t firstWcId (t.rows.length + 1) = [] := by
  refine List.eq_nil_iff_forall_not_mem.mpr fun w hw ↦ ?_
  have hclimb := (mem_chain hw).2
  rw [climb_parentOf hacyclic firstWcId] at hclimb
  cases hclimb

theorem IsTree.step (h : IsTree t) {x : SiteContext × WorkcenterCall}
    (hstep : treeStep x t = some t') : IsTree t' := by
  obtain ⟨ctx, call⟩ := x
  cases call with
  | create id input => exact Option.some.inj hstep ▸ h.create ctx id input
  | remove id workspaceId => exact Option.some.inj hstep ▸ h.remove ctx id workspaceId
  | move call =>
    obtain ⟨result, t₁, hends, houtcome⟩ := endsWith_start h.acyclic call ctx.workspaceOf
    have hmoved : (moveWorkcenter ctx call (moveQueries t) t).map Prod.snd = some t' := hstep
    rw [moveWorkcenter, hends _ le_rfl] at hmoved
    exact Option.some.inj hmoved ▸ h.outcome houtcome

/-- **The workcenters stay a tree.** After any sequence of calls there is no cycle, and each parent is
in the site of its child. So every move ends, and is refused for a cycle exactly when the new parent
is the workcenter or below it; and the recursive query for the ancestors ends. -/
theorem workcenters_stay_tree {t₀ : WorkcenterTable} (h₀ : IsTree t₀)
    {calls : List (SiteContext × WorkcenterCall)}
    (hrun : Run treeStep (fun _ _ ↦ True) t₀ calls t) :
    IsTree t ∧
      (∀ (ctx : SiteContext) (call : MoveCall), ∃ result t',
        (∀ fuel ≥ moveQueries t, moveWorkcenter ctx call fuel t = some (result, t')) ∧
        ∀ newParentId, ValidParent call t ctx.workspaceOf newParentId →
          (result.IsCircular ↔ AtOrAbove (parentOf t) newParentId call.id)) ∧
      ∀ firstWcId, ∃ n ≤ t.rows.length + 1, chain t firstWcId n = [] := by
  have htree : IsTree t := hrun.invariant h₀ fun _ _ _ h _ hstep ↦ h.step hstep
  refine ⟨htree, fun ctx call ↦ ?_, fun firstWcId ↦
    ⟨_, le_rfl, chain_eq_nil htree.acyclic firstWcId⟩⟩
  obtain ⟨result, t', hends, houtcome⟩ := endsWith_start htree.acyclic call ctx.workspaceOf
  exact ⟨result, t', hends, fun newParentId hvalid ↦ houtcome.isCircular_iff hvalid⟩

end

/-- Two workcenters without parents are a tree. -/
theorem isTree_twoWorkcenters : IsTree twoWorkcenters where
  acyclic := acyclic_twoWorkcenters
  sameSite w hw parentId hp := by
    have hroots : ∀ w ∈ twoWorkcenters.rows, w.parentId = none := by decide
    rw [hroots w hw] at hp
    cases hp

def sampleContext : SiteContext := ⟨fun _ ↦ true, fun _ ↦ 0, fun _ ↦ 0⟩

/-- A third workcenter is made under the second, the first is moved under it, and the second then
cannot be moved under the first. -/
theorem workcenters_stay_tree_sample : ∃ t result t', parentOf t 1 = some 3 ∧ IsTree t ∧
    moveWorkcenter sampleContext ⟨2, some 1, none⟩ (moveQueries t) t = some (result, t') ∧
      result.IsCircular := by
  have hrun : ((execute treeStep (fun _ _ ↦ True)
      [(sampleContext, .create 3 ⟨"Cell", 0, some 2⟩), (sampleContext, .move ⟨1, some 3, none⟩)]
      twoWorkcenters).any fun t ↦ decide (parentOf t 1 = some 3 ∧ parentOf t 3 = some 2 ∧
        (t.find 1).map (·.siteId) = some 0 ∧ (t.find 2).map (·.siteId) = some 0)) = true := by
    decide +kernel
  obtain ⟨t, ht, hfacts⟩ := (Option.any_eq_true _ _).mp hrun
  obtain ⟨hfirst, hthird, hsite₁, hsite₂⟩ := of_decide_eq_true hfacts
  obtain ⟨htree, hmoves, -⟩ := workcenters_stay_tree isTree_twoWorkcenters (run_of_execute ht)
  obtain ⟨result, t', hends, hiff⟩ := hmoves sampleContext ⟨2, some 1, none⟩
  obtain ⟨w₁, hw₁, hs₁⟩ := Option.map_eq_some_iff.mp hsite₁
  obtain ⟨w₂, hw₂, hs₂⟩ := Option.map_eq_some_iff.mp hsite₂
  have hvalid : ValidParent ⟨2, some 1, none⟩ t sampleContext.workspaceOf 1 :=
    ⟨rfl, w₂, w₁, hw₂, hw₁, hs₁.trans hs₂.symm, fun _ h ↦ by cases h⟩
  have habove : AtOrAbove (parentOf t) 1 2 := .head hfirst (.single hthird)
  exact ⟨t, result, t', hfirst, htree, hends _ le_rfl, (hiff 1 hvalid).mpr habove⟩

end RwServer
