import Mathlib
import RwServer.Processor.AnyTrigger

/-!
# The conditions a trigger names

An evaluation collects the ids of the conditions that it finds to hold, and stops within a group as
soon as the group is decided. It takes an id when it comes to the condition, before it is known what
becomes of the groups around it; the report of an execution then shows the first of these conditions
as the cause of the event.

A condition that has been come to and that holds is a cause, when every group around it holds, or it
is astray in a group that fails (`Reaches.cause_or_astray`). So the ids are those of causes exactly
when nothing that holds has gone astray.
-/

namespace RwServer

/-- Induction over a clause. -/
@[elab_as_elim]
theorem StationEventTriggerClause.induction {motive : StationEventTriggerClause → Prop}
    (condition : ∀ c, motive (.condition c))
    (group : ∀ id operator conditions, (∀ clause ∈ conditions, motive clause) →
      motive (.group id operator conditions)) : ∀ clause, motive clause :=
  StationEventTriggerClause.rec condition group (List.forall_mem_nil _)
    fun _ _ hhead htail ↦ List.forall_mem_cons.mpr ⟨hhead, htail⟩

/-- The trigger as a group of its clauses. -/
def StationEventTrigger.root (trigger : StationEventTrigger) : StationEventTriggerClause :=
  .group "" trigger.operator trigger.clauses

variable (conv : Conversions) (getSnapshot : SnapshotLookup)

theorem evaluateTrigger_eq (trigger : StationEventTrigger) :
    evaluateTrigger conv trigger getSnapshot = evaluateClause conv getSnapshot trigger.root [] := by
  cases hoperator : trigger.operator <;>
    simp only [StationEventTrigger.root, evaluateClause, evaluateTrigger, hoperator]

namespace StationEventTriggerClause

/-! ## Boolean evaluation -/

mutual

/-- The clause as a boolean formula; a group without clauses is false. -/
def holds : StationEventTriggerClause → Bool
  | .condition c => c.matches conv getSnapshot
  | .group _ .all conditions => !conditions.isEmpty && allHold conditions
  | .group _ .any conditions => anyHolds conditions

def allHold : List StationEventTriggerClause → Bool
  | [] => true
  | clause :: rest => clause.holds && allHold rest

def anyHolds : List StationEventTriggerClause → Bool
  | [] => false
  | clause :: rest => clause.holds || anyHolds rest

end

/-- The clauses of a group that are evaluated: up to the first that decides it. -/
def evaluatedOf (operator : ClauseOperator) :
    List StationEventTriggerClause → List StationEventTriggerClause
  | [] => []
  | clause :: rest =>
    if clause.holds conv getSnapshot = decide (operator = .any) then [clause]
    else clause :: evaluatedOf operator rest

/-- The evaluation of the clause comes to the condition. -/
inductive Reaches : StationEventTriggerClause → StationEventTriggerCondition → Prop
  | condition (c : StationEventTriggerCondition) : Reaches (.condition c) c
  | group {id : String} {operator : ClauseOperator} {conditions : List StationEventTriggerClause}
      {clause : StationEventTriggerClause} {c : StationEventTriggerCondition}
      (hclause : clause ∈ evaluatedOf conv getSnapshot operator conditions)
      (h : clause.Reaches c) : Reaches (.group id operator conditions) c

/-- The condition holds, and so does every group around it. -/
inductive Cause : StationEventTriggerClause → StationEventTriggerCondition → Prop
  | condition {c : StationEventTriggerCondition} (hc : c.matches conv getSnapshot = true) :
      Cause (.condition c) c
  | group {id : String} {operator : ClauseOperator} {conditions : List StationEventTriggerClause}
      {clause : StationEventTriggerClause} {c : StationEventTriggerCondition}
      (hholds : (group id operator conditions).holds conv getSnapshot = true)
      (hclause : clause ∈ conditions) (h : clause.Cause c) : Cause (.group id operator conditions) c

/-- The evaluation comes to the condition within a group that fails. -/
inductive Astray : StationEventTriggerClause → StationEventTriggerCondition → Prop
  | here {id : String} {operator : ClauseOperator} {conditions : List StationEventTriggerClause}
      {c : StationEventTriggerCondition}
      (hfails : (group id operator conditions).holds conv getSnapshot = false)
      (h : (group id operator conditions).Reaches conv getSnapshot c) :
      Astray (.group id operator conditions) c
  | within {id : String} {operator : ClauseOperator} {conditions : List StationEventTriggerClause}
      {clause : StationEventTriggerClause} {c : StationEventTriggerCondition}
      (hclause : clause ∈ evaluatedOf conv getSnapshot operator conditions) (h : clause.Astray c) :
      Astray (.group id operator conditions) c

variable {conv getSnapshot}

theorem mem_of_mem_evaluatedOf {operator : ClauseOperator}
    {conditions : List StationEventTriggerClause} {clause : StationEventTriggerClause}
    (h : clause ∈ evaluatedOf conv getSnapshot operator conditions) : clause ∈ conditions := by
  induction conditions with
  | nil => cases h
  | cons first rest ih =>
    rw [evaluatedOf] at h
    split at h
    · rw [List.mem_singleton.mp h]
      exact List.mem_cons_self
    · obtain rfl | hrest := List.mem_cons.mp h
      · exact List.mem_cons_self
      · exact List.mem_cons_of_mem _ (ih hrest)

theorem Astray.reaches {clause : StationEventTriggerClause} {c : StationEventTriggerCondition}
    (h : clause.Astray conv getSnapshot c) : clause.Reaches conv getSnapshot c := by
  induction h with
  | here hfails h => exact h
  | within hclause h ih => exact .group hclause ih

/-- **What is come to and holds is a cause, or it is astray.** -/
theorem Reaches.cause_or_astray {clause : StationEventTriggerClause}
    {c : StationEventTriggerCondition} (h : clause.Reaches conv getSnapshot c)
    (hc : c.matches conv getSnapshot = true) :
    clause.Cause conv getSnapshot c ∨ clause.Astray conv getSnapshot c := by
  induction h with
  | condition c => exact .inl (.condition hc)
  | @group id operator conditions clause c hclause h ih =>
    obtain hcause | hastray := ih hc
    · cases hholds : (StationEventTriggerClause.group id operator conditions).holds conv
        getSnapshot with
      | true => exact .inl (.group hholds (mem_of_mem_evaluatedOf hclause) hcause)
      | false => exact .inr (.here hholds (.group hclause h))
    · exact .inr (.within hclause hastray)

/-! ## What an evaluation collects -/

/-- The evaluation has this result, and has added the ids of those of the conditions come to that
hold. -/
def Collects (conv : Conversions) (getSnapshot : SnapshotLookup) (evaluation : Evaluation)
    (truth : Bool) (ids : List String) (cameTo : StationEventTriggerCondition → Prop) : Prop :=
  evaluation.matched = truth ∧ ∀ id, id ∈ evaluation.matchedConditionIds ↔
    id ∈ ids ∨ ∃ c, cameTo c ∧ c.matches conv getSnapshot = true ∧ c.id = id

theorem Collects.congr {evaluation : Evaluation} {truth : Bool} {ids : List String}
    {cameTo cameTo' : StationEventTriggerCondition → Prop}
    (h : Collects conv getSnapshot evaluation truth ids cameTo)
    (hcameTo : ∀ c, cameTo c ↔ cameTo' c) :
    Collects conv getSnapshot evaluation truth ids cameTo' := by
  rwa [show cameTo' = cameTo from funext fun c ↦ propext (hcameTo c).symm]

/-- One evaluation after another. -/
theorem Collects.trans {first second : Evaluation} {truth truth' : Bool} {ids : List String}
    {cameTo cameTo' : StationEventTriggerCondition → Prop}
    (h : Collects conv getSnapshot first truth ids cameTo)
    (h' : Collects conv getSnapshot second truth' first.matchedConditionIds cameTo') :
    Collects conv getSnapshot second truth' ids fun c ↦ cameTo c ∨ cameTo' c := by
  refine ⟨h'.1, fun id ↦ ?_⟩
  rw [h'.2, h.2, or_assoc, ← exists_or]
  simp only [or_and_right]

theorem collects_condition (c : StationEventTriggerCondition) (ids : List String) :
    Collects conv getSnapshot (evaluateClause conv getSnapshot (.condition c) ids)
      (c.matches conv getSnapshot) ids (Reaches conv getSnapshot (.condition c)) := by
  have hreaches (c' : StationEventTriggerCondition) :
      Reaches conv getSnapshot (.condition c) c' ↔ c' = c := by
    constructor
    · rintro ⟨⟩
      rfl
    · rintro rfl
      exact .condition c'
  rw [evaluateClause, evaluateCondition]
  cases hc : c.matches conv getSnapshot with
  | true => exact ⟨rfl, fun id ↦ by simp [hreaches, hc, eq_comm (a := id)]⟩
  | false => exact ⟨rfl, fun id ↦ by simp [hreaches, hc]⟩

/-- The clauses of a group come to what those evaluated come to. -/
def ReachesWithin (conv : Conversions) (getSnapshot : SnapshotLookup) (operator : ClauseOperator)
    (conditions : List StationEventTriggerClause) (c : StationEventTriggerCondition) : Prop :=
  ∃ clause ∈ evaluatedOf conv getSnapshot operator conditions, clause.Reaches conv getSnapshot c

/-- A clause that decides the group is the last that is evaluated. -/
theorem reachesWithin_cons_of_decides {operator : ClauseOperator}
    {clause : StationEventTriggerClause} {rest : List StationEventTriggerClause}
    (h : clause.holds conv getSnapshot = decide (operator = .any))
    (c : StationEventTriggerCondition) :
    clause.Reaches conv getSnapshot c ↔
      ReachesWithin conv getSnapshot operator (clause :: rest) c := by
  simp [ReachesWithin, evaluatedOf, h]

theorem reachesWithin_cons_of_not_decides {operator : ClauseOperator}
    {clause : StationEventTriggerClause} {rest : List StationEventTriggerClause}
    (h : clause.holds conv getSnapshot ≠ decide (operator = .any))
    (c : StationEventTriggerCondition) :
    clause.Reaches conv getSnapshot c ∨ ReachesWithin conv getSnapshot operator rest c ↔
      ReachesWithin conv getSnapshot operator (clause :: rest) c := by
  simp [ReachesWithin, evaluatedOf, h]

section Clauses

variable {conditions : List StationEventTriggerClause}
  (hclauses : ∀ clause ∈ conditions, ∀ ids,
    Collects conv getSnapshot (evaluateClause conv getSnapshot clause ids)
      (clause.holds conv getSnapshot) ids (clause.Reaches conv getSnapshot))

include hclauses

theorem collects_all (ids : List String) :
    Collects conv getSnapshot (evaluateAll conv getSnapshot conditions ids)
      (allHold conv getSnapshot conditions) ids
      (ReachesWithin conv getSnapshot .all conditions) := by
  induction conditions generalizing ids with
  | nil => simp [Collects, evaluateAll, allHold, ReachesWithin, evaluatedOf]
  | cons clause rest ih =>
    obtain ⟨hclause, hrest⟩ := List.forall_mem_cons.mp hclauses
    have hfirst := hclause ids
    rw [evaluateAll, allHold]
    rw [hfirst.1]
    cases hholds : clause.holds conv getSnapshot with
    | true =>
      exact (hfirst.trans (ih hrest _)).congr (reachesWithin_cons_of_not_decides (by simp [hholds]))
    | false =>
      rw [hholds] at hfirst
      exact hfirst.congr (reachesWithin_cons_of_decides (by simp [hholds]))

theorem collects_any (ids : List String) :
    Collects conv getSnapshot (evaluateAny conv getSnapshot conditions ids)
      (anyHolds conv getSnapshot conditions) ids
      (ReachesWithin conv getSnapshot .any conditions) := by
  induction conditions generalizing ids with
  | nil => simp [Collects, evaluateAny, anyHolds, ReachesWithin, evaluatedOf]
  | cons clause rest ih =>
    obtain ⟨hclause, hrest⟩ := List.forall_mem_cons.mp hclauses
    have hfirst := hclause ids
    rw [evaluateAny, anyHolds]
    rw [hfirst.1]
    cases hholds : clause.holds conv getSnapshot with
    | true =>
      rw [hholds] at hfirst
      exact hfirst.congr (reachesWithin_cons_of_decides (by simp [hholds]))
    | false =>
      exact (hfirst.trans (ih hrest _)).congr (reachesWithin_cons_of_not_decides (by simp [hholds]))

end Clauses

theorem reaches_group_iff {id : String} {operator : ClauseOperator}
    {conditions : List StationEventTriggerClause} (c : StationEventTriggerCondition) :
    ReachesWithin conv getSnapshot operator conditions c ↔
      (group id operator conditions).Reaches conv getSnapshot c := by
  constructor
  · rintro ⟨clause, hclause, h⟩
    exact .group hclause h
  · rintro ⟨⟩
    exact ⟨_, ‹_›, ‹_›⟩

/-- **What an evaluation gives**: the truth of the clause, and the ids of the conditions it comes to
that hold. -/
theorem collects_clause (clause : StationEventTriggerClause) (ids : List String) :
    Collects conv getSnapshot (evaluateClause conv getSnapshot clause ids)
      (clause.holds conv getSnapshot) ids (clause.Reaches conv getSnapshot) := by
  induction clause using induction generalizing ids with
  | condition c =>
    rw [holds]
    exact collects_condition c ids
  | group id operator conditions ih =>
    refine Collects.congr ?_ reaches_group_iff
    cases conditions with
    | nil =>
      cases operator <;>
        simp [Collects, evaluateClause, holds, anyHolds, ReachesWithin, evaluatedOf]
    | cons clause rest =>
      cases operator with
      | all =>
        rw [evaluateClause, holds, List.isEmpty_cons, Bool.not_false, Bool.true_and,
          if_neg Bool.false_ne_true]
        exact collects_all ih ids
      | any =>
        rw [evaluateClause, holds, List.isEmpty_cons, if_neg Bool.false_ne_true]
        exact collects_any ih ids

/-- A group that holds has a clause that holds among those evaluated. -/
theorem exists_evaluatedOf_holds {conditions : List StationEventTriggerClause}
    (h : anyHolds conv getSnapshot conditions = true) :
    ∃ clause ∈ evaluatedOf conv getSnapshot .any conditions,
      clause.holds conv getSnapshot = true := by
  induction conditions with
  | nil => cases h
  | cons clause rest ih =>
    cases hholds : clause.holds conv getSnapshot with
    | true => exact ⟨clause, by simp [evaluatedOf, hholds], hholds⟩
    | false =>
      rw [anyHolds, hholds, Bool.false_or] at h
      obtain ⟨other, hother, htrue⟩ := ih h
      exact ⟨other, by simp [evaluatedOf, hholds, hother], htrue⟩

/-- A clause that holds comes to a condition that does. -/
theorem exists_reaches_of_holds {clause : StationEventTriggerClause}
    (h : clause.holds conv getSnapshot = true) :
    ∃ c, clause.Reaches conv getSnapshot c ∧ c.matches conv getSnapshot = true := by
  induction clause using induction with
  | condition c =>
    rw [holds] at h
    exact ⟨c, .condition c, h⟩
  | group id operator conditions ih =>
    obtain ⟨clause, hclause, hholds⟩ : ∃ clause ∈ evaluatedOf conv getSnapshot operator conditions,
        clause.holds conv getSnapshot = true := by
      cases operator with
      | any => exact exists_evaluatedOf_holds (by rwa [holds] at h)
      | all =>
        cases conditions with
        | nil => simp [holds] at h
        | cons clause rest =>
          have hclause : clause.holds conv getSnapshot = true := by
            simp only [holds, allHold, Bool.and_eq_true] at h
            exact h.2.1
          exact ⟨clause, by simp [evaluatedOf, hclause], hclause⟩
    obtain ⟨c, hreaches, hc⟩ := ih clause (mem_of_mem_evaluatedOf hclause) hholds
    exact ⟨c, .group hclause hreaches, hc⟩

end StationEventTriggerClause

/-! ## The report -/

mutual

/-- The conditions of a clause, from left to right. -/
def StationEventTriggerClause.conditions :
    StationEventTriggerClause → List StationEventTriggerCondition
  | .condition c => [c]
  | .group _ _ clauses => flattenTriggerConditions clauses

def flattenTriggerConditions : List StationEventTriggerClause → List StationEventTriggerCondition
  | [] => []
  | clause :: rest => clause.conditions ++ flattenTriggerConditions rest

end

/-- The condition reported: the first in the trigger whose id has been collected, or else the first.
-/
def StationEventTrigger.matchedCondition (trigger : StationEventTrigger)
    (matchedConditionIds : List String) : Option StationEventTriggerCondition :=
  let conditions := flattenTriggerConditions trigger.clauses
  (conditions.find? fun condition ↦ decide (condition.id ∈ matchedConditionIds)).orElse fun _ ↦
    conditions.head?

theorem mem_flattenTriggerConditions {clauses : List StationEventTriggerClause}
    {c : StationEventTriggerCondition} :
    c ∈ flattenTriggerConditions clauses ↔ ∃ clause ∈ clauses, c ∈ clause.conditions := by
  induction clauses with
  | nil => simp [flattenTriggerConditions]
  | cons clause rest ih =>
    rw [flattenTriggerConditions, List.mem_append, ih, List.exists_mem_cons_iff]

theorem StationEventTriggerClause.Reaches.mem_conditions {conv : Conversions}
    {getSnapshot : SnapshotLookup} {clause : StationEventTriggerClause}
    {c : StationEventTriggerCondition} (h : clause.Reaches conv getSnapshot c) :
    c ∈ clause.conditions := by
  induction h with
  | condition c => exact List.mem_cons_self
  | group hclause h ih =>
    exact mem_flattenTriggerConditions.mpr ⟨_, mem_of_mem_evaluatedOf hclause, ih⟩

/-- Where one of the conditions of the trigger has been collected, such a one is reported. -/
theorem StationEventTrigger.matchedCondition_eq {trigger : StationEventTrigger} {ids : List String}
    {c : StationEventTriggerCondition} (hc : c ∈ trigger.root.conditions) (hid : c.id ∈ ids) :
    ∃ reported, trigger.matchedCondition ids = some reported ∧ reported.id ∈ ids := by
  dsimp only [matchedCondition]
  cases hfind : (flattenTriggerConditions trigger.clauses).find?
      fun condition ↦ decide (condition.id ∈ ids) with
  | none => exact absurd (decide_eq_true hid) (List.find?_eq_none.mp hfind c hc)
  | some reported =>
    have hreported := List.find?_some hfind
    exact ⟨reported, rfl, of_decide_eq_true hreported⟩

/-! ## Triggers -/

section Triggers

open StationEventTriggerClause

variable (trigger : StationEventTrigger)

/-- What the evaluation of a trigger gives. -/
theorem collects_trigger : Collects conv getSnapshot (evaluateTrigger conv trigger getSnapshot)
    (trigger.root.holds conv getSnapshot) [] (trigger.root.Reaches conv getSnapshot) := by
  rw [evaluateTrigger_eq]
  exact trigger.root.collects_clause []

/-- When the trigger has matched, every id it has collected is that of a cause, and so is that of
the condition reported. -/
def StationEventTrigger.NamesCauses : Prop :=
  (evaluateTrigger conv trigger getSnapshot).matched = true →
    (∀ id ∈ (evaluateTrigger conv trigger getSnapshot).matchedConditionIds,
      ∃ c, trigger.root.Cause conv getSnapshot c ∧ c.id = id) ∧
    ∃ reported, trigger.matchedCondition
        (evaluateTrigger conv trigger getSnapshot).matchedConditionIds = some reported ∧
      ∃ c, trigger.root.Cause conv getSnapshot c ∧ c.id = reported.id

/-- **What a trigger names.** It matches as the boolean formula holds; and it names causes alone
exactly when no condition that holds has been come to in a group that fails, unless it has the id of
a cause. -/
theorem evaluateTrigger_namesCauses_iff :
    (evaluateTrigger conv trigger getSnapshot).matched = trigger.root.holds conv getSnapshot ∧
    (trigger.NamesCauses conv getSnapshot ↔ (trigger.root.holds conv getSnapshot = true →
      ∀ c, trigger.root.Astray conv getSnapshot c → c.matches conv getSnapshot = true →
        ∃ c', trigger.root.Cause conv getSnapshot c' ∧ c'.id = c.id)) := by
  obtain ⟨hmatched, hids⟩ := collects_trigger conv getSnapshot trigger
  simp only [List.not_mem_nil, false_or] at hids
  refine ⟨hmatched, ?_⟩
  rw [StationEventTrigger.NamesCauses, hmatched]
  refine imp_congr_right fun hholds ↦ ⟨fun hnames c hastray hc ↦ ?_, fun hastray ↦ ?_⟩
  · exact hnames.1 c.id ((hids c.id).mpr ⟨c, hastray.reaches, hc, rfl⟩)
  · have hcauses : ∀ id ∈ (evaluateTrigger conv trigger getSnapshot).matchedConditionIds,
        ∃ c, trigger.root.Cause conv getSnapshot c ∧ c.id = id := by
      intro id hid
      obtain ⟨c, hreaches, hc, rfl⟩ := (hids id).mp hid
      obtain hcause | hlost := hreaches.cause_or_astray hc
      · exact ⟨c, hcause, rfl⟩
      · exact hastray c hlost hc
    obtain ⟨c, hreaches, hc⟩ := exists_reaches_of_holds hholds
    obtain ⟨reported, hreported, hid⟩ := StationEventTrigger.matchedCondition_eq
      hreaches.mem_conditions ((hids c.id).mpr ⟨c, hreaches, hc, rfl⟩)
    exact ⟨hcauses, reported, hreported, hcauses reported.id hid⟩

end Triggers

/-! ### A group that fails halfway

The event fires when the door and the machine change together, or the alarm does. -/

def doorChanges : StationEventTriggerCondition where
  id := "door"
  tagId := "door"
  condition := .anyChange
  value := .null

def machineChanges : StationEventTriggerCondition where
  id := "machine"
  tagId := "machine"
  condition := .anyChange
  value := .null

def alarmChanges : StationEventTriggerCondition where
  id := "alarm"
  tagId := "alarm"
  condition := .anyChange
  value := .null

def doorOrAlarm : StationEventTrigger where
  operator := .any
  clauses := [.group "door-and-machine" .all [.condition doorChanges, .condition machineChanges],
    .condition alarmChanges]

/-- The door and the alarm have changed, the machine has not. -/
def doorAndAlarmChanged : SnapshotLookup := fun key ↦
  some { key := key, pointId := key, value := .boolean true,
         previousValue := .boolean (decide (key = "machine")), quality := none, timestamp := none,
         gatewayTimestamp := none, processorTimestamp := none, observedAt := "now",
         source := .stream }

/-- **The report names the door.** Its group has failed, and the alarm has fired the event. -/
theorem not_namesCauses : ¬ ∀ (conv : Conversions) (getSnapshot : SnapshotLookup)
    (trigger : StationEventTrigger), trigger.NamesCauses conv getSnapshot := by
  intro h
  have hnames := h integerConversions doorAndAlarmChanged doorOrAlarm (by decide +kernel)
  obtain ⟨-, reported, hreported, c, hcause, hid⟩ := hnames
  have hdoor : doorOrAlarm.matchedCondition (evaluateTrigger integerConversions doorOrAlarm
      doorAndAlarmChanged).matchedConditionIds = some doorChanges := by
    decide +kernel
  obtain rfl := Option.some_inj.mp (hdoor.symm.trans hreported)
  cases hcause with
  | group _ hclause hwithin =>
    obtain rfl | hclause := List.mem_cons.mp hclause
    · cases hwithin with
      | group hholds _ _ => exact absurd hholds (by decide +kernel)
    · obtain rfl := List.mem_singleton.mp hclause
      cases hwithin with
      | condition _ => exact absurd hid (by decide)

end RwServer
