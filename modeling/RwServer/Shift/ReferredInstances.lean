import Mathlib
import RwServer.Materials.ScheduleChanges

/-!
# Instances that history refers to

A reconcile spares the instances that a bucket or a disposition refers to. It looks for buckets in
`MetricBucket` alone, and the archive takes the buckets from there to `MetricBucketLog` after a day;
so an assignment that starts in the past deletes the instances of archived hours.
`reconcile_keepsReferred_iff` says exactly when a reconcile spares all that history refers to.
-/

namespace RwServer

open Relational Transition

/-! ## References -/

/-- A row of `ItemDispositionLog`, as far as it refers to a shift. -/
structure ShiftDisposition where
  id : Uuid
  shiftInstanceId : Option Uuid
deriving DecidableEq, Repr

/-- The tables whose rows refer to shift instances. -/
structure InstanceRefs where
  metricBucket : Table bucketRowSchema
  metricBucketLog : Table bucketRowSchema
  itemDispositionLog : List ShiftDisposition

/-- Some bucket refers to an instance. -/
def isBucketRef (buckets : Table bucketRowSchema) (instanceId : Uuid) : Bool :=
  buckets.rows.any fun r ↦ r.shiftInstanceId == some instanceId

namespace InstanceRefs

variable (refs : InstanceRefs)

/-- Some disposition refers to an instance. -/
def isDispositionRef (instanceId : Uuid) : Bool :=
  refs.itemDispositionLog.any fun d ↦ d.shiftInstanceId == some instanceId

/-- The instances that `findInUseShiftInstanceIds` yields, of any. -/
def findInUseShiftInstanceIds (instanceId : Uuid) : Bool :=
  isBucketRef refs.metricBucket instanceId || refs.isDispositionRef instanceId

/-- A row of one of the tables refers to an instance. -/
def RefersTo (instanceId : Uuid) : Prop :=
  isBucketRef refs.metricBucket instanceId = true ∨
    isBucketRef refs.metricBucketLog instanceId = true ∨ refs.isDispositionRef instanceId = true

/-- Only archived buckets refer to an instance. -/
def ArchivedOnly (instanceId : Uuid) : Prop :=
  isBucketRef refs.metricBucketLog instanceId = true ∧
    refs.findInUseShiftInstanceIds instanceId = false

instance decidableRefersTo (instanceId : Uuid) : Decidable (refs.RefersTo instanceId) :=
  inferInstanceAs (Decidable (_ ∨ _ ∨ _))

instance decidableArchivedOnly (instanceId : Uuid) : Decidable (refs.ArchivedOnly instanceId) :=
  inferInstanceAs (Decidable (_ ∧ _))

/-- The instances that history refers to are still there. -/
def KeepsReferred (before after : Schedule) : Prop :=
  ∀ i ∈ before.instances.rows, refs.RefersTo i.id → i ∈ after.instances.rows

/-- What is referred to is in use, or archived buckets alone refer to it. -/
theorem refersTo_iff {refs : InstanceRefs} {instanceId : Uuid} : refs.RefersTo instanceId ↔
    refs.findInUseShiftInstanceIds instanceId = true ∨ refs.ArchivedOnly instanceId := by
  rw [RefersTo, ArchivedOnly, findInUseShiftInstanceIds, Bool.or_eq_true, Bool.or_eq_false_iff]
  cases isBucketRef refs.metricBucket instanceId <;>
    cases isBucketRef refs.metricBucketLog instanceId <;>
    cases refs.isDispositionRef instanceId <;> simp

end InstanceRefs

/-! ## Reconciliation -/

/-- **A reconcile spares what history refers to** iff archived buckets alone refer to no instance of
the assignments it ends that lasts beyond the new start. -/
theorem reconcile_keepsReferred_iff (refs : InstanceRefs) (sch : Schedule)
    (timezoneOf : Uuid → Timezone) (now : Time) (assignmentId : Uuid) :
    refs.KeepsReferred sch (sch.reconcileShiftInstances timezoneOf refs.findInUseShiftInstanceIds
        now assignmentId) ↔
      ∀ newAssignment ∈ sch.assignment assignmentId, ∀ i ∈ sch.instances.rows,
        sch.isOldInstance newAssignment i = true → ¬refs.ArchivedOnly i.id := by
  cases ha : sch.assignment assignmentId with
  | none =>
    rw [Schedule.reconcileShiftInstances, ha]
    exact iff_of_true (fun _ hi _ ↦ hi) fun a h ↦ absurd h (Option.not_mem_none a)
  | some newAssignment =>
    simp only [Option.mem_some_iff, forall_eq']
    refine forall₂_congr fun i hi ↦ ?_
    have hgone : i ∉ (sch.reconcileShiftInstances timezoneOf refs.findInUseShiftInstanceIds now
          assignmentId).instances.rows ↔
        sch.isOldInstance newAssignment i = true ∧ refs.findInUseShiftInstanceIds i.id = false :=
      Schedule.notMem_reconcile_iff ha hi
    constructor
    · intro hkeeps hold harchived
      -- the query does not look into the archive, so the instance is deleted
      refine hgone.mpr ⟨hold, harchived.2⟩ (hkeeps ?_)
      exact InstanceRefs.refersTo_iff.mpr (.inr harchived)
    · intro hnone hrefers
      by_contra hmem
      obtain ⟨hold, hfree⟩ := hgone.mp hmem
      rcases InstanceRefs.refersTo_iff.mp hrefers with huse | harchived
      · exact Bool.noConfusion (hfree.symm.trans huse)
      · exact hnone hold harchived

/-! ### An assignment that starts in the past -/

/-- What refers to the shifts of a site without dispositions. -/
def StockedSite.refs (s : StockedSite) : InstanceRefs := ⟨s.site.live, s.log, []⟩

/-- The schedule in which an assignment has just been created. -/
def Schedule.withAssignment (sch : Schedule) (a : ShiftAssignment) : Schedule :=
  { sch with assignments := sch.assignments ++ [a] }

/-- The archive takes the hours of the first shift away, and an assignment from the start of the
first one on deletes the shift. -/
theorem not_reconcile_keepsReferred : ∃ s : StockedSite,
    Run stockStep (fun _ _ ↦ True) stockedSite (firstShift ++ [stockedArchive, stockedArchive]) s ∧
    ¬s.refs.KeepsReferred (s.site.schedule.withAssignment (laterAssignment 0))
      ((s.site.schedule.withAssignment (laterAssignment 0)).reconcileShiftInstances
        s.site.facility.siteTimezone s.refs.findInUseShiftInstanceIds (3 * msPerDay) 3) := by
  have hexecute : (execute stockStep (fun _ _ ↦ True)
      (firstShift ++ [stockedArchive, stockedArchive]) stockedSite).any (fun s ↦ decide
        (∃ i ∈ s.site.schedule.instances.rows, s.refs.RefersTo i.id ∧
          i ∉ ((s.site.schedule.withAssignment (laterAssignment 0)).reconcileShiftInstances
            s.site.facility.siteTimezone s.refs.findInUseShiftInstanceIds (3 * msPerDay)
              3).instances.rows)) = true := by
    decide +kernel
  obtain ⟨s, hs, hfacts⟩ := (Option.any_eq_true _ _).mp hexecute
  obtain ⟨i, hi, hrefers, hgone⟩ := of_decide_eq_true hfacts
  exact ⟨s, run_of_execute hs, fun h ↦ hgone (h i hi hrefers)⟩

end RwServer
