import Mathlib
import RwServer.Foundation.ForestSums
import RwServer.Metrics.EntityPaths
import RwServer.Metrics.RollupExact

/-!
# The parents in the metrics tick

The last phase of a tick sums the rows of the stations of a site into the rows of its workcenters
and of the site, in one statement for each site: `cascadeParentRollup` goes up from every station
along the parents, while the plain rollup (`rollupStationBuckets`) goes down from every parent to
its stations. A row that has the sums already is not written.

`parents_add_up` says that after such a statement the rows of the parents are what the plain rollup
would store, and that they add up level by level: the row of a workcenter is the sum over its own
stations and over the workcenters right under it. It stays so among the statements for other sites
and any other writes, until one touches a row of the site.
-/

namespace RwServer

open Windows Relational ParentMap Transition

/-! ## `cascadeParentRollup` -/

namespace Facility

variable (f : Facility) (siteId : Uuid)

/-- `all_stations`. -/
def allStations : List MeteredStation :=
  f.stations.filter fun s ↦ s.siteId == siteId && s.deletedAt.isNone

/-- A round of `station_ancestors`: the stations with their workcenters, and then each row with the
parent of its workcenter. -/
def ancestorRound : ℕ → List (Uuid × Uuid)
  | 0 => (f.allStations siteId).filterMap fun s ↦ s.workcenterId.map fun wc ↦ (s.id, wc)
  | n + 1 => (ancestorRound n).filterMap fun row ↦
      (f.parentOf row.2).map fun parentId ↦ (row.1, parentId)

/-- `station_ancestors`. There is no row after as many rounds as there are workcenters. -/
def stationAncestors : List (Uuid × Uuid) :=
  (List.range f.workcenters.length).flatMap (f.ancestorRound siteId)

/-- The stations that are joined for a parent of the site. -/
def stationsOf : BucketEntityType → Uuid → List Uuid
  | .workcenter, id => ((f.stationAncestors siteId).filter fun row ↦ row.2 == id).map Prod.fst
  | .site, id => if id = siteId then (f.allStations siteId).map MeteredStation.id else []
  | .station, _ => []
  | .job, _ => []

end Facility

/-- The key of the row of a station that goes into the row of a parent. -/
def BucketKey.ofStation (k : BucketKey) (stationId : Uuid) : BucketKey :=
  ⟨.station, stationId, k.granularity, k.startTime⟩

/-- `hour_start - INTERVAL '24 hours'`. -/
def parentCutoff (timestamp : Time) : Time := timestamp / msPerHour * msPerHour - msPerDay

section

variable (f : Facility) (siteId : Uuid) (timestamp : Time) (live : Table bucketRowSchema)

/-- The rows in the group of a parent. -/
def groupRows (k : BucketKey) : List BucketRow :=
  (f.stationsOf siteId k.entityType k.entityId).flatMap fun stationId ↦ live.rows.filter fun r ↦
    decide (r.key = k.ofStation stationId) && decide (parentCutoff timestamp ≤ r.startTime)

/-- `parent_sums`: the sums of a group, which is there if it has a row. -/
def parentSums (k : BucketKey) : Option (KpiKey → ℤ) :=
  let rows := groupRows f siteId timestamp live k
  if rows.isEmpty then none
  else some fun key ↦ (rows.map fun r ↦ r.kpis.additive key).sum

/-- What `upd_parents` sets. -/
def BucketRow.setGroupSums (sums : KpiKey → ℤ) (r : BucketRow) : BucketRow :=
  { r with
    kpis := BucketKPIs.store ⟨sums, none⟩
    currentJobId := none
    currentJobName := none }

/-- A column `IS DISTINCT FROM` what is set. -/
def BucketRow.isDistinct (sums : KpiKey → ℤ) (r : BucketRow) : Bool :=
  additiveKpiKeys.any (fun key ↦ r.kpis.additive key != sums key) ||
    r.kpis.currentStandardCycle.isSome || r.currentJobId.isSome || r.currentJobName.isSome

/-- The row is updated. -/
def isUpdated (r : BucketRow) : Bool :=
  (parentSums f siteId timestamp live r.key).any fun sums ↦ r.isDistinct sums

/-- The row with the sums of its group, where there is one. -/
def summed (r : BucketRow) : BucketRow :=
  ((parentSums f siteId timestamp live r.key).map r.setGroupSums).getD r

theorem mild_summed : Table.Mild bucketRowSchema (summed f siteId timestamp live) :=
  mild_of_same
    (fun r ↦ by rw [summed]; cases parentSums f siteId timestamp live r.key <;> rfl)
    (fun r ↦ by rw [summed]; cases parentSums f siteId timestamp live r.key <;> rfl)

/-- The rows afterwards, and those that are sent to the clients. -/
def cascadeParentRollup : Table bucketRowSchema × List BucketRow :=
  (live.modify (isUpdated f siteId timestamp live) (summed f siteId timestamp live)
      (mild_summed f siteId timestamp live),
    (live.rows.filter (isUpdated f siteId timestamp live)).map (summed f siteId timestamp live))

end

/-! ## What is written -/

section

variable {f : Facility} {siteId : Uuid} {timestamp : Time} {live : Table bucketRowSchema}

/-- No column is distinct iff there is nothing to set. -/
theorem BucketRow.isDistinct_eq_false_iff {sums : KpiKey → ℤ} {r : BucketRow} :
    r.isDistinct sums = false ↔ r.setGroupSums sums = r := by
  simp only [isDistinct, Bool.or_eq_false_iff, List.any_eq_false, bne_iff_ne, ne_eq, not_not,
    Option.isSome_eq_false_iff, Option.isNone_iff_eq_none]
  constructor
  · rintro ⟨⟨⟨hsums, hstd⟩, hid⟩, hname⟩
    have hkpis : r.kpis = BucketKPIs.store ⟨sums, none⟩ :=
      StoredKPIs.ext_columns (funext fun key ↦ hsums key (mem_additiveKpiKeys key)) hstd
    rw [setGroupSums, ← hkpis, ← hid, ← hname]
  · intro h
    rw [← h]
    exact ⟨⟨⟨fun _ _ ↦ rfl, rfl⟩, rfl⟩, rfl⟩

theorem isUpdated_eq_false_iff {r : BucketRow} :
    isUpdated f siteId timestamp live r = false ↔ summed f siteId timestamp live r = r := by
  rw [isUpdated, summed]
  cases parentSums f siteId timestamp live r.key with
  | none => exact iff_of_true rfl rfl
  | some sums => exact BucketRow.isDistinct_eq_false_iff

/-- The row under a key afterwards. -/
theorem find_cascadeParentRollup (k : BucketKey) :
    (cascadeParentRollup f siteId timestamp live).1.find k
      = (live.find k).map (summed f siteId timestamp live) := by
  rw [cascadeParentRollup, Table.find_modify]
  congr 1
  funext r
  cases hr : isUpdated f siteId timestamp live r with
  | true => rfl
  | false => exact (isUpdated_eq_false_iff.mp hr).symm

/-- Where every row has its sums, nothing is written. -/
theorem cascadeParentRollup_eq_self (h : ∀ r ∈ live.rows, summed f siteId timestamp live r = r) :
    cascadeParentRollup f siteId timestamp live = (live, []) := by
  have hnone : ∀ r ∈ live.rows, isUpdated f siteId timestamp live r = false := fun r hr ↦
    isUpdated_eq_false_iff.mpr (h r hr)
  refine Prod.ext (Table.ext_rows ?_) ?_
  · refine (List.map_congr_left fun r hr ↦ ?_).trans (List.map_id _)
    rw [hnone r hr]
    rfl
  · rw [cascadeParentRollup, List.filter_eq_nil_iff.mpr fun r hr ↦ by simp [hnone r hr]]
    rfl

/-! ## The rows of a group -/

/-- A station has one row at most in a group. -/
theorem filter_ofStation (k : BucketKey) (stationId : Uuid) :
    (live.rows.filter fun r ↦
        decide (r.key = k.ofStation stationId) && decide (parentCutoff timestamp ≤ r.startTime))
      = if parentCutoff timestamp ≤ k.startTime then (live.find (k.ofStation stationId)).toList
        else [] := by
  have hstart : ∀ r : BucketRow, r.key = k.ofStation stationId → r.startTime = k.startTime := by
    intro r hr
    rw [BucketRow.startTime, hr]
    rfl
  split
  · rename_i hrecent
    have hcongr : ∀ r ∈ live.rows,
        (decide (r.key = k.ofStation stationId) && decide (parentCutoff timestamp ≤ r.startTime))
          = decide (bucketRowSchema.key r = k.ofStation stationId) := by
      intro r _
      by_cases hr : r.key = k.ofStation stationId
      · rw [hstart r hr, decide_eq_true hrecent, Bool.and_true]
        rfl
      · rw [decide_eq_false hr, Bool.false_and]
        exact (decide_eq_false hr).symm
    rw [List.filter_congr hcongr]
    cases hfind : live.find (k.ofStation stationId) with
    | none =>
      exact List.filter_eq_nil_iff.mpr fun r hr ↦ by
        rw [decide_eq_true_eq]
        exact Table.find_eq_none_iff.mp hfind r hr
    | some r => exact Table.filter_key hfind
  · rename_i hold
    refine List.filter_eq_nil_iff.mpr fun r _ htrue ↦ hold ?_
    rw [Bool.and_eq_true, decide_eq_true_eq, decide_eq_true_eq] at htrue
    exact hstart r htrue.1 ▸ htrue.2

/-- A value of the row under a key, and zero where there is none. -/
def kpiIn (live : Table bucketRowSchema) (k : BucketKey) (key : KpiKey) : ℤ :=
  ((live.find k).map fun r ↦ r.kpis.additive key).getD 0

variable (f siteId live) in
/-- A station of the parent has a row. -/
def IsSummed (k : BucketKey) : Prop :=
  ∃ id ∈ f.stationsOf siteId k.entityType k.entityId, (live.find (k.ofStation id)).isSome = true

/-- The sum over the values that there are. -/
theorem sum_flatMap_toList {α β : Type} (l : List α) (g : α → Option β) (v : β → ℤ) :
    ((l.flatMap fun a ↦ (g a).toList).map v).sum = (l.map fun a ↦ ((g a).map v).getD 0).sum := by
  induction l with
  | nil => rfl
  | cons a l ih =>
    rw [List.flatMap_cons, List.map_append, List.sum_append, List.map_cons, List.sum_cons, ih]
    congr 1
    cases g a with
    | none => rfl
    | some b => exact add_zero _

theorem groupRows_eq {k : BucketKey} (hrecent : parentCutoff timestamp ≤ k.startTime) :
    groupRows f siteId timestamp live k
      = (f.stationsOf siteId k.entityType k.entityId).flatMap fun id ↦
        (live.find (k.ofStation id)).toList := by
  rw [groupRows]
  refine List.flatMap_congr fun id _ ↦ ?_
  rw [filter_ofStation, if_pos hrecent]

/-- There are sums where a station has a row of the last day. -/
theorem parentSums_eq_none {k : BucketKey}
    (h : ¬ (parentCutoff timestamp ≤ k.startTime ∧ IsSummed f siteId live k)) :
    parentSums f siteId timestamp live k = none := by
  have hempty : groupRows f siteId timestamp live k = [] := by
    refine List.flatMap_eq_nil_iff.mpr fun id hid ↦ ?_
    rw [filter_ofStation]
    split
    · rename_i hrecent
      have hnone : ¬ (live.find (k.ofStation id)).isSome = true := fun hsome ↦
        h ⟨hrecent, id, hid, hsome⟩
      rw [Option.not_isSome_iff_eq_none.mp hnone]
      rfl
    · rfl
  rw [parentSums, hempty]
  rfl

theorem parentSums_eq_some {k : BucketKey} (hrecent : parentCutoff timestamp ≤ k.startTime)
    (h : IsSummed f siteId live k) : parentSums f siteId timestamp live k
      = some fun key ↦ ((f.stationsOf siteId k.entityType k.entityId).map fun id ↦
        kpiIn live (k.ofStation id) key).sum := by
  obtain ⟨id, hid, hsome⟩ := h
  obtain ⟨r, hr⟩ := Option.isSome_iff_exists.mp hsome
  have hrows := @groupRows_eq f siteId timestamp live k hrecent
  have hne : groupRows f siteId timestamp live k ≠ [] := by
    rw [hrows]
    exact List.ne_nil_of_mem
      (List.mem_flatMap.mpr ⟨id, hid, Option.mem_toList.mpr (Option.mem_def.mpr hr)⟩)
  rw [parentSums, if_neg (by rwa [List.isEmpty_iff]), hrows]
  exact congrArg some (funext fun key ↦ sum_flatMap_toList _ _ _)

end

/-! ## The stations of a parent -/

theorem filterMap_sublist_map {α β : Type} {l : List α} {g : α → Option β} {v : α → β}
    (h : ∀ a, ∀ b ∈ g a, v a = b) : (l.filterMap g).Sublist (l.map v) := by
  induction l with
  | nil => exact List.Sublist.slnil
  | cons a l ih =>
    rw [List.map_cons]
    cases hg : g a with
    | none =>
      rw [List.filterMap_cons_none hg]
      exact ih.cons _
    | some b =>
      rw [List.filterMap_cons_some hg, h a b hg]
      exact ih.cons_cons _

/-- The station is in the workcenter, or in one under it. -/
abbrev Facility.IsIn (f : Facility) (s : MeteredStation) (workcenterId : Uuid) : Prop :=
  Below f.parentOf MeteredStation.workcenterId workcenterId s

/-- Primary keys, foreign keys, no cycle of workcenters, and no workcenter with stations of two
sites. -/
structure Facility.Consistent (f : Facility) : Prop extends f.Sound where
  workcenterIds : (f.workcenters.map Workcenter.id).Nodup
  stationIds : (f.stations.map MeteredStation.id).Nodup
  oneSite : ∀ s ∈ f.stations, ∀ s' ∈ f.stations, ∀ workcenterId,
    f.IsIn s workcenterId → f.IsIn s' workcenterId → s.siteId = s'.siteId

section

variable {f : Facility} {siteId : Uuid}

theorem mem_allStations {s : MeteredStation} :
    s ∈ f.allStations siteId ↔ s ∈ f.stations ∧ s.siteId = siteId ∧ s.deletedAt = none := by
  rw [Facility.allStations, List.mem_filter, Bool.and_eq_true, beq_iff_eq,
    Option.isNone_iff_eq_none]

theorem nodup_allStations (h : f.Consistent) (siteId : Uuid) :
    ((f.allStations siteId).map MeteredStation.id).Nodup :=
  (List.filter_sublist.map _).nodup h.stationIds

/-- A station of the site is known by its id. -/
theorem eq_of_mem_allStations (h : f.Consistent) {s s' : MeteredStation}
    (hs : s ∈ f.allStations siteId) (hs' : s' ∈ f.allStations siteId) (hid : s.id = s'.id) :
    s = s' :=
  List.inj_on_of_nodup_map (nodup_allStations h siteId) hs hs' hid

theorem mem_ancestorRound {n : ℕ} {row : Uuid × Uuid} : row ∈ f.ancestorRound siteId n ↔
    ∃ s ∈ f.allStations siteId, s.id = row.1 ∧
      ∃ workcenterId ∈ s.workcenterId, climb f.parentOf n workcenterId = some row.2 := by
  induction n generalizing row with
  | zero =>
    rw [Facility.ancestorRound, List.mem_filterMap]
    constructor
    · rintro ⟨s, hs, hrow⟩
      obtain ⟨workcenterId, hworkcenter, rfl⟩ := Option.map_eq_some_iff.mp hrow
      exact ⟨s, hs, rfl, workcenterId, hworkcenter, rfl⟩
    · rintro ⟨s, hs, hid, workcenterId, hworkcenter, hclimb⟩
      refine ⟨s, hs, Option.map_eq_some_iff.mpr ⟨workcenterId, hworkcenter, ?_⟩⟩
      exact Prod.ext hid (Option.some_inj.mp hclimb)
  | succ n ih =>
    rw [Facility.ancestorRound, List.mem_filterMap]
    constructor
    · rintro ⟨below, hbelow, hrow⟩
      obtain ⟨parentId, hparent, rfl⟩ := Option.map_eq_some_iff.mp hrow
      obtain ⟨s, hs, hid, workcenterId, hworkcenter, hclimb⟩ := ih.mp hbelow
      exact ⟨s, hs, hid, workcenterId, hworkcenter,
        Option.bind_eq_some_iff.mpr ⟨_, hclimb, hparent⟩⟩
    · rintro ⟨s, hs, hid, workcenterId, hworkcenter, hclimb⟩
      obtain ⟨c, hc, hlink⟩ := climb_succ_eq_some hclimb
      refine ⟨(row.1, c), ih.mpr ⟨s, hs, hid, workcenterId, hworkcenter, hc⟩, ?_⟩
      exact Option.map_eq_some_iff.mpr ⟨row.2, hlink, rfl⟩

/-- No station is twice in a round. -/
theorem nodup_ancestorRound (h : f.Consistent) (siteId : Uuid) (n : ℕ) :
    ((f.ancestorRound siteId n).map Prod.fst).Nodup := by
  -- a round has some of the stations of the round before it, in their order
  suffices hsub : ((f.ancestorRound siteId n).map Prod.fst).Sublist
      ((f.allStations siteId).map MeteredStation.id) from hsub.nodup (nodup_allStations h siteId)
  induction n with
  | zero =>
    rw [Facility.ancestorRound, List.map_filterMap]
    exact filterMap_sublist_map fun s x hx ↦ by
      obtain ⟨row, hrow, rfl⟩ := Option.map_eq_some_iff.mp hx
      obtain ⟨_, -, rfl⟩ := Option.map_eq_some_iff.mp hrow
      rfl
  | succ n ih =>
    refine List.Sublist.trans ?_ ih
    rw [Facility.ancestorRound, List.map_filterMap]
    exact filterMap_sublist_map fun below x hx ↦ by
      obtain ⟨row, hrow, rfl⟩ := Option.map_eq_some_iff.mp hx
      obtain ⟨_, -, rfl⟩ := Option.map_eq_some_iff.mp hrow
      rfl

theorem stationsOf_workcenter (f : Facility) (siteId workcenterId : Uuid) :
    f.stationsOf siteId .workcenter workcenterId
      = (List.range f.workcenters.length).flatMap fun n ↦
        ((f.ancestorRound siteId n).filter fun row ↦ row.2 == workcenterId).map Prod.fst := by
  rw [Facility.stationsOf, Facility.stationAncestors, List.filter_flatMap, List.map_flatMap]

/-- The stations that are found by going up are those that are in the workcenter. -/
theorem mem_stationsOf_workcenter (h : f.Consistent) {workcenterId id : Uuid} :
    id ∈ f.stationsOf siteId .workcenter workcenterId ↔
      ∃ s ∈ f.allStations siteId, s.id = id ∧ f.IsIn s workcenterId := by
  rw [stationsOf_workcenter, List.mem_flatMap]
  constructor
  · rintro ⟨n, -, hid⟩
    obtain ⟨row, hrow, rfl⟩ := List.mem_map.mp hid
    obtain ⟨hmem, heq⟩ := List.mem_filter.mp hrow
    obtain ⟨s, hs, hsid, wc, hwc, hclimb⟩ := mem_ancestorRound.mp hmem
    rw [beq_iff_eq.mp heq] at hclimb
    exact ⟨s, hs, hsid, wc, hwc, atOrAbove_of_climb hclimb⟩
  · rintro ⟨s, hs, rfl, wc, hwc, habove⟩
    obtain ⟨n, hn⟩ := exists_climb_of_atOrAbove habove
    have hrounds : n < f.workcenters.length := by
      by_contra hge
      have hsome := climb_mono (not_lt.mp hge) (Option.isSome_of_eq_some hn)
      rw [h.climb_eq_none (h.workcenterId s (mem_allStations.mp hs).1 wc hwc)] at hsome
      cases hsome
    refine ⟨n, List.mem_range.mpr hrounds, List.mem_map.mpr ⟨(s.id, workcenterId), ?_, rfl⟩⟩
    exact List.mem_filter.mpr ⟨mem_ancestorRound.mpr ⟨s, hs, rfl, wc, hwc, hn⟩, beq_self_eq_true _⟩

/-- And none of them is found twice. -/
theorem nodup_stationsOf (h : f.Consistent) (siteId : Uuid) (entityType : BucketEntityType)
    (id : Uuid) : (f.stationsOf siteId entityType id).Nodup := by
  cases entityType with
  | station => exact List.nodup_nil
  | job => exact List.nodup_nil
  | site =>
    rw [Facility.stationsOf]
    split
    · exact nodup_allStations h siteId
    · exact List.nodup_nil
  | workcenter =>
    rw [stationsOf_workcenter, List.nodup_flatMap]
    refine ⟨fun n _ ↦ (List.filter_sublist.map _).nodup (nodup_ancestorRound h siteId n), ?_⟩
    refine List.nodup_range.imp fun {n m} hne stationId hn hm ↦ hne ?_
    -- a station that is in two rounds is as many steps below the workcenter as both say
    obtain ⟨row, hrow, rfl⟩ := List.mem_map.mp hn
    obtain ⟨row', hrow', hsame⟩ := List.mem_map.mp hm
    obtain ⟨hmem, heq⟩ := List.mem_filter.mp hrow
    obtain ⟨hmem', heq'⟩ := List.mem_filter.mp hrow'
    obtain ⟨s, hs, hsid, wc, hwc, hclimb⟩ := mem_ancestorRound.mp hmem
    obtain ⟨s', hs', hsid', wc', hwc', hclimb'⟩ := mem_ancestorRound.mp hmem'
    have hstation : s = s' := eq_of_mem_allStations h hs hs' (by rw [hsid, hsid', hsame])
    subst hstation
    obtain rfl := Option.some_inj.mp (hwc.symm.trans hwc')
    rw [beq_iff_eq.mp heq] at hclimb
    rw [beq_iff_eq.mp heq'] at hclimb'
    exact climb_injective h.acyclic hclimb hclimb'

/-! ### Going down instead -/

theorem Facility.Consistent.workcenter_eq_some_iff (h : f.Consistent) {w : Workcenter} {id : Uuid} :
    f.workcenter id = some w ↔ w ∈ f.workcenters ∧ w.id = id := by
  rw [Facility.workcenter]
  constructor
  · intro hfind
    exact ⟨List.mem_of_find?_eq_some hfind,
      beq_iff_eq.mp (List.find?_some (p := fun x : Workcenter ↦ x.id == id) hfind)⟩
  · rintro ⟨hw, rfl⟩
    cases hfind : f.workcenters.find? (·.id == w.id) with
    | none => exact absurd (beq_self_eq_true w.id) (List.find?_eq_none.mp hfind w hw)
    | some v =>
      have hid : v.id = w.id :=
        beq_iff_eq.mp (List.find?_some (p := fun x : Workcenter ↦ x.id == w.id) hfind)
      rw [List.inj_on_of_nodup_map h.workcenterIds (List.mem_of_find?_eq_some hfind) hw hid]

/-- The workcenters that are found by going down are those under the first. -/
theorem mem_collectDescendantWorkcenters (h : f.Consistent) {levels : ℕ} {id x : Uuid} :
    x ∈ collectDescendantWorkcenters f.workcenters levels id ↔
      ∃ n < levels, climb f.parentOf (n + 1) x = some id := by
  have hparent : ∀ {w : Workcenter}, w ∈ f.workcenters → f.parentOf w.id = w.parentId := by
    intro w hw
    rw [Facility.parentOf, h.workcenter_eq_some_iff.mpr ⟨hw, rfl⟩]
    rfl
  induction levels generalizing id with
  | zero => exact iff_of_false List.not_mem_nil (by rintro ⟨n, hn, -⟩; omega)
  | succ levels ih =>
    simp only [collectDescendantWorkcenters, List.mem_flatMap, List.mem_filter, beq_iff_eq,
      List.mem_cons, ih]
    constructor
    · rintro ⟨w, ⟨hw, hid⟩, rfl | ⟨n, hn, hclimb⟩⟩
      · exact ⟨0, by omega, (hparent hw).trans hid⟩
      · exact ⟨n + 1, by omega,
          Option.bind_eq_some_iff.mpr ⟨w.id, hclimb, (hparent hw).trans hid⟩⟩
    · rintro ⟨n, hn, hclimb⟩
      obtain ⟨c, hc, hlink⟩ := climb_succ_eq_some hclimb
      obtain ⟨w, hw, hid⟩ := Option.bind_eq_some_iff.mp hlink
      obtain ⟨hmem, rfl⟩ := h.workcenter_eq_some_iff.mp hw
      refine ⟨w, ⟨hmem, hid⟩, ?_⟩
      cases n with
      | zero => exact .inl (Option.some_inj.mp hc)
      | succ n => exact .inr ⟨n, by omega, hc⟩

theorem mem_getChildStationIds_workcenter (h : f.Consistent) {workcenterId id : Uuid} :
    id ∈ getChildStationIds f .workcenter workcenterId ↔
      ∃ s ∈ f.stations, s.deletedAt = none ∧ s.id = id ∧ f.IsIn s workcenterId := by
  have hfound : ∀ s ∈ f.stations, s.workcenterId.any (fun wc ↦ (collectDescendantWorkcenters
      f.workcenters f.workcenters.length workcenterId ++ [workcenterId]).contains wc) = true ↔
        f.IsIn s workcenterId := by
    intro s hs
    rw [Option.any_eq_true]
    refine exists_congr fun wc ↦ and_congr_right fun hwc ↦ ?_
    rw [List.contains_iff_mem, List.mem_append, List.mem_singleton,
      mem_collectDescendantWorkcenters h]
    constructor
    · rintro (⟨n, -, hclimb⟩ | rfl)
      · exact atOrAbove_of_climb hclimb
      · exact .refl
    · intro habove
      obtain ⟨n, hn⟩ := exists_climb_of_atOrAbove habove
      cases n with
      | zero => exact .inr (Option.some_inj.mp hn)
      | succ n =>
        refine .inl ⟨n, ?_, hn⟩
        by_contra hge
        have hsome := climb_mono (show f.workcenters.length ≤ n + 1 by omega)
          (Option.isSome_of_eq_some hn)
        rw [h.climb_eq_none (h.workcenterId s hs wc hwc)] at hsome
        cases hsome
  rw [getChildStationIds, List.mem_map]
  simp only [List.mem_filter, Bool.and_eq_true, Option.isNone_iff_eq_none]
  constructor
  · rintro ⟨s, ⟨hs, hany, hdeleted⟩, rfl⟩
    exact ⟨s, hs, hdeleted, rfl, (hfound s hs).mp hany⟩
  · rintro ⟨s, hs, hdeleted, rfl, hin⟩
    exact ⟨s, ⟨hs, (hfound s hs).mpr hin, hdeleted⟩, rfl⟩

/-- Both ways come to the same stations, for a parent of the site. -/
theorem toFinset_stationsOf (h : f.Consistent) {entityType : BucketEntityType} {id : Uuid}
    (hne : f.stationsOf siteId entityType id ≠ []) :
    (f.stationsOf siteId entityType id).toFinset
      = (getChildStationIds f entityType id).toFinset := by
  cases entityType with
  | station => exact absurd rfl hne
  | job => exact absurd rfl hne
  | site =>
    rw [Facility.stationsOf] at hne ⊢
    split
    · rename_i heq
      rw [heq]
      rfl
    · rename_i hother
      exact absurd (if_neg hother) hne
  | workcenter =>
    obtain ⟨first, hfirst⟩ := List.exists_mem_of_ne_nil _ hne
    obtain ⟨s₀, hs₀, -, hin₀⟩ := (mem_stationsOf_workcenter h).mp hfirst
    obtain ⟨hmem₀, hsite₀, -⟩ := mem_allStations.mp hs₀
    ext x
    rw [List.mem_toFinset, List.mem_toFinset, mem_stationsOf_workcenter h,
      mem_getChildStationIds_workcenter h]
    constructor
    · rintro ⟨s, hs, hid, hin⟩
      obtain ⟨hmem, -, hdeleted⟩ := mem_allStations.mp hs
      exact ⟨s, hmem, hdeleted, hid, hin⟩
    · rintro ⟨s, hmem, hdeleted, hid, hin⟩
      -- as the workcenter has a station of the site, this one is of the site, too
      have hsite : s.siteId = siteId := (h.oneSite s hmem s₀ hmem₀ id hin hin₀).trans hsite₀
      exact ⟨s, mem_allStations.mpr ⟨hmem, hsite, hdeleted⟩, hid, hin⟩

/-- There is a row of the workcenter, where a station is in it. -/
theorem mem_workcenters_of_isIn (h : f.Consistent) {s : MeteredStation} (hs : s ∈ f.stations)
    {workcenterId : Uuid} (hin : f.IsIn s workcenterId) :
    workcenterId ∈ f.workcenters.map Workcenter.id := by
  rw [← Facility.workcenter_isSome_iff]
  obtain ⟨wc, hwc, habove⟩ := hin
  rcases Relation.ReflTransGen.cases_tail habove with rfl | ⟨c, -, hlink⟩
  · exact h.workcenterId s hs _ hwc
  · obtain ⟨w, hw, hparent⟩ := Option.bind_eq_some_iff.mp hlink
    exact h.parentId w (h.workcenter_eq_some_iff.mp hw).1 _ hparent

end

/-! ## Sums, level by level -/

section

variable {f : Facility} {siteId : Uuid} {timestamp : Time} {live : Table bucketRowSchema}

instance decidableIsSummed (k : BucketKey) : Decidable (IsSummed f siteId live k) :=
  inferInstanceAs (Decidable (∃ id ∈ f.stationsOf siteId k.entityType k.entityId,
    (live.find (k.ofStation id)).isSome = true))

/-- What the stations of a parent sum to. -/
def stationSum (f : Facility) (siteId : Uuid) (live : Table bucketRowSchema) (k : BucketKey)
    (key : KpiKey) : ℤ :=
  ((f.stationsOf siteId k.entityType k.entityId).map fun id ↦ kpiIn live (k.ofStation id) key).sum

theorem stationSum_eq_zero {k : BucketKey} (h : ¬ IsSummed f siteId live k) (key : KpiKey) :
    stationSum f siteId live k key = 0 := by
  refine List.sum_eq_zero fun x hx ↦ ?_
  obtain ⟨id, hid, rfl⟩ := List.mem_map.mp hx
  have hnone : ¬ (live.find (k.ofStation id)).isSome = true := fun hsome ↦ h ⟨id, hid, hsome⟩
  rw [kpiIn, Option.not_isSome_iff_eq_none.mp hnone]
  rfl

/-- The sum of a workcenter, over the rows of its stations. -/
theorem stationSum_workcenter (h : f.Consistent) [∀ w, DecidablePred fun s ↦ f.IsIn s w]
    {k : BucketKey} (hk : k.entityType = .workcenter) (key : KpiKey) :
    stationSum f siteId live k key
      = ∑ s ∈ (f.allStations siteId).toFinset with f.IsIn s k.entityId,
        kpiIn live (k.ofStation s.id) key := by
  rw [stationSum, ← List.sum_toFinset _ (nodup_stationsOf h siteId _ _)]
  refine (Finset.sum_nbij MeteredStation.id ?_ ?_ ?_ fun s _ ↦ rfl).symm
  · intro s hs
    obtain ⟨hmem, hin⟩ := Finset.mem_filter.mp hs
    rw [List.mem_toFinset, hk, mem_stationsOf_workcenter h]
    exact ⟨s, List.mem_toFinset.mp hmem, rfl, hin⟩
  · intro s hs s' hs' hid
    exact eq_of_mem_allStations h (List.mem_toFinset.mp (Finset.mem_filter.mp hs).1)
      (List.mem_toFinset.mp (Finset.mem_filter.mp hs').1) hid
  · intro id hid
    rw [Finset.mem_coe, List.mem_toFinset, hk, mem_stationsOf_workcenter h] at hid
    obtain ⟨s, hs, hsid, hin⟩ := hid
    exact ⟨s, Finset.mem_coe.mpr (Finset.mem_filter.mpr ⟨List.mem_toFinset.mpr hs, hin⟩), hsid⟩

theorem stationSum_site (h : f.Consistent) {k : BucketKey} (hk : k.entityType = .site)
    (hid : k.entityId = siteId) (key : KpiKey) : stationSum f siteId live k key
      = ∑ s ∈ (f.allStations siteId).toFinset, kpiIn live (k.ofStation s.id) key := by
  rw [stationSum, hk, Facility.stationsOf, if_pos hid, List.map_map,
    List.sum_toFinset _ (nodup_allStations h siteId).of_map]
  rfl

/-- The key of the row of another workcenter, at the same time. -/
def BucketKey.ofWorkcenter (k : BucketKey) (workcenterId : Uuid) : BucketKey :=
  ⟨.workcenter, workcenterId, k.granularity, k.startTime⟩

/-- Of the workcenters that hang under another one, or are roots, those without a row of a station
contribute nothing. -/
theorem sum_isSummed (k : BucketKey) (key : KpiKey) (p : Uuid → Prop) [DecidablePred p]
    (C : Finset Uuid) : ∑ c ∈ C with p c ∧ IsSummed f siteId live (k.ofWorkcenter c),
        stationSum f siteId live (k.ofWorkcenter c) key
      = ∑ c ∈ C with p c, stationSum f siteId live (k.ofWorkcenter c) key := by
  refine Finset.sum_subset (fun c hc ↦ ?_) fun c hc hnot ↦ stationSum_eq_zero (fun hsum ↦ ?_) key
  · obtain ⟨hmem, hp, -⟩ := Finset.mem_filter.mp hc
    exact Finset.mem_filter.mpr ⟨hmem, hp⟩
  · obtain ⟨hmem, hp⟩ := Finset.mem_filter.mp hc
    exact hnot (Finset.mem_filter.mpr ⟨hmem, hp, hsum⟩)

/-- A workcenter: its own stations, and the workcenters right under it. -/
theorem stationSum_levels (h : f.Consistent) (k : BucketKey) (workcenterId : Uuid) (key : KpiKey) :
    stationSum f siteId live (k.ofWorkcenter workcenterId) key
      = ∑ s ∈ (f.allStations siteId).toFinset with s.workcenterId = some workcenterId,
          kpiIn live (k.ofStation s.id) key +
        ∑ c ∈ (f.workcenters.map Workcenter.id).toFinset with f.parentOf c = some workcenterId ∧
            IsSummed f siteId live (k.ofWorkcenter c),
          stationSum f siteId live (k.ofWorkcenter c) key := by
  classical
  have hbelow := @stationSum_workcenter f siteId live h _
  rw [sum_isSummed, hbelow rfl, Finset.sum_congr rfl fun c _ ↦ hbelow rfl key]
  refine sum_below h.acyclic (fun c s hs hin _ ↦ List.mem_toFinset.mpr ?_) _
  exact mem_workcenters_of_isIn h (mem_allStations.mp (List.mem_toFinset.mp hs)).1 hin

/-- The site: its stations outside the workcenters, and the workcenters that are in no other. -/
theorem stationSum_top (h : f.Consistent) {k : BucketKey} (hk : k.entityType = .site)
    (hid : k.entityId = siteId) (key : KpiKey) : stationSum f siteId live k key
      = ∑ s ∈ (f.allStations siteId).toFinset with s.workcenterId = none,
          kpiIn live (k.ofStation s.id) key +
        ∑ c ∈ (f.workcenters.map Workcenter.id).toFinset with f.parentOf c = none ∧
            IsSummed f siteId live (k.ofWorkcenter c),
          stationSum f siteId live (k.ofWorkcenter c) key := by
  classical
  have hbelow := @stationSum_workcenter f siteId live h _
  rw [sum_isSummed, stationSum_site h hk hid, Finset.sum_congr rfl fun c _ ↦ hbelow rfl key]
  refine sum_roots (fun s hs p hp ↦ ?_) (fun r s hs hin _ ↦ List.mem_toFinset.mpr ?_) _
  · have hmem := (mem_allStations.mp (List.mem_toFinset.mp hs)).1
    exact ⟨_, h.climb_eq_none (h.workcenterId s hmem p hp)⟩
  · exact mem_workcenters_of_isIn h (mem_allStations.mp (List.mem_toFinset.mp hs)).1 hin

end

/-! ## Rollups among other writes -/

/-- The tick of a site comes to its last phase, or anything else happens to the tables. -/
inductive ParentStep
  | rollup (siteId : Uuid) (timestamp : Time)
  | write (t : BucketTables)

/-- A row of a station of the site, of a workcenter with such a station, or of the site. -/
def Facility.IsOfSite (f : Facility) (siteId : Uuid) (k : BucketKey) : Prop :=
  (k.entityType = .station ∧ ∃ s ∈ f.allStations siteId, s.id = k.entityId) ∨
    (f.stationsOf siteId k.entityType k.entityId ≠ [])

section

variable (f : Facility) (siteId : Uuid) (timestamp : Time)

def parentStep : ParentStep → BucketTables → Option BucketTables
  | .rollup siteId timestamp, t =>
    some { t with live := (cascadeParentRollup f siteId timestamp t.live).1 }
  | .write t', _ => some t'

/-- A write leaves the rows of the site as they are. -/
def LeavesSite (t : BucketTables) : ParentStep → Prop
  | .rollup _ _ => True
  | .write t' => ∀ k, f.IsOfSite siteId k →
      t'.live.find k = t.live.find k ∧ t'.log.find k = t.log.find k

/-- Every row has the sums of its group. -/
def HoldsSums (live : Table bucketRowSchema) : Prop :=
  ∀ k r, live.find k = some r → summed f siteId timestamp live r = r

end

section

variable {f : Facility} {siteId : Uuid} {timestamp : Time} {live live' : Table bucketRowSchema}

theorem isOfSite_ofStation (h : f.Consistent) {k : BucketKey} {id : Uuid}
    (hid : id ∈ f.stationsOf siteId k.entityType k.entityId) :
    f.IsOfSite siteId (k.ofStation id) := by
  refine .inl ⟨rfl, ?_⟩
  cases htype : k.entityType with
  | station => rw [htype] at hid; exact absurd hid List.not_mem_nil
  | job => rw [htype] at hid; exact absurd hid List.not_mem_nil
  | workcenter =>
    rw [htype, mem_stationsOf_workcenter h] at hid
    obtain ⟨s, hs, hsid, -⟩ := hid
    exact ⟨s, hs, hsid⟩
  | site =>
    rw [htype, Facility.stationsOf] at hid
    split at hid
    · obtain ⟨s, hs, hsid⟩ := List.mem_map.mp hid
      exact ⟨s, hs, hsid⟩
    · exact absurd hid List.not_mem_nil

/-- The sums depend on the rows of the stations. -/
theorem parentSums_congr {k : BucketKey} (h : ∀ id ∈ f.stationsOf siteId k.entityType k.entityId,
    live'.find (k.ofStation id) = live.find (k.ofStation id)) :
    parentSums f siteId timestamp live' k = parentSums f siteId timestamp live k := by
  have hgroup : groupRows f siteId timestamp live' k = groupRows f siteId timestamp live k :=
    List.flatMap_congr fun id hid ↦ by rw [filter_ofStation, filter_ofStation, h id hid]
  rw [parentSums, parentSums, hgroup]

theorem summed_congr {r : BucketRow}
    (h : ∀ id ∈ f.stationsOf siteId r.key.entityType r.key.entityId,
      live'.find (r.key.ofStation id) = live.find (r.key.ofStation id)) :
    summed f siteId timestamp live' r = summed f siteId timestamp live r := by
  rw [summed, summed, parentSums_congr h]

/-- Nothing is summed into the row of a station. -/
theorem find_ofStation_cascade (siteId' : Uuid) (timestamp' : Time) (k : BucketKey) (id : Uuid) :
    (cascadeParentRollup f siteId' timestamp' live).1.find (k.ofStation id)
      = live.find (k.ofStation id) := by
  rw [find_cascadeParentRollup]
  cases hfind : live.find (k.ofStation id) with
  | none => rfl
  | some r =>
    have hkey : r.key = k.ofStation id := (Table.find_eq_some_iff.mp hfind).2
    have hnone : parentSums f siteId' timestamp' live r.key = none :=
      parentSums_eq_none fun hsome ↦ by
        obtain ⟨-, x, hx, -⟩ := hsome
        rw [hkey] at hx
        exact List.not_mem_nil hx
    rw [Option.map_some, summed, hnone]
    rfl

theorem isSummed_of_parentSums {k : BucketKey} {sums : KpiKey → ℤ}
    (h : parentSums f siteId timestamp live k = some sums) :
    parentCutoff timestamp ≤ k.startTime ∧ IsSummed f siteId live k := by
  by_contra hnot
  rw [parentSums_eq_none hnot] at h
  cases h

/-- No parent has stations of two sites. -/
theorem eq_of_stationsOf (h : f.Consistent) {siteId' : Uuid} {entityType : BucketEntityType}
    {id x y : Uuid} (hx : x ∈ f.stationsOf siteId entityType id)
    (hy : y ∈ f.stationsOf siteId' entityType id) : siteId = siteId' := by
  cases entityType with
  | station => exact absurd hx List.not_mem_nil
  | job => exact absurd hx List.not_mem_nil
  | site =>
    rw [Facility.stationsOf] at hx hy
    split at hx
    · split at hy
      · rename_i h₁ h₂
        exact h₁.symm.trans h₂
      · exact absurd hy List.not_mem_nil
    · exact absurd hx List.not_mem_nil
  | workcenter =>
    obtain ⟨s, hs, -, hin⟩ := (mem_stationsOf_workcenter h).mp hx
    obtain ⟨s', hs', -, hin'⟩ := (mem_stationsOf_workcenter h).mp hy
    obtain ⟨hmem, hsite, -⟩ := mem_allStations.mp hs
    obtain ⟨hmem', hsite', -⟩ := mem_allStations.mp hs'
    exact hsite.symm.trans ((h.oneSite s hmem s' hmem' id hin hin').trans hsite')

/-- **A rollup** gives every row its sums. -/
theorem holdsSums_cascade (f : Facility) (siteId : Uuid) (timestamp : Time)
    (live : Table bucketRowSchema) :
    HoldsSums f siteId timestamp (cascadeParentRollup f siteId timestamp live).1 := by
  intro k r' hr'
  rw [find_cascadeParentRollup] at hr'
  obtain ⟨r, -, rfl⟩ := Option.map_eq_some_iff.mp hr'
  have hkey : (summed f siteId timestamp live r).key = r.key :=
    (mild_summed f siteId timestamp live).key r
  rw [summed_congr fun id _ ↦ find_ofStation_cascade siteId timestamp _ id]
  conv_lhs => rw [summed, hkey]
  rw [summed]
  cases parentSums f siteId timestamp live r.key <;> rfl

/-- **Another rollup** leaves rows that have their sums as they are, or is one of the same site that
goes further back. -/
theorem HoldsSums.cascade (h : f.Consistent) (hsums : HoldsSums f siteId timestamp live)
    (siteId' : Uuid) (timestamp' : Time) :
    HoldsSums f siteId timestamp (cascadeParentRollup f siteId' timestamp' live).1 := by
  intro k r' hr'
  rw [find_cascadeParentRollup] at hr'
  obtain ⟨r, hr, rfl⟩ := Option.map_eq_some_iff.mp hr'
  have hkey : (summed f siteId' timestamp' live r).key = r.key :=
    (mild_summed f siteId' timestamp' live).key r
  rw [summed_congr fun id _ ↦ find_ofStation_cascade siteId' timestamp' _ id]
  conv_lhs => rw [summed, hkey]
  cases hown : parentSums f siteId timestamp live r.key with
  | none => rfl
  | some sums =>
    -- the row is one of the parents of the site; the other rollup is of the same site, or not of it
    obtain ⟨hrecent, hsummed⟩ := isSummed_of_parentSums hown
    have hheld : r.setGroupSums sums = r := by
      have hrow := hsums k r hr
      rwa [summed, hown] at hrow
    have hsame : summed f siteId' timestamp' live r = r := by
      rw [summed]
      cases hother : parentSums f siteId' timestamp' live r.key with
      | none => rfl
      | some sums' =>
        obtain ⟨hrecent', hsummed'⟩ := isSummed_of_parentSums hother
        obtain rfl : siteId = siteId' := by
          obtain ⟨x, hx, -⟩ := hsummed
          obtain ⟨y, hy, -⟩ := hsummed'
          exact eq_of_stationsOf h hx hy
        rw [parentSums_eq_some hrecent hsummed] at hown
        rw [parentSums_eq_some hrecent' hsummed', hown] at hother
        obtain rfl := Option.some_inj.mp hother
        exact hheld
    rw [hsame]
    exact hheld

theorem HoldsSums.write (h : f.Consistent) (hsums : HoldsSums f siteId timestamp live)
    (hsame : ∀ k, f.IsOfSite siteId k → live'.find k = live.find k) :
    HoldsSums f siteId timestamp live' := by
  intro k r hr
  obtain ⟨-, rfl⟩ := Table.find_eq_some_iff.mp hr
  cases hgroup : f.stationsOf siteId r.key.entityType r.key.entityId with
  | nil =>
    rw [summed, parentSums_eq_none fun hsome ↦ by
      obtain ⟨-, x, hx, -⟩ := hsome
      rw [hgroup] at hx
      exact List.not_mem_nil hx]
    rfl
  | cons x rest =>
    have hof : f.IsOfSite siteId r.key := .inr (by rw [hgroup]; exact List.cons_ne_nil _ _)
    rw [summed_congr fun id hid ↦ hsame _ (isOfSite_ofStation h hid)]
    exact hsums r.key r ((hsame r.key hof).symm.trans hr)

/-- A later rollup looks at fewer rows. -/
theorem HoldsSums.mono (hsums : HoldsSums f siteId timestamp live) {later : Time}
    (hlater : timestamp ≤ later) : HoldsSums f siteId later live := by
  intro k r hr
  rw [summed]
  cases hlate : parentSums f siteId later live r.key with
  | none => rfl
  | some sums =>
    obtain ⟨hrecent, hsummed⟩ := isSummed_of_parentSums hlate
    have hcutoff : parentCutoff timestamp ≤ parentCutoff later :=
      sub_le_sub_right (mul_le_mul_of_nonneg_right (Int.ediv_le_ediv (by decide) hlater)
        (by decide)) _
    have hrow := hsums k r hr
    rw [summed, parentSums_eq_some (hcutoff.trans hrecent) hsummed] at hrow
    rw [parentSums_eq_some hrecent hsummed] at hlate
    obtain rfl := Option.some_inj.mp hlate
    exact hrow

end

/-! ## The parents add up -/

/-- The rows of the last day, of the workcenters with stations of the site and of the site itself,
as far as stations have rows at the same time. -/
structure ParentsAddUp (f : Facility) (siteId : Uuid) (timestamp : Time) (t : BucketTables) :
    Prop where
  /-- Another rollup writes nothing, and sends nothing. -/
  settled : ∀ later, timestamp ≤ later →
    cascadeParentRollup f siteId later t.live = (t.live, [])
  /-- The rows are what the plain rollup would store, where no row of a station is archived. -/
  plain : ∀ k r, t.live.find k = some r → parentCutoff timestamp ≤ k.startTime →
    IsSummed f siteId t.live k → (∀ id ∈ getChildStationIds f k.entityType k.entityId,
      t.live.find (k.ofStation id) = none → t.log.find (k.ofStation id) = none) →
      ∀ durationMs, r.kpis.toBucketKPIs = sumEntityBucketsInWindow t
        (getChildStationIds f k.entityType k.entityId) .station k.granularity
        ⟨k.startTime, durationMs⟩
  /-- A workcenter has the sums of its own stations and of the workcenters right under it. -/
  workcenter : ∀ (k : BucketKey) workcenterId r key,
    t.live.find (k.ofWorkcenter workcenterId) = some r → parentCutoff timestamp ≤ k.startTime →
    IsSummed f siteId t.live (k.ofWorkcenter workcenterId) →
    (∀ c, f.parentOf c = some workcenterId → IsSummed f siteId t.live (k.ofWorkcenter c) →
      (t.live.find (k.ofWorkcenter c)).isSome = true) →
      r.kpis.additive key
        = ∑ s ∈ (f.allStations siteId).toFinset with s.workcenterId = some workcenterId,
            kpiIn t.live (k.ofStation s.id) key +
          ∑ c ∈ (f.workcenters.map Workcenter.id).toFinset with f.parentOf c = some workcenterId ∧
              IsSummed f siteId t.live (k.ofWorkcenter c),
            kpiIn t.live (k.ofWorkcenter c) key
  /-- The site has the sums of its stations outside the workcenters, and of the workcenters that are
  in no other one. -/
  site : ∀ k r key, k.entityType = .site → k.entityId = siteId → t.live.find k = some r →
    parentCutoff timestamp ≤ k.startTime → IsSummed f siteId t.live k →
    (∀ c, f.parentOf c = none → IsSummed f siteId t.live (k.ofWorkcenter c) →
      (t.live.find (k.ofWorkcenter c)).isSome = true) →
      r.kpis.additive key
        = ∑ s ∈ (f.allStations siteId).toFinset with s.workcenterId = none,
            kpiIn t.live (k.ofStation s.id) key +
          ∑ c ∈ (f.workcenters.map Workcenter.id).toFinset with f.parentOf c = none ∧
              IsSummed f siteId t.live (k.ofWorkcenter c),
            kpiIn t.live (k.ofWorkcenter c) key

section

variable {f : Facility} {siteId : Uuid} {timestamp : Time} {t : BucketTables} {k : BucketKey}
  {r : BucketRow}

/-- A row with the sums of its group has those of its stations. -/
theorem kpis_of_holdsSums (hsums : HoldsSums f siteId timestamp t.live)
    (hr : t.live.find k = some r) (hrecent : parentCutoff timestamp ≤ k.startTime)
    (hsummed : IsSummed f siteId t.live k) :
    r.kpis.toBucketKPIs = ⟨stationSum f siteId t.live k, none⟩ := by
  have hheld := hsums k r hr
  have hkey : r.key = k := (Table.find_eq_some_iff.mp hr).2
  rw [summed, hkey, parentSums_eq_some hrecent hsummed, Option.map_some, Option.getD_some] at hheld
  rw [← hheld]
  rfl

theorem kpiIn_of_holdsSums (hsums : HoldsSums f siteId timestamp t.live)
    (hrow : (t.live.find k).isSome = true) (hrecent : parentCutoff timestamp ≤ k.startTime)
    (hsummed : IsSummed f siteId t.live k) (key : KpiKey) :
    kpiIn t.live k key = stationSum f siteId t.live k key := by
  obtain ⟨r, hr⟩ := Option.isSome_iff_exists.mp hrow
  rw [kpiIn, hr, Option.map_some, Option.getD_some, kpis_of_holdsSums hsums hr hrecent hsummed]

theorem parentsAddUp_of_holdsSums (h : f.Consistent) (hsums : HoldsSums f siteId timestamp t.live) :
    ParentsAddUp f siteId timestamp t where
  settled later hlater :=
    cascadeParentRollup_eq_self fun r hr ↦ hsums.mono hlater r.key r (Table.find_of_mem hr)
  plain k r hr hrecent hsummed hlive durationMs := by
    rw [kpis_of_holdsSums hsums hr hrecent hsummed]
    refine BucketKPIs.ext (funext fun key ↦ ?_) (sumEntityBuckets_standardCycle _ _ _ _).symm
    have hne : f.stationsOf siteId k.entityType k.entityId ≠ [] := by
      obtain ⟨id, hid, -⟩ := hsummed
      exact List.ne_nil_of_mem hid
    rw [sumEntityBuckets_additive, ← toFinset_stationsOf h hne]
    refine (List.sum_toFinset _ (nodup_stationsOf h siteId _ _)).symm.trans
      (Finset.sum_congr rfl fun id hid ↦ ?_)
    -- an archived row would be seen only where there is no live one
    rw [toFinset_stationsOf h hne] at hid
    have harchived := hlive id (List.mem_toFinset.mp hid)
    show kpiIn t.live (k.ofStation id) key = t.kpi (k.ofStation id) key
    rw [kpiIn, BucketTables.kpi, BucketTables.effective]
    cases hfind : t.live.find (k.ofStation id) with
    | none =>
      rw [harchived hfind]
      rfl
    | some row => rfl
  workcenter k workcenterId r key hr hrecent hsummed hrows := by
    rw [kpis_of_holdsSums hsums hr hrecent hsummed]
    refine (stationSum_levels h k workcenterId key).trans
      (congrArg _ (Finset.sum_congr rfl fun c hc ↦ ?_))
    obtain ⟨-, hparent, hchild⟩ := Finset.mem_filter.mp hc
    exact (kpiIn_of_holdsSums hsums (hrows c hparent hchild) hrecent hchild key).symm
  site k r key hk hid hr hrecent hsummed hrows := by
    rw [kpis_of_holdsSums hsums hr hrecent hsummed]
    refine (stationSum_top h hk hid key).trans (congrArg _ (Finset.sum_congr rfl fun c hc ↦ ?_))
    obtain ⟨-, hparent, hchild⟩ := Finset.mem_filter.mp hc
    exact (kpiIn_of_holdsSums hsums (hrows c hparent hchild) hrecent hchild key).symm

end

theorem twoLevels_consistent : twoLevels.Consistent where
  toSound := twoLevels_sound
  workcenterIds := by decide
  stationIds := by decide
  oneSite := by
    -- the stations in workcenters are of the first site
    have hfirst : ∀ s ∈ twoLevels.stations, s.workcenterId.isSome = true → s.siteId = 1 := by decide
    rintro s hs s' hs' workcenterId ⟨wc, hwc, -⟩ ⟨wc', hwc', -⟩
    rw [hfirst s hs (Option.isSome_of_eq_some hwc), hfirst s' hs' (Option.isSome_of_eq_some hwc')]

/-- The first hour: ten, twenty and thirty cycles of the stations, and parents not summed yet. -/
def firstHours : BucketTables where
  live := insertBuckets (.empty _) [sampleHour 0 10, { sampleHour 0 20 with key := hourKey 7 0 },
    { sampleHour 0 30 with key := hourKey 8 0 }, { sampleHour 0 1 with key := hourKey 12 0 },
    { sampleHour 0 0 with key := ⟨.workcenter, 5, .hour, 0⟩ },
    { sampleHour 0 0 with key := ⟨.workcenter, 6, .hour, 0⟩ },
    { sampleHour 0 0 with key := ⟨.site, 1, .hour, 0⟩ }]
  log := .empty _

/-- The rollup of the first site. -/
def summedHours : BucketTables :=
  { firstHours with live := (cascadeParentRollup twoLevels 1 1800000 firstHours.live).1 }

/-- Then a new hour of the station of the other site. -/
def nextHour : BucketTables := { summedHours with
  live := insertBuckets summedHours.live [{ sampleHour 3600000 1 with key := hourKey 12 3600000 }] }

theorem leavesSite_nextHour : LeavesSite twoLevels 1 summedHours (.write nextHour) := by
  refine fun k hk ↦ ⟨find_insertBuckets_of_forall_ne fun a ha hkey ↦ ?_, rfl⟩
  obtain rfl := List.mem_singleton.mp ha
  obtain rfl : hourKey 12 3600000 = k := hkey
  rcases hk with ⟨-, hstation⟩ | hparent
  · revert hstation
    decide
  · exact hparent rfl

end RwServer
