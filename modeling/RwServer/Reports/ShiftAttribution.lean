import Mathlib
import RwServer.Metrics.Shifts
import RwServer.Metrics.StateTally

/-!
# The shift of a report row

The part log, the material usage report and the downtime log fetch the shifts of a range once and
look the shift of a timestamp up among them. The metrics ask for a workcenter's shift at the
timestamp and fall back to the site's where the workcenter has none *then*; the reports take the
workcenter's list, or the site's where the workcenter has none *in the range*.

So a workcenter with an override somewhere in the range and a gap elsewhere is where they part.
`ReportResolves` is what has to hold at a timestamp (`findShift_eq_iff`, `slice_iff`).
-/

namespace RwServer

open Windows
open scoped List

/-- The filters of a report. The range is that of the date filters: from the start of the first
day to the end of the last. -/
structure LogSearchInput where
  siteId : Uuid
  workCenterId : Option Uuid
  stationId : Option Uuid
  rangeStart : Time
  rangeEnd : Time

namespace LogSearchInput

/-- The stations of the material usage report, which has no filter by station. -/
def materialUsageStations (input : LogSearchInput) (f : Facility) : List MeteredStation :=
  f.stations.filter fun s ↦
    s.siteId == input.siteId && input.workCenterId.all fun wc ↦ s.workcenterId == some wc

/-- The stations of the part log and of the downtime log. -/
def stations (input : LogSearchInput) (f : Facility) : List MeteredStation :=
  match input.stationId with
  | some stationId => (f.station stationId).toList
  | none => input.materialUsageStations f

/-- `startTime: { lt: rangeEnd }, endTime: { gt: rangeStart }`. -/
def overlaps (input : LogSearchInput) (startTime endTime : Time) : Bool :=
  decide (startTime < input.rangeEnd) && decide (input.rangeStart < endTime)

/-- The row condition for the shifts of the part log and of the material usage report. -/
def fetchesShift (input : LogSearchInput) (i : ShiftInstance) : Bool :=
  input.overlaps i.startTime i.endTime && match input.workCenterId with
    | some wc => i.isScopedTo input.siteId none || i.isOfWorkcenter wc
    | none => i.siteId == input.siteId

/-- The row condition for the shifts of the downtime log. -/
def fetchesDowntimeShift (input : LogSearchInput) (f : Facility) (i : ShiftInstance) : Bool :=
  input.overlaps i.startTime i.endTime && (i.isScopedTo input.siteId none ||
    match input.workCenterId with
    | some wc => i.isOfWorkcenter wc
    | none => (input.stations f).any fun s ↦ s.workcenterId.any fun wc ↦ i.isOfWorkcenter wc)

/-- The row condition for the entries of the downtime log. -/
def fetchesEntry (input : LogSearchInput) (f : Facility) (e : StationStateLog) : Bool :=
  e.state == .down && e.deletedAt.isNone && (input.stations f).any (·.id == e.stationId) &&
    e.endTime.any fun endTime ↦ input.overlaps e.startTime endTime

end LogSearchInput

/-- `stationWorkcenterMap.get(stationId) ?? null`. -/
def stationWorkcenter (stations : List MeteredStation) (stationId : Uuid) : Option Uuid :=
  (stations.find? (·.id == stationId)).bind MeteredStation.workcenterId

/-- The rows of a condition, `orderBy: { startTime: "asc" }`. -/
def fetchShifts (instances : List ShiftInstance) (fetched : ShiftInstance → Bool) :
    List ShiftInstance :=
  (instances.filter fetched).insertionSort fun i j ↦ i.startTime ≤ j.startTime

/-- `shiftsByWc.get(wcId)`: a key is in the map once a row has it. -/
def shiftsByWc (shifts : List ShiftInstance) (wcId : Option Uuid) : Option (List ShiftInstance) :=
  let group := shifts.filter (·.workCenterId == wcId)
  if group.isEmpty then none else some group

/-- `shiftsByWc.get(wcId) ?? shiftsByWc.get(null) ?? []`. -/
def applicableShifts (shifts : List ShiftInstance) (wcId : Option Uuid) : List ShiftInstance :=
  ((shiftsByWc shifts wcId).or (shiftsByWc shifts none)).getD []

/-- The `findShift` of the part log and of the material usage report. -/
def findShift (stations : List MeteredStation) (shifts : List ShiftInstance) (timestamp : Time)
    (stationId : Uuid) : Option ShiftInstance :=
  (applicableShifts shifts (stationWorkcenter stations stationId)).find? (·.isAt timestamp)

def partLogFindShift (f : Facility) (input : LogSearchInput) : Time → Uuid → Option ShiftInstance :=
  findShift (input.stations f) (fetchShifts f.shiftInstances input.fetchesShift)

def materialUsageFindShift (f : Facility) (input : LogSearchInput) :
    Time → Uuid → Option ShiftInstance :=
  findShift (input.materialUsageStations f) (fetchShifts f.shiftInstances input.fetchesShift)

/-! ## The downtime log -/

/-- A row of the downtime log, without what it copies from the entry. Its `id` is the one of the
entry, followed by the one of the shift where it is a slice. -/
structure DowntimeRow where
  entryId : Uuid
  shiftId : Option Uuid
  shiftName : Option String
  businessDate : Option Time
  startTime : Time
  endTime : Option Time
  durationSeconds : Option ℤ
deriving DecidableEq, Repr

/-- `Math.round((to.getTime() - from.getTime()) / 1000)`. -/
def secondsBetween (startTime endTime : Time) : ℤ := mathRound ((endTime - startTime : ℤ) / 1000)

/-- The round of the inner loop for a shift. -/
def shiftRow (e : StationStateLog) (entryEnd : Time) (shift : ShiftInstance) :
    Option DowntimeRow :=
  if shift.endTime ≤ e.startTime ∨ entryEnd ≤ shift.startTime then none
  else
    let clampedStart := if e.startTime < shift.startTime then shift.startTime else e.startTime
    let clampedEnd := if shift.endTime < entryEnd then shift.endTime else entryEnd
    let durationSeconds := secondsBetween clampedStart clampedEnd
    if durationSeconds ≤ 0 then none
    else some
      { entryId := e.id
        shiftId := some shift.id
        shiftName := some shift.shiftName
        businessDate := some shift.businessDate
        startTime := clampedStart
        endTime := some clampedEnd
        durationSeconds := some durationSeconds }

/-- The round of the outer loop for an entry. -/
def shiftRows (f : Facility) (shifts : List ShiftInstance) (e : StationStateLog) :
    List DowntimeRow :=
  match e.endTime with
  | none => []
  | some entryEnd =>
    let wcId := (f.station e.stationId).bind MeteredStation.workcenterId
    (applicableShifts shifts wcId).filterMap (shiftRow e entryEnd)

/-- The row of an entry where the range has no shift. -/
def rawRow (e : StationStateLog) : DowntimeRow where
  entryId := e.id
  shiftId := none
  shiftName := none
  businessDate := none
  startTime := e.startTime
  endTime := e.endTime
  durationSeconds := e.endTime.map (secondsBetween e.startTime)

/-- The rows of `downtimeLogSearch` before its query, sort order and page. -/
def downtimeLogRows (f : Facility) (input : LogSearchInput) (log : List StationStateLog) :
    List DowntimeRow :=
  if (input.stations f).isEmpty then []
  else
    let shiftInstances := fetchShifts f.shiftInstances (input.fetchesDowntimeShift f)
    let entries := (log.filter (input.fetchesEntry f)).insertionSort
      fun e e' ↦ e.startTime ≤ e'.startTime
    if shiftInstances.isEmpty then entries.map rawRow
    else entries.flatMap (shiftRows f shiftInstances)

namespace DowntimeRow

/-- The time a row is about. -/
def isAt (t : Time) (r : DowntimeRow) : Bool :=
  decide (r.startTime ≤ t) && r.endTime.all fun endTime ↦ decide (t < endTime)

/-- No instant is in both. -/
def Apart (r r' : DowntimeRow) : Prop := ∀ t, r.isAt t = true → r'.isAt t = false

/-- The slices of an entry. -/
def isSliceOf (e : StationStateLog) (r : DowntimeRow) : Bool :=
  r.entryId == e.id && r.shiftId.isSome

end DowntimeRow

/-! ## Schedules -/

namespace ShiftInstance

/-- Both are shifts of the same workcenter, or of the same site. -/
def SameScope (i j : ShiftInstance) : Prop :=
  i.workCenterId = j.workCenterId ∧ (i.workCenterId = none → i.siteId = j.siteId)

/-- A shift of the station's workcenter. -/
def isOverrideOf (s : MeteredStation) (i : ShiftInstance) : Bool :=
  s.workcenterId.any fun wc ↦ i.isOfWorkcenter wc

theorem isOverrideOf_iff {s : MeteredStation} {i : ShiftInstance} : i.isOverrideOf s = true ↔
    i.workCenterId = s.workcenterId ∧ i.workCenterId.isSome = true := by
  rw [isOverrideOf, Option.any_eq_true]
  constructor
  · rintro ⟨wc, hwc, hi⟩
    have hi : i.workCenterId = some wc := eq_of_beq hi
    exact ⟨hi.trans hwc.symm, hi ▸ rfl⟩
  · rintro ⟨heq, hsome⟩
    obtain ⟨wc, hwc⟩ := Option.isSome_iff_exists.mp hsome
    exact ⟨wc, heq.symm.trans hwc, by rw [isOfWorkcenter, hwc, beq_self_eq_true]⟩

end ShiftInstance

/-- The shifts of one scope do not overlap. -/
structure ScopesDisjoint (instances : List ShiftInstance) : Prop where
  /-- The primary key. -/
  ids : (instances.map ShiftInstance.id).Nodup
  apart : ∀ i ∈ instances, ∀ j ∈ instances, i ≠ j → i.SameScope j → i.window.Apart j.window

/-- The row that counts for the station at `t`: a shift of its workcenter, and a shift of its site
where none of the workcenter runs. -/
structure Resolves (instances : List ShiftInstance) (s : MeteredStation) (t : Time)
    (i : ShiftInstance) : Prop where
  mem : i ∈ instances
  isAt : i.isAt t = true
  scope : i.isOverrideOf s = true ∨ i.isScopedTo s.siteId none = true ∧
    ∀ j ∈ instances, j.isOverrideOf s = true → j.isAt t = false

/-- The range has no shift of the station's workcenter that a report fetches. -/
def NoOverride (instances : List ShiftInstance) (fetched : ShiftInstance → Bool)
    (s : MeteredStation) : Prop :=
  ∀ j ∈ instances, j.isOverrideOf s = true → fetched j = false

/-- A site's row that runs at `t` in the report is one of the station's site. A report over the
stations of a site has no others. -/
def OwnSite (instances : List ShiftInstance) (fetched : ShiftInstance → Bool)
    (s : MeteredStation) (t : Time) : Prop :=
  NoOverride instances fetched s → ∀ i ∈ instances, i.workCenterId = none → fetched i = true →
    i.isAt t = true → i.siteId = s.siteId

/-- The report has the row that counts at `t`, in the list it chooses for the whole range. -/
structure ReportResolves (instances : List ShiftInstance) (fetched : ShiftInstance → Bool)
    (s : MeteredStation) (t : Time) : Prop where
  fetches : ∀ i, Resolves instances s t i → fetched i = true
  chooses : ∀ i, Resolves instances s t i → i.isOverrideOf s = true ∨ NoOverride instances fetched s

/-! ## What the metrics resolve -/

section

variable {instances : List ShiftInstance} {fetched : ShiftInstance → Bool} {s : MeteredStation}
  {t : Time} {i j : ShiftInstance}

namespace ScopesDisjoint

theorem eq_of_isAt (h : ScopesDisjoint instances) (hi : i ∈ instances) (hj : j ∈ instances)
    (hscope : i.SameScope j) (hit : i.isAt t = true) (hjt : j.isAt t = true) : i = j := by
  by_contra hne
  exact h.apart i hi j hj hne hscope t (ShiftInstance.isAt_iff.mp hit)
    (ShiftInstance.isAt_iff.mp hjt)

theorem eq_of_id (h : ScopesDisjoint instances) (hi : i ∈ instances) (hj : j ∈ instances)
    (heq : i.id = j.id) : i = j := List.inj_on_of_nodup_map h.ids hi hj heq

end ScopesDisjoint

theorem ShiftInstance.sameScope_of_override (hi : i.isOverrideOf s = true)
    (hj : j.isOverrideOf s = true) : i.SameScope j := by
  rw [isOverrideOf_iff] at hi hj
  exact ⟨hi.1.trans hj.1.symm, fun hnone ↦ by simp [hnone] at hi⟩

theorem ShiftInstance.isScopedTo_none_iff {siteId : Uuid} :
    i.isScopedTo siteId none = true ↔ i.siteId = siteId ∧ i.workCenterId = none := by
  rw [isScopedTo, Bool.and_eq_true, beq_iff_eq, beq_iff_eq]

theorem Resolves.unique (h : ScopesDisjoint instances) (hi : Resolves instances s t i)
    (hj : Resolves instances s t j) : i = j := by
  refine h.eq_of_isAt hi.mem hj.mem ?_ hi.isAt hj.isAt
  rcases hi.scope with hio | ⟨his, hino⟩ <;> rcases hj.scope with hjo | ⟨hjs, hjno⟩
  · exact ShiftInstance.sameScope_of_override hio hjo
  · exact absurd hi.isAt (by rw [hjno i hi.mem hio]; exact Bool.false_ne_true)
  · exact absurd hj.isAt (by rw [hino j hj.mem hjo]; exact Bool.false_ne_true)
  · rw [ShiftInstance.isScopedTo_none_iff] at his hjs
    exact ⟨his.2.trans hjs.2.symm, fun _ ↦ his.1.trans hjs.1.symm⟩

/-- A resolved shift is the window of a row that counts. -/
theorem resolves_of_queryShift {w : ShiftWindow}
    (h : queryShiftForEntity instances s.workcenterId s.siteId t = some w) :
    ∃ i, Resolves instances s t i ∧ ShiftWindow.ofInstance i = w := by
  obtain ⟨i, hi, rfl⟩ := Option.map_eq_some_iff.mp h
  refine ⟨i, ?_, rfl⟩
  rcases Option.or_eq_some_iff.mp hi with hwc | ⟨hnone, hsite⟩
  · obtain ⟨wc, hs, hwc⟩ := Option.bind_eq_some_iff.mp hwc
    obtain ⟨hmem, hand⟩ := List.mem_filter.mp (mem_of_newest hwc)
    rw [Bool.and_eq_true] at hand
    exact ⟨hmem, hand.2, .inl ((Option.any_eq_true _ _).mpr ⟨wc, hs, hand.1⟩)⟩
  · obtain ⟨hmem, hand⟩ := List.mem_filter.mp (mem_of_newest hsite)
    rw [Bool.and_eq_true] at hand
    refine ⟨hmem, hand.2, .inr ⟨hand.1, fun j hj hover ↦ ?_⟩⟩
    obtain ⟨wc, hs, hover⟩ := (Option.any_eq_true _ _).mp hover
    rw [hs, Option.bind_some, newest_eq_none_iff, List.filter_eq_nil_iff] at hnone
    have := hnone j hj
    rw [hover, Bool.true_and] at this
    exact Bool.eq_false_of_not_eq_true this

/-- **What the metrics resolve** at a timestamp is the row that counts. -/
theorem queryShift_eq_some_iff (h : ScopesDisjoint instances) {w : ShiftWindow} :
    queryShiftForEntity instances s.workcenterId s.siteId t = some w ↔
      ∃ i, Resolves instances s t i ∧ ShiftWindow.ofInstance i = w := by
  refine ⟨resolves_of_queryShift, ?_⟩
  rintro ⟨i, hi, rfl⟩
  have hsome : queryShiftForEntity instances s.workcenterId s.siteId t ≠ none := by
    rw [Ne, queryShift_eq_none_iff]
    refine fun hno ↦ hno i (List.mem_filter.mpr ⟨hi.mem, ?_⟩) (ShiftInstance.isAt_iff.mp hi.isAt)
    rw [Bool.or_eq_true]
    exact hi.scope.imp_right And.left
  obtain ⟨w, hw⟩ := Option.ne_none_iff_exists'.mp hsome
  obtain ⟨j, hj, rfl⟩ := resolves_of_queryShift hw
  rw [hw, hi.unique h hj]

/-! ## What a report finds -/

theorem mem_fetchShifts : i ∈ fetchShifts instances fetched ↔ i ∈ instances ∧ fetched i = true := by
  rw [fetchShifts, List.mem_insertionSort, List.mem_filter]

theorem nodup_fetchShifts (h : ScopesDisjoint instances) :
    (fetchShifts instances fetched).Nodup :=
  (List.perm_insertionSort _ _).nodup_iff.mpr ((List.Nodup.of_map _ h.ids).filter _)

/-- The list is the workcenter's, or the site's where no row has the workcenter's key. -/
theorem applicableShifts_eq (shifts : List ShiftInstance) (wcId : Option Uuid) :
    applicableShifts shifts wcId = shifts.filter (·.workCenterId == wcId) ∧
        shifts.filter (·.workCenterId == wcId) ≠ [] ∨
      applicableShifts shifts wcId = shifts.filter (·.workCenterId == none) ∧
        shifts.filter (·.workCenterId == wcId) = [] := by
  have hgetD : ∀ group : List ShiftInstance,
      (if group.isEmpty then none else some group).getD [] = group := fun group ↦ by
    cases group <;> rfl
  rw [applicableShifts, shiftsByWc, shiftsByWc]
  by_cases hwc : shifts.filter (·.workCenterId == wcId) = []
  · refine .inr ⟨?_, hwc⟩
    rw [hwc, List.isEmpty_nil, if_pos rfl, Option.none_or]
    exact hgetD _
  · refine .inl ⟨?_, hwc⟩
    rw [if_neg (by rwa [List.isEmpty_iff]), Option.some_or, Option.getD_some]

theorem nodup_applicableShifts (h : ScopesDisjoint instances) {wcId : Option Uuid} :
    (applicableShifts (fetchShifts instances fetched) wcId).Nodup := by
  rcases applicableShifts_eq (fetchShifts instances fetched) wcId with ⟨heq, -⟩ | ⟨heq, -⟩ <;>
    rw [heq] <;> exact (nodup_fetchShifts h).filter _

theorem mem_applicableShifts :
    i ∈ applicableShifts (fetchShifts instances fetched) s.workcenterId ↔
      (i ∈ instances ∧ fetched i = true) ∧ (i.isOverrideOf s = true ∨
        i.workCenterId = none ∧ NoOverride instances fetched s) := by
  have hmem : ∀ k, i ∈ (fetchShifts instances fetched).filter (·.workCenterId == k) ↔
      (i ∈ instances ∧ fetched i = true) ∧ i.workCenterId = k := fun k ↦ by
    rw [List.mem_filter, mem_fetchShifts, beq_iff_eq]
  rcases applicableShifts_eq (fetchShifts instances fetched) s.workcenterId with
    ⟨heq, hne⟩ | ⟨heq, hnil⟩
  · rw [heq, hmem]
    refine and_congr_right fun _ ↦ ?_
    rcases Option.eq_none_or_eq_some s.workcenterId with hwc | ⟨wc, hwc⟩
    · have hno : ∀ j : ShiftInstance, j.isOverrideOf s = false := fun j ↦ by
        rw [ShiftInstance.isOverrideOf, hwc, Option.any_none]
      rw [hwc, hno]
      exact ⟨fun h ↦ .inr ⟨h, fun j _ hj ↦ absurd hj (by simp [hno])⟩,
        fun h ↦ h.elim (fun h ↦ absurd h Bool.false_ne_true) And.left⟩
    · have hover : i.workCenterId = s.workcenterId ↔ i.isOverrideOf s = true := by
        rw [ShiftInstance.isOverrideOf_iff]
        exact ⟨fun h ↦ ⟨h, by rw [h, hwc]; rfl⟩, And.left⟩
      rw [hover]
      refine ⟨.inl, fun h ↦ h.resolve_right fun hno ↦ ?_⟩
      obtain ⟨j, hj⟩ := List.exists_mem_of_ne_nil _ hne
      rw [List.mem_filter, mem_fetchShifts, beq_iff_eq] at hj
      have hjo : j.isOverrideOf s = true :=
        ShiftInstance.isOverrideOf_iff.mpr ⟨hj.2, by rw [hj.2, hwc]; rfl⟩
      exact absurd hj.1.2 (by rw [hno.2 j hj.1.1 hjo]; exact Bool.false_ne_true)
  · have hno : NoOverride instances fetched s := fun j hj hover ↦ by
      by_contra hfetched
      rw [Bool.not_eq_false] at hfetched
      have : j ∈ (fetchShifts instances fetched).filter (·.workCenterId == s.workcenterId) := by
        rw [List.mem_filter, mem_fetchShifts, beq_iff_eq]
        exact ⟨⟨hj, hfetched⟩, (ShiftInstance.isOverrideOf_iff.mp hover).1⟩
      rw [hnil] at this
      exact List.not_mem_nil this
    rw [heq, hmem]
    refine and_congr_right fun hi ↦ ?_
    refine ⟨fun h ↦ .inr ⟨h, hno⟩, fun h ↦ ?_⟩
    rcases h with hover | h
    · exact absurd hi.2 (by rw [hno i hi.1 hover]; exact Bool.false_ne_true)
    · exact h.1

/-- The rows of a list that is chosen are of one scope, where those of a site are of one site. -/
theorem sameScope_of_applicable {siteId : Uuid}
    (hsite : ∀ i, fetched i = true → i.workCenterId = none → i.siteId = siteId)
    (hi : i ∈ applicableShifts (fetchShifts instances fetched) s.workcenterId)
    (hj : j ∈ applicableShifts (fetchShifts instances fetched) s.workcenterId) :
    i.SameScope j := by
  rw [mem_applicableShifts] at hi hj
  rcases hi.2 with hio | ⟨his, hino⟩ <;> rcases hj.2 with hjo | ⟨hjs, hjno⟩
  · exact ShiftInstance.sameScope_of_override hio hjo
  · exact absurd hi.1.2 (by rw [hjno i hi.1.1 hio]; exact Bool.false_ne_true)
  · exact absurd hj.1.2 (by rw [hino j hj.1.1 hjo]; exact Bool.false_ne_true)
  · exact ⟨his.trans hjs.symm, fun _ ↦ (hsite i hi.1.2 his).trans (hsite j hj.1.2 hjs).symm⟩

/-- **A report finds the shift that the metrics resolve** at a timestamp iff it has the row that
counts, in the list it chooses. -/
theorem findShift_eq_iff (h : ScopesDisjoint instances) {siteId : Uuid}
    (hsite : ∀ i, fetched i = true → i.workCenterId = none → i.siteId = siteId) :
    ((applicableShifts (fetchShifts instances fetched) s.workcenterId).find? (·.isAt t)).map
        ShiftWindow.ofInstance = queryShiftForEntity instances s.workcenterId s.siteId t ↔
      ReportResolves instances fetched s t ∧ OwnSite instances fetched s t := by
  have hfind : ∀ i, (applicableShifts (fetchShifts instances fetched) s.workcenterId).find?
      (·.isAt t) = some i ↔ i ∈ applicableShifts (fetchShifts instances fetched) s.workcenterId ∧
        i.isAt t = true := by
    refine fun i ↦ ⟨fun hi ↦ ⟨List.mem_of_find?_eq_some hi, List.find?_some hi⟩, ?_⟩
    rintro ⟨hmem, hit⟩
    obtain ⟨j, hj⟩ := Option.isSome_iff_exists.mp (List.find?_isSome.mpr ⟨i, hmem, hit⟩)
    have hjmem := List.mem_of_find?_eq_some hj
    rw [hj, h.eq_of_isAt (mem_applicableShifts.mp hjmem).1.1 (mem_applicableShifts.mp hmem).1.1
      (sameScope_of_applicable hsite hjmem hmem) (List.find?_some hj) hit]
  constructor
  · intro hagree
    have happlicable : ∀ i, Resolves instances s t i →
        i ∈ applicableShifts (fetchShifts instances fetched) s.workcenterId := by
      intro i hi
      have hquery := (queryShift_eq_some_iff h).mpr ⟨i, hi, rfl⟩
      rw [← hagree, Option.map_eq_some_iff] at hquery
      obtain ⟨j, hj, hij⟩ := hquery
      have hjmem := ((hfind j).mp hj).1
      rwa [← h.eq_of_id (mem_applicableShifts.mp hjmem).1.1 hi.mem
        (congrArg ShiftWindow.shiftInstanceId hij)]
    refine ⟨⟨fun i hi ↦ (mem_applicableShifts.mp (happlicable i hi)).1.2, fun i hi ↦
      (mem_applicableShifts.mp (happlicable i hi)).2.imp_right And.right⟩, ?_⟩
    intro hno i hi hnone hfetched hit
    have hmem := mem_applicableShifts.mpr ⟨⟨hi, hfetched⟩, .inr ⟨hnone, hno⟩⟩
    have hquery : queryShiftForEntity instances s.workcenterId s.siteId t
        = some (ShiftWindow.ofInstance i) := by
      rw [← hagree, (hfind i).mpr ⟨hmem, hit⟩, Option.map_some]
    obtain ⟨j, hj, hji⟩ := (queryShift_eq_some_iff h).mp hquery
    obtain rfl := h.eq_of_id hj.mem hi (congrArg ShiftWindow.shiftInstanceId hji)
    rcases hj.scope with hover | hscope
    · exact absurd (ShiftInstance.isOverrideOf_iff.mp hover).2 (by rw [hnone]; simp)
    · exact (ShiftInstance.isScopedTo_none_iff.mp hscope.1).1
  · rintro ⟨hreport, hown⟩
    have hiff : ∀ i, (i ∈ applicableShifts (fetchShifts instances fetched) s.workcenterId ∧
        i.isAt t = true) ↔ Resolves instances s t i := by
      intro i
      rw [mem_applicableShifts]
      constructor
      · rintro ⟨⟨⟨hi, hfetched⟩, hover | ⟨hnone, hno⟩⟩, hit⟩
        · exact ⟨hi, hit, .inl hover⟩
        · have hsiteId := hown hno i hi hnone hfetched hit
          refine ⟨hi, hit, .inr ⟨ShiftInstance.isScopedTo_none_iff.mpr ⟨hsiteId, hnone⟩, ?_⟩⟩
          -- an override that runs would be fetched
          intro j hj hjo
          by_contra hjt
          rw [Bool.not_eq_false] at hjt
          have := hreport.fetches j ⟨hj, hjt, .inl hjo⟩
          rw [hno j hj hjo] at this
          exact Bool.false_ne_true this
      · intro hi
        refine ⟨⟨⟨hi.mem, hreport.fetches i hi⟩, ?_⟩, hi.isAt⟩
        rcases hi.scope with hover | ⟨hscope, -⟩
        · exact .inl hover
        · exact (hreport.chooses i hi).imp_right fun hno ↦
            ⟨(ShiftInstance.isScopedTo_none_iff.mp hscope).2, hno⟩
    refine Option.ext fun w ↦ ?_
    rw [Option.map_eq_some_iff, queryShift_eq_some_iff h]
    exact exists_congr fun i ↦ and_congr_left fun _ ↦ (hfind i).trans (hiff i)

end

/-! ## The two findShift -/

theorem stationWorkcenter_filter {stations : List MeteredStation} {p : MeteredStation → Bool}
    {s : MeteredStation} (hs : stations.find? (·.id == s.id) = some s) (hp : p s = true) :
    stationWorkcenter (stations.filter p) s.id = s.workcenterId := by
  rw [stationWorkcenter, List.find?_filter]
  have : stations.find? (fun a ↦ decide (p a = true ∧ (a.id == s.id) = true)) = some s := by
    rw [List.find?_eq_some_iff_append] at hs ⊢
    obtain ⟨hid, before, after, heq, hbefore⟩ := hs
    refine ⟨decide_eq_true ⟨hp, hid⟩, before, after, heq, fun a ha ↦ ?_⟩
    have := hbefore a ha
    rw [Bool.not_eq_true', beq_eq_false_iff_ne] at this
    simp [this]
  rw [this]
  rfl

namespace LogSearchInput

variable {input : LogSearchInput} {f : Facility} {s : MeteredStation}

theorem stationWorkcenter_materialUsage (hs : f.station s.id = some s)
    (hmem : s ∈ input.materialUsageStations f) :
    stationWorkcenter (input.materialUsageStations f) s.id = s.workcenterId :=
  stationWorkcenter_filter hs (List.mem_filter.mp hmem).2

theorem stationWorkcenter_stations (hs : f.station s.id = some s) (hmem : s ∈ input.stations f) :
    stationWorkcenter (input.stations f) s.id = s.workcenterId := by
  rw [stations] at hmem ⊢
  split at hmem
  · obtain hs' := Option.mem_toList.mp hmem
    have hfind : [s].find? (·.id == s.id) = some s :=
      List.find?_cons_of_pos (beq_self_eq_true s.id)
    rw [hs', Option.toList_some, stationWorkcenter, hfind, Option.bind_some]
  · exact stationWorkcenter_materialUsage hs hmem

/-- The site's rows in a report are of the site it is about. -/
theorem siteId_of_fetchesShift {i : ShiftInstance} (h : input.fetchesShift i = true)
    (hnone : i.workCenterId = none) : i.siteId = input.siteId := by
  rw [fetchesShift, Bool.and_eq_true] at h
  split at h
  · rw [ShiftInstance.isOfWorkcenter, hnone, Bool.or_eq_true] at h
    rcases h.2 with hscope | hwc
    · exact (ShiftInstance.isScopedTo_none_iff.mp hscope).1
    · exact absurd hwc (by simp)
  · exact eq_of_beq h.2

theorem siteId_of_fetchesDowntimeShift {i : ShiftInstance}
    (h : input.fetchesDowntimeShift f i = true) (hnone : i.workCenterId = none) :
    i.siteId = input.siteId := by
  rw [fetchesDowntimeShift, Bool.and_eq_true, Bool.or_eq_true] at h
  rcases h.2 with hscope | hwc
  · exact (ShiftInstance.isScopedTo_none_iff.mp hscope).1
  · split at hwc <;> simp [ShiftInstance.isOfWorkcenter, hnone] at hwc

end LogSearchInput

section

variable {f : Facility} {input : LogSearchInput} {s : MeteredStation} {t : Time}

theorem partLogFindShift_eq_iff (h : ScopesDisjoint f.shiftInstances)
    (hs : f.station s.id = some s) (hmem : s ∈ input.stations f) :
    (partLogFindShift f input t s.id).map ShiftWindow.ofInstance
        = getShiftForEntity f .station s.id s.siteId t ↔
      ReportResolves f.shiftInstances input.fetchesShift s t ∧
        OwnSite f.shiftInstances input.fetchesShift s t := by
  rw [partLogFindShift, findShift, input.stationWorkcenter_stations hs hmem, getShiftForEntity,
    Facility.workcenterIdOf, hs, Option.bind_some]
  exact findShift_eq_iff h fun i ↦ input.siteId_of_fetchesShift

theorem materialUsageFindShift_eq_iff (h : ScopesDisjoint f.shiftInstances)
    (hs : f.station s.id = some s) (hmem : s ∈ input.materialUsageStations f) :
    (materialUsageFindShift f input t s.id).map ShiftWindow.ofInstance
        = getShiftForEntity f .station s.id s.siteId t ↔
      ReportResolves f.shiftInstances input.fetchesShift s t ∧
        OwnSite f.shiftInstances input.fetchesShift s t := by
  rw [materialUsageFindShift, findShift, input.stationWorkcenter_materialUsage hs hmem,
    getShiftForEntity, Facility.workcenterIdOf, hs, Option.bind_some]
  exact findShift_eq_iff h fun i ↦ input.siteId_of_fetchesShift

end

/-! ## Slices -/

/-- The slice of the entry in the shift lasts at least half a second, the least that `Math.round`
does not round to 0. -/
def LastsHalfASecond (e : StationStateLog) (entryEnd : Time) (i : ShiftInstance) : Prop :=
  500 ≤ min entryEnd i.endTime - max e.startTime i.startTime

theorem secondsBetween_pos_iff {startTime endTime : Time} :
    0 < secondsBetween startTime endTime ↔ 500 ≤ endTime - startTime := by
  rw [secondsBetween, mathRound, round_eq, Int.floor_pos]
  constructor
  · intro h
    have : (500 : ℚ) ≤ ((endTime - startTime : ℤ) : ℚ) := by linarith
    exact_mod_cast this
  · intro h
    have : (500 : ℚ) ≤ ((endTime - startTime : ℤ) : ℚ) := by exact_mod_cast h
    linarith

private theorem not_lasts {start stop start' stop' : ℤ} (h : stop' ≤ start ∨ stop ≤ start') :
    ¬500 ≤ min stop stop' - max start start' := by omega

/-- What the inner loop does with a shift: the slice is where the entry and the shift overlap, and
it is there if it lasts. -/
theorem shiftRow_spec (e : StationStateLog) (entryEnd : Time) (i : ShiftInstance) :
    (shiftRow e entryEnd i = none ∧ ¬LastsHalfASecond e entryEnd i) ∨
      ∃ r, shiftRow e entryEnd i = some r ∧ LastsHalfASecond e entryEnd i ∧ r.entryId = e.id ∧
        r.shiftId = some i.id ∧
        ∀ t, r.isAt t = true ↔ (e.startTime ≤ t ∧ t < entryEnd) ∧ i.isAt t = true := by
  rw [shiftRow]
  split
  · rename_i hskip
    refine .inl ⟨rfl, ?_⟩
    exact not_lasts hskip
  · rename_i hskip
    have hstart : (if e.startTime < i.startTime then i.startTime else e.startTime)
        = max e.startTime i.startTime := by
      rw [max_def_lt]
    have hstop : (if i.endTime < entryEnd then i.endTime else entryEnd)
        = min entryEnd i.endTime := by
      rw [min_comm, min_def_lt]
    dsimp only
    rw [hstart, hstop]
    split
    · rename_i hzero
      refine .inl ⟨rfl, fun hlasts ↦ ?_⟩
      exact absurd (secondsBetween_pos_iff.mpr hlasts) (not_lt.mpr hzero)
    · rename_i hpos
      refine .inr ⟨_, rfl, secondsBetween_pos_iff.mp (not_le.mp hpos), rfl, rfl, fun t ↦ ?_⟩
      rw [DowntimeRow.isAt, ShiftInstance.isAt, Option.all_some, Bool.and_eq_true,
        Bool.and_eq_true, decide_eq_true_eq, decide_eq_true_eq, decide_eq_true_eq,
        decide_eq_true_eq, max_le_iff, lt_min_iff]
      tauto

theorem shiftRow_eq_some {e : StationStateLog} {entryEnd : Time} {i : ShiftInstance}
    {r : DowntimeRow} (h : shiftRow e entryEnd i = some r) : LastsHalfASecond e entryEnd i ∧
      r.entryId = e.id ∧ r.shiftId = some i.id ∧
        ∀ t, r.isAt t = true ↔ (e.startTime ≤ t ∧ t < entryEnd) ∧ i.isAt t = true := by
  rcases shiftRow_spec e entryEnd i with ⟨hnone, -⟩ | ⟨r', hr', hspec⟩
  · exact absurd (hnone.symm.trans h) (Option.some_ne_none r).symm
  · exact Option.some_inj.mp (hr'.symm.trans h) ▸ hspec

/-- In a list of rows that are apart, one that is on at `t` is the only one. -/
theorem filter_isAt_eq_singleton {rows : List DowntimeRow} {r : DowntimeRow} {t : Time}
    (hapart : rows.Pairwise DowntimeRow.Apart) (hr : r ∈ rows) (ht : r.isAt t = true) :
    rows.filter (·.isAt t) = [r] := by
  have hpair := hapart.filter (·.isAt t)
  have hmem : r ∈ rows.filter (·.isAt t) := List.mem_filter.mpr ⟨hr, ht⟩
  have hon : ∀ r' ∈ rows.filter (·.isAt t), r'.isAt t = true := fun r' h ↦ (List.mem_filter.mp h).2
  generalize rows.filter (·.isAt t) = on at hpair hmem hon
  match on, hpair, hmem, hon with
  | [], _, hmem, _ => exact absurd hmem List.not_mem_nil
  | [x], _, hmem, _ => rw [List.mem_singleton.mp hmem]
  | x :: y :: rest, hpair, _, hon =>
    have hxy := List.rel_of_pairwise_cons hpair List.mem_cons_self t (hon x List.mem_cons_self)
    rw [hon y (List.mem_cons_of_mem x List.mem_cons_self)] at hxy
    exact absurd hxy.symm Bool.false_ne_true

section

variable {instances : List ShiftInstance} {fetched : ShiftInstance → Bool} {s : MeteredStation}
  {t : Time} {siteId : Uuid} {e : StationStateLog} {entryEnd : Time}

/-- The slices of an entry are disjoint. -/
theorem pairwise_apart_slices (h : ScopesDisjoint instances)
    (hsite : ∀ i, fetched i = true → i.workCenterId = none → i.siteId = siteId) :
    ((applicableShifts (fetchShifts instances fetched) s.workcenterId).filterMap
      (shiftRow e entryEnd)).Pairwise DowntimeRow.Apart := by
  rw [List.pairwise_filterMap]
  refine (nodup_applicableShifts h).pairwise_of_forall_ne fun i hi j hj hne r hr r' hr' t ht ↦ ?_
  by_contra ht'
  rw [Bool.not_eq_false] at ht'
  have hit := (((shiftRow_eq_some hr).2.2.2 t).mp ht).2
  have hjt := (((shiftRow_eq_some hr').2.2.2 t).mp ht').2
  exact hne (h.eq_of_isAt (mem_applicableShifts.mp hi).1.1 (mem_applicableShifts.mp hj).1.1
    (sameScope_of_applicable hsite hi hj) hit hjt)

/-- **A resolved shift has its slice** at an instant of the entry iff the report has the row that
counts, in the list it chooses, and what the entry and the row share lasts. -/
theorem slice_iff (h : ScopesDisjoint instances)
    (hsite : ∀ i, fetched i = true → i.workCenterId = none → i.siteId = siteId)
    (hstart : e.startTime ≤ t) (hstop : t < entryEnd) :
    (∀ w, queryShiftForEntity instances s.workcenterId s.siteId t = some w → ∃ r,
        ((applicableShifts (fetchShifts instances fetched) s.workcenterId).filterMap
          (shiftRow e entryEnd)).filter (·.isAt t) = [r] ∧ r.shiftId = some w.shiftInstanceId) ↔
      ReportResolves instances fetched s t ∧
        ∀ i, Resolves instances s t i → LastsHalfASecond e entryEnd i := by
  constructor
  · intro hslices
    have hfound : ∀ i, Resolves instances s t i →
        i ∈ applicableShifts (fetchShifts instances fetched) s.workcenterId ∧
          LastsHalfASecond e entryEnd i := by
      intro i hi
      obtain ⟨r, hr, hid⟩ := hslices _ ((queryShift_eq_some_iff h).mpr ⟨i, hi, rfl⟩)
      have hmem : r ∈ [r] := List.mem_singleton_self r
      rw [← hr, List.mem_filter, List.mem_filterMap] at hmem
      obtain ⟨⟨j, hj, hjr⟩, -⟩ := hmem
      obtain ⟨hlasts, -, hshift, -⟩ := shiftRow_eq_some hjr
      obtain rfl := h.eq_of_id (mem_applicableShifts.mp hj).1.1 hi.mem
        (Option.some_inj.mp (hshift.symm.trans hid))
      exact ⟨hj, hlasts⟩
    exact ⟨⟨fun i hi ↦ (mem_applicableShifts.mp (hfound i hi).1).1.2, fun i hi ↦
      (mem_applicableShifts.mp (hfound i hi).1).2.imp_right And.right⟩, fun i hi ↦ (hfound i hi).2⟩
  · rintro ⟨hreport, hlasts⟩ w hw
    obtain ⟨i, hi, rfl⟩ := (queryShift_eq_some_iff h).mp hw
    have hmem : i ∈ applicableShifts (fetchShifts instances fetched) s.workcenterId := by
      rw [mem_applicableShifts]
      refine ⟨⟨hi.mem, hreport.fetches i hi⟩, ?_⟩
      rcases hi.scope with hover | ⟨hscope, -⟩
      · exact .inl hover
      · exact (hreport.chooses i hi).imp_right fun hno ↦
          ⟨(ShiftInstance.isScopedTo_none_iff.mp hscope).2, hno⟩
    rcases shiftRow_spec e entryEnd i with ⟨-, hshort⟩ | ⟨r, hr, -, -, hid, hat⟩
    · exact absurd (hlasts i hi) hshort
    · exact ⟨r, filter_isAt_eq_singleton (pairwise_apart_slices h hsite)
        (List.mem_filterMap.mpr ⟨i, hmem, hr⟩) ((hat t).mpr ⟨⟨hstart, hstop⟩, hi.isAt⟩), hid⟩

end

/-! ## The rows of the downtime log -/

section

variable {f : Facility} {shifts : List ShiftInstance} {e : StationStateLog}

theorem entryId_of_mem_shiftRows {r : DowntimeRow} (h : r ∈ shiftRows f shifts e) :
    r.entryId = e.id ∧ r.shiftId.isSome = true := by
  rw [shiftRows] at h
  split at h
  · exact absurd h List.not_mem_nil
  · obtain ⟨i, -, hi⟩ := List.mem_filterMap.mp h
    obtain ⟨-, hid, hshift, -⟩ := shiftRow_eq_some hi
    exact ⟨hid, by rw [hshift]; rfl⟩

theorem filter_isSliceOf_shiftRows (e' : StationStateLog) :
    (shiftRows f shifts e').filter (·.isSliceOf e) =
      if e'.id = e.id then shiftRows f shifts e' else [] := by
  split
  · rename_i heq
    refine List.filter_eq_self.mpr fun r hr ↦ ?_
    obtain ⟨hid, hsome⟩ := entryId_of_mem_shiftRows hr
    rw [DowntimeRow.isSliceOf, hid, heq, beq_self_eq_true, hsome]
    rfl
  · rename_i hne
    refine List.filter_eq_nil_iff.mpr fun r hr ↦ ?_
    rw [DowntimeRow.isSliceOf, (entryId_of_mem_shiftRows hr).1, Bool.and_eq_true, beq_iff_eq]
    exact fun h ↦ hne h.1

/-- The loop makes the slices of an entry in its own round. -/
theorem filter_isSliceOf_flatMap {entries : List StationStateLog}
    (hids : (entries.map StationStateLog.id).Nodup) (he : e ∈ entries) :
    (entries.flatMap (shiftRows f shifts)).filter (·.isSliceOf e) = shiftRows f shifts e := by
  induction entries with
  | nil => exact absurd he List.not_mem_nil
  | cons e' entries ih =>
    rw [List.map_cons, List.nodup_cons] at hids
    rw [List.flatMap_cons, List.filter_append, filter_isSliceOf_shiftRows]
    rcases List.mem_cons.mp he with rfl | he
    · have hrest : (entries.flatMap (shiftRows f shifts)).filter (·.isSliceOf e) = [] := by
        refine List.filter_eq_nil_iff.mpr fun r hr hslice ↦ ?_
        obtain ⟨e', he', hr⟩ := List.mem_flatMap.mp hr
        rw [DowntimeRow.isSliceOf, (entryId_of_mem_shiftRows hr).1, Bool.and_eq_true,
          beq_iff_eq] at hslice
        exact hids.1 (hslice.1 ▸ List.mem_map_of_mem he')
      rw [if_pos rfl, hrest, List.append_nil]
    · have hne : e'.id ≠ e.id := fun heq ↦ hids.1 (heq ▸ List.mem_map_of_mem he)
      rw [if_neg hne, List.nil_append, ih hids.2 he]

/-- The slices of an entry in the downtime log. -/
theorem slices_downtimeLogRows {input : LogSearchInput} {log : List StationStateLog}
    (hids : (log.map StationStateLog.id).Nodup) (he : e ∈ log)
    (hfetched : input.fetchesEntry f e = true) :
    (downtimeLogRows f input log).filter (·.isSliceOf e) =
      shiftRows f (fetchShifts f.shiftInstances (input.fetchesDowntimeShift f)) e := by
  have hentries : ((log.filter (input.fetchesEntry f)).insertionSort
      fun e e' ↦ e.startTime ≤ e'.startTime) ~ log.filter (input.fetchesEntry f) :=
    List.perm_insertionSort _ _
  have hmem : e ∈ (log.filter (input.fetchesEntry f)).insertionSort
      fun e e' ↦ e.startTime ≤ e'.startTime :=
    hentries.mem_iff.mpr (List.mem_filter.mpr ⟨he, hfetched⟩)
  have hnodup : (((log.filter (input.fetchesEntry f)).insertionSort
      fun e e' ↦ e.startTime ≤ e'.startTime).map StationStateLog.id).Nodup :=
    ((hentries.map _).nodup_iff).mpr ((List.filter_sublist.map _).nodup hids)
  rw [downtimeLogRows]
  split
  · rename_i hempty
    rw [LogSearchInput.fetchesEntry, List.isEmpty_iff.mp hempty] at hfetched
    simp at hfetched
  · dsimp only
    split
    · -- without a shift the rows are the entries, and there are no slices
      rename_i hnone
      rw [List.isEmpty_iff.mp hnone, List.filter_eq_nil_iff.mpr, shiftRows]
      · split <;> rfl
      · intro r hr
        obtain ⟨e', -, rfl⟩ := List.mem_map.mp hr
        rw [DowntimeRow.isSliceOf, rawRow]
        simp
    · exact filter_isSliceOf_flatMap hnodup hmem

end

/-! ## Reports against metrics -/

/-- **The reports and the metrics agree on the shift** of a station at a timestamp exactly where
the report has the row that counts in the list it chooses for its range: the workcenter's row that
runs then has to be fetched, and the site's row counts only if no row of the workcenter is. A slice
has to last half a second besides. The slices of an entry are always disjoint. -/
theorem reports_agree_iff {f : Facility} {input : LogSearchInput} {log : List StationStateLog}
    {s : MeteredStation} (hshifts : ScopesDisjoint f.shiftInstances)
    (hids : (log.map StationStateLog.id).Nodup) (hs : f.station s.id = some s) :
    (s ∈ input.stations f → ∀ t,
      ((partLogFindShift f input t s.id).map ShiftWindow.ofInstance
          = getShiftForEntity f .station s.id s.siteId t ↔
        ReportResolves f.shiftInstances input.fetchesShift s t ∧
          OwnSite f.shiftInstances input.fetchesShift s t)) ∧
    (s ∈ input.materialUsageStations f → ∀ t,
      ((materialUsageFindShift f input t s.id).map ShiftWindow.ofInstance
          = getShiftForEntity f .station s.id s.siteId t ↔
        ReportResolves f.shiftInstances input.fetchesShift s t ∧
          OwnSite f.shiftInstances input.fetchesShift s t)) ∧
    ∀ e ∈ log, input.fetchesEntry f e = true → e.stationId = s.id →
      ∀ entryEnd, e.endTime = some entryEnd →
        ((downtimeLogRows f input log).filter (·.isSliceOf e)).Pairwise DowntimeRow.Apart ∧
        ∀ t, e.startTime ≤ t → t < entryEnd →
          ((∀ shift, getShiftForEntity f .station s.id s.siteId t = some shift → ∃ r,
              ((downtimeLogRows f input log).filter (·.isSliceOf e)).filter (·.isAt t) = [r] ∧
                r.shiftId = some shift.shiftInstanceId) ↔
            ReportResolves f.shiftInstances (input.fetchesDowntimeShift f) s t ∧
              ∀ i, Resolves f.shiftInstances s t i → LastsHalfASecond e entryEnd i) := by
  refine ⟨fun hmem t ↦ partLogFindShift_eq_iff hshifts hs hmem,
    fun hmem t ↦ materialUsageFindShift_eq_iff hshifts hs hmem, ?_⟩
  intro e he hfetched hstation entryEnd hend
  have hsite : ∀ i, input.fetchesDowntimeShift f i = true → i.workCenterId = none →
      i.siteId = input.siteId := fun i ↦ input.siteId_of_fetchesDowntimeShift
  have hslices : (downtimeLogRows f input log).filter (·.isSliceOf e) =
      (applicableShifts (fetchShifts f.shiftInstances (input.fetchesDowntimeShift f))
        s.workcenterId).filterMap (shiftRow e entryEnd) := by
    rw [slices_downtimeLogRows hids he hfetched, shiftRows, hend, hstation, hs]
    rfl
  rw [hslices]
  refine ⟨pairwise_apart_slices hshifts hsite, fun t hstart hstop ↦ ?_⟩
  rw [getShiftForEntity, Facility.workcenterIdOf, hs, Option.bind_some]
  exact slice_iff hshifts hsite hstart hstop

/-- A station of the workcenter 5. -/
def pressStation : MeteredStation := ⟨2, "Press", 1, some 5, none, none, none⟩

/-- A workcenter with a shift of its own from 0:00 to 8:00, at a site with a shift from 8:00 to
16:00. -/
def overrideFacility : Facility where
  sites := [⟨1, "Plant", .utc⟩]
  workcenters := [⟨5, "Presses", none⟩]
  stations := [pressStation]
  shiftInstances :=
    [⟨6, 7, 1, some 5, "Press night", 0, 0, 8 * msPerHour, 0⟩,
      ⟨3, 4, 1, none, "Day", 0, 8 * msPerHour, 16 * msPerHour, 0⟩]

/-- The report of the first day of the site. -/
def firstDay : LogSearchInput := ⟨1, none, none, 0, msPerDay⟩

/-- The press is down from 9:00 to 11:00. -/
def morningDowntime : StationStateLog :=
  ⟨8, 2, 9 * msPerHour, some (11 * msPerHour), .down, none, 8, none, none, none⟩

theorem overrideFacility_disjoint : ScopesDisjoint overrideFacility.shiftInstances := by
  refine ⟨by decide, fun i hi j hj hne hscope ↦ ?_⟩
  simp only [overrideFacility, List.mem_cons, List.not_mem_nil, or_false] at hi hj
  rcases hi with rfl | rfl <;> rcases hj with rfl | rfl
  · exact absurd rfl hne
  · exact absurd hscope.1 (by simp)
  · exact absurd hscope.1 (by simp)
  · exact absurd rfl hne

theorem reports_agree_iff_override :
    ((partLogFindShift overrideFacility firstDay (4 * msPerHour) 2).map ShiftWindow.ofInstance
        = getShiftForEntity overrideFacility .station 2 1 (4 * msPerHour) ↔
      ReportResolves overrideFacility.shiftInstances firstDay.fetchesShift pressStation
          (4 * msPerHour) ∧
        OwnSite overrideFacility.shiftInstances firstDay.fetchesShift pressStation
          (4 * msPerHour)) ∧
      (partLogFindShift overrideFacility firstDay (4 * msPerHour) 2).map ShiftWindow.ofInstance
        = getShiftForEntity overrideFacility .station 2 1 (4 * msPerHour) :=
  ⟨(@reports_agree_iff overrideFacility firstDay [morningDowntime] pressStation
      overrideFacility_disjoint (by decide) rfl).1 (by decide) (4 * msPerHour), by decide +kernel⟩

/-- At 10:00 the metrics resolve the site's shift. The reports of the day look for it among the
shifts of the workcenter, and have none. -/
theorem not_reports_agree : ScopesDisjoint overrideFacility.shiftInstances ∧
    (∃ i ∈ overrideFacility.shiftInstances,
      firstDay.rangeStart ≤ i.startTime ∧ i.endTime ≤ firstDay.rangeEnd) ∧
    firstDay.rangeStart ≤ 10 * msPerHour ∧ 10 * msPerHour < firstDay.rangeEnd ∧
    (getShiftForEntity overrideFacility .station 2 1 (10 * msPerHour)).isSome = true ∧
    partLogFindShift overrideFacility firstDay (10 * msPerHour) 2 = none ∧
    materialUsageFindShift overrideFacility firstDay (10 * msPerHour) 2 = none ∧
    firstDay.fetchesEntry overrideFacility morningDowntime = true ∧
    (downtimeLogRows overrideFacility firstDay [morningDowntime]).filter
      (·.isSliceOf morningDowntime) = [] := by
  refine ⟨overrideFacility_disjoint, ?_⟩
  decide +kernel

end RwServer
