import Mathlib
import RwServer.Metrics.Scaffold

/-!
# The hours of a station lie across one another

A station gets hours of two grids, depending on which timestamps `ensureBuckets` is called for: the
hours of a shift tick from its anchor, and those outside every shift tick from local midnight and
cover the whole local day. The hours of shifts that do not overlap are never in each other's way,
but clock hours lie across those of a shift in the same day that does not tick, begin and end on
the whole hour. `scaffoldedHours_apart_iff` says exactly when the scaffolded hours are pairwise
equal or apart, so that each instant they contain is in exactly one row.
-/

namespace RwServer

open Windows Relational

/-! ## Two grids -/

/-- Two days of clock hours, from their midnights on: apart, or a whole number of hours apart. -/
def ClockDaysAgree (m m' : ℤ) : Prop :=
  m + msPerDay ≤ m' ∨ m' + msPerDay ≤ m ∨ msPerHour ∣ m' - m

instance decidableClockDaysAgree (m m' : ℤ) : Decidable (ClockDaysAgree m m') :=
  inferInstanceAs (Decidable (_ ∨ _ ∨ _))

/-- A day of clock hours from midnight `m` on and a shift: apart, or the shift ticks on the whole
hours of the day and begins and ends on them, as far as it does so inside the day. -/
def ClockDayFits (m start stop anchor : ℤ) : Prop :=
  stop ≤ m ∨ m + msPerDay ≤ start ∨ (msPerHour ∣ anchor - m ∧
    (m < start → msPerHour ∣ start - m) ∧ (stop < m + msPerDay → msPerHour ∣ stop - m))

instance decidableClockDayFits (m start stop anchor : ℤ) :
    Decidable (ClockDayFits m start stop anchor) :=
  inferInstanceAs (Decidable (_ ∨ _ ∨ _ ∧ (_ → _) ∧ (_ → _)))

namespace IsHourGrid

variable {a b anchor m m' : ℤ} {ws vs : List (Window ℤ)}

theorem clockDays_agree_iff (h : IsHourGrid m (m + msPerDay) m ws)
    (h' : IsHourGrid m' (m' + msPerDay) m' vs) :
    (∀ w ∈ ws, ∀ v ∈ vs, w = v ∨ w.Apart v) ↔ ClockDaysAgree m m' := by
  have hpos : (0 : ℤ) < msPerDay := by decide
  rw [h.partition.agree_iff h'.partition (by omega) (by omega), ClockDaysAgree]
  simp only [h.isCut_iff, h'.isCut_iff, msPerDay, msPerHour]
  constructor
  · rintro ⟨hcut, hcut'⟩
    rcases lt_or_ge m m' with hlt | hge
    · -- the later day begins inside the earlier one, where there has to be a line
      have := hcut m' (.inl rfl)
      omega
    · have := hcut' m (.inl rfl)
      omega
  · intro hagree
    constructor <;> · intro x hx hlo hhi; omega

/-- A line of the grid through the anchor in the hour from `start` on. -/
private theorem exists_line (start anchor : ℤ) :
    ∃ x, start ≤ x ∧ x < start + msPerHour ∧ msPerHour ∣ x - anchor := by
  obtain ⟨h₁, h₂, h₃⟩ := firstGridLine_spec start anchor
  exact ⟨_, h₁, h₂, h₃⟩

theorem clockDay_fits_iff (h : IsHourGrid m (m + msPerDay) m ws) (h' : IsHourGrid a b anchor vs)
    (hab : a < b) : (∀ w ∈ ws, ∀ v ∈ vs, w = v ∨ w.Apart v) ↔ ClockDayFits m a b anchor := by
  have hpos : (0 : ℤ) < msPerDay := by decide
  rw [h.partition.agree_iff h'.partition (by omega) hab, ClockDayFits]
  simp only [h.isCut_iff, h'.isCut_iff, msPerDay]
  constructor
  · rintro ⟨hcut, hcut'⟩
    by_cases hmeet : m < b ∧ a < m + 86400000
    · have hstart : m < a → msPerHour ∣ a - m := fun hlt ↦ by
        have := hcut a (.inl rfl) hlt hmeet.2
        simp only [msPerHour] at *
        omega
      have hstop : b < m + 86400000 → msPerHour ∣ b - m := fun hlt ↦ by
        have := hcut b (.inr (.inl rfl)) hmeet.1 hlt
        simp only [msPerHour] at *
        omega
      refine .inr (.inr ⟨?_, hstart, hstop⟩)
      -- a whole hour of the day strictly inside the shift has to be a line of the shift; without
      -- one the shift is a single hour of the day, and the first line of the shift is its start
      obtain ⟨x, hxlo, hxhi, hx⟩ := exists_line a m
      obtain ⟨y, hylo, hyhi, hy⟩ := exists_line a anchor
      have hday := hcut' x
      have hmidnight := hcut' m (.inl rfl)
      have hshift := hcut y
      simp only [msPerHour] at *
      omega
    · omega
  · intro hfits
    constructor <;> · intro x hx hlo hhi; simp only [msPerHour] at *; omega

end IsHourGrid

/-! ## The hours of a station -/

/-- Two lists of hours that are not in each other's way. -/
def HoursAgree (bs bs' : List HourBucket) : Prop :=
  ∀ b ∈ bs, ∀ b' ∈ bs', b = b' ∨ b.window.Apart b'.window

section

variable {bs bs' : List HourBucket}

theorem HoursAgree.symm (h : HoursAgree bs bs') : HoursAgree bs' bs := fun b' hb' b hb ↦
  (h b hb b' hb').imp Eq.symm Window.Apart.symm

theorem hoursAgree_iff : HoursAgree bs bs' ↔
    ∀ w ∈ bs.map HourBucket.window, ∀ v ∈ bs'.map HourBucket.window, w = v ∨ w.Apart v := by
  simp only [HoursAgree, List.forall_mem_map, HourBucket.window_injective.eq_iff]

end

section

variable (f : Facility) (siteId stationId : Uuid)

/-- The anchor of a shift of the station. -/
def stationAnchor (shift : ShiftWindow) : Time :=
  getAnchorTime f.shiftInstances shift siteId (f.workcenterIdOf .station stationId)

/-- The local midnight before a timestamp, at the site. -/
def siteMidnight (timestamp : Time) : Time :=
  getLocalMidnightUTC timestamp (f.siteTimezone siteId)

/-- No two shifts that the station resolves to overlap. -/
def ShiftsApart : Prop :=
  (shiftsOf f.shiftInstances (f.workcenterIdOf .station stationId) siteId).Pairwise
    fun i j ↦ i.window.Apart j.window

/-- The hours that `ensureBuckets` scaffolds for some timestamps. -/
def scaffoldedHours (timestamps : List Time) : List HourBucket :=
  timestamps.flatMap (stationHours f siteId stationId)

/-- The live table after `ensureBuckets` has run for some timestamps. -/
def ensureAll (timestamps : List Time) (live : Table bucketRowSchema) : Table bucketRowSchema :=
  timestamps.foldl (fun live t ↦ ensureBuckets f siteId stationId t live) live

/-- The clock hours that are scaffolded for the timestamps outside every shift fit one another and
the shifts of the other timestamps. -/
structure ClockHoursFit (timestamps : List Time) : Prop where
  days : ∀ t ∈ timestamps, ∀ t' ∈ timestamps, stationShift f siteId stationId t = none →
    stationShift f siteId stationId t' = none →
      ClockDaysAgree (siteMidnight f siteId t) (siteMidnight f siteId t')
  shifts : ∀ t ∈ timestamps, ∀ t' ∈ timestamps, stationShift f siteId stationId t = none →
    ∀ shift ∈ stationShift f siteId stationId t',
      ClockDayFits (siteMidnight f siteId t) shift.startTime shift.endTime
        (stationAnchor f siteId stationId shift)

end

section

variable {f : Facility} {siteId stationId : Uuid} {t t' : Time} {shift shift' : ShiftWindow}
  {timestamps : List Time} {live : Table bucketRowSchema}

theorem stationHours_of_none (h : stationShift f siteId stationId t = none) :
    stationHours f siteId stationId t = getClockHourBucketsForDay t (f.siteTimezone siteId) := by
  rw [stationShift] at h
  rw [stationHours, getHourBucketsForEntity, h]

theorem stationHours_of_some (h : stationShift f siteId stationId t = some shift) :
    stationHours f siteId stationId t
      = getHourBucketsForShift shift (stationAnchor f siteId stationId shift) := by
  rw [stationShift] at h
  rw [stationHours, getHourBucketsForEntity, h]
  rfl

theorem isHourGrid_of_none (h : stationShift f siteId stationId t = none) :
    IsHourGrid (siteMidnight f siteId t) (siteMidnight f siteId t + msPerDay)
      (siteMidnight f siteId t) ((stationHours f siteId stationId t).map HourBucket.window) := by
  rw [stationHours_of_none h]
  exact isHourGrid_getClockHourBucketsForDay t (f.siteTimezone siteId)

/-- A resolved shift contains its timestamp. -/
theorem contains_of_stationShift (h : stationShift f siteId stationId t = some shift) :
    shift.startTime ≤ t ∧ t < shift.endTime := by
  obtain ⟨i, -, ht, rfl⟩ := exists_of_queryShift h
  rw [ShiftWindow.ofInstance_startTime, ShiftWindow.ofInstance_endTime]
  exact ht

theorem isHourGrid_of_some (h : stationShift f siteId stationId t = some shift) :
    IsHourGrid shift.startTime shift.endTime (stationAnchor f siteId stationId shift)
      ((stationHours f siteId stationId t).map HourBucket.window) := by
  rw [stationHours_of_some h]
  have ht := contains_of_stationShift h
  exact isHourGrid_getHourBucketsForShift (ht.1.trans_lt ht.2) _

/-- The hours around one timestamp partition a stretch. -/
theorem exists_partition (f : Facility) (siteId stationId : Uuid) (t : Time) : ∃ a b,
    Partition a b ((stationHours f siteId stationId t).map HourBucket.window) := by
  cases h : stationShift f siteId stationId t with
  | none => exact ⟨_, _, (isHourGrid_of_none h).partition⟩
  | some shift => exact ⟨_, _, (isHourGrid_of_some h).partition⟩

theorem startTime_lt_of_mem {b : HourBucket} (hb : b ∈ stationHours f siteId stationId t) :
    b.window.start < b.window.stop := by
  obtain ⟨_, _, h⟩ := exists_partition f siteId stationId t
  exact (h.bounds (List.mem_map_of_mem hb)).2.1

/-- A missing hour of the grid becomes its empty row. -/
theorem find_ensureBuckets_emptyHour {b : HourBucket}
    (hb : b ∈ stationHours f siteId stationId t)
    (h : live.find (hourKey stationId b.startTime) = none) : ∃ id,
      (ensureBuckets f siteId stationId t live).find (hourKey stationId b.startTime)
        = some { emptyHour f siteId stationId t b with id := id } := by
  obtain ⟨a, ha, id, hkey, hfind⟩ := find_insertBuckets_of_none h (exists_scaffoldRow hb)
  refine ⟨id, hfind.trans ?_⟩
  rcases List.mem_append.mp ha with ha | ha
  · obtain ⟨shift, -, rfl⟩ := List.mem_map.mp ha
    have hgran := congrArg BucketKey.granularity hkey
    exact nomatch (hgran : BucketGranularity.shift = .hour)
  · -- the hours begin at different times
    obtain ⟨c, hc, rfl⟩ := List.mem_map.mp ha
    obtain ⟨_, _, hpart⟩ := exists_partition f siteId stationId t
    have hstart : c.window.start = b.window.start := congrArg BucketKey.startTime hkey
    rw [HourBucket.window_injective
      (hpart.eq_of_start_eq (List.mem_map_of_mem hc) (List.mem_map_of_mem hb) hstart)]
    rfl

/-- A wall clock that shows whole seconds cuts the day that a timestamp is in. -/
private theorem localDay_spec (t wall : ℤ) :
    (t / 1000 * 1000 + (wall * 1000 - t / 1000 * 1000)) / msPerDay * msPerDay
        - (wall * 1000 - t / 1000 * 1000) ≤ t ∧
      t < (t / 1000 * 1000 + (wall * 1000 - t / 1000 * 1000)) / msPerDay * msPerDay
        - (wall * 1000 - t / 1000 * 1000) + msPerDay := by
  simp only [msPerDay]
  omega

/-- The local day of a timestamp is the one it is in. -/
theorem contains_siteDay (f : Facility) (siteId : Uuid) (t : ℤ) :
    siteMidnight f siteId t ≤ t ∧ t < siteMidnight f siteId t + msPerDay :=
  localDay_spec t _

/-- The hours of a day are 24. -/
private theorem hourIndex_bounds {m t : ℤ} (hlo : m ≤ t) (hhi : t < m + msPerDay) :
    0 ≤ (t - m) / msPerHour ∧ (t - m) / msPerHour < 24 := by
  simp only [msPerDay, msPerHour] at *
  omega

/-- A timestamp is in one of its hours, the one that `resolveHourBucketForEntity` finds. -/
theorem exists_resolveHourBucket (f : Facility) (siteId stationId : Uuid) (t : Time) :
    ∃ b ∈ stationHours f siteId stationId t, b.window.Contains t ∧
      resolveHourBucketForEntity f .station stationId siteId t (f.siteTimezone siteId)
        = some b := by
  cases h : stationShift f siteId stationId t with
  | none =>
    obtain ⟨hnonneg, hlt⟩ :=
      hourIndex_bounds (contains_siteDay f siteId t).1 (contains_siteDay f siteId t).2
    rw [stationHours_of_none h]
    rw [stationShift] at h
    refine ⟨resolveClockHourBucket t (f.siteTimezone siteId), ?_,
      contains_resolveClockHourBucket t _, ?_⟩
    · rw [getClockHourBucketsForDay]
      refine List.mem_map.mpr ⟨((t - siteMidnight f siteId t) / msPerHour).toNat, ?_, ?_⟩
      · rw [List.mem_range]
        omega
      · rw [resolveClockHourBucket, Int.toNat_of_nonneg hnonneg]
        rfl
    · rw [resolveHourBucketForEntity, h]
  | some shift =>
    have ht := contains_of_stationShift h
    obtain ⟨b, hb, hfind, hcontains⟩ :=
      exists_findHourBucketInShift ht.1 ht.2 (stationAnchor f siteId stationId shift)
    refine ⟨b, stationHours_of_some h ▸ hb, hcontains, ?_⟩
    rw [stationShift] at h
    rw [resolveHourBucketForEntity, h]
    exact hfind

/-! ### Which hours agree -/

theorem clockHours_agree_iff (h : stationShift f siteId stationId t = none)
    (h' : stationShift f siteId stationId t' = none) :
    HoursAgree (stationHours f siteId stationId t) (stationHours f siteId stationId t') ↔
      ClockDaysAgree (siteMidnight f siteId t) (siteMidnight f siteId t') := by
  rw [hoursAgree_iff]
  exact (isHourGrid_of_none h).clockDays_agree_iff (isHourGrid_of_none h')

theorem clockHours_agree_shift_iff (h : stationShift f siteId stationId t = none)
    (h' : stationShift f siteId stationId t' = some shift) :
    HoursAgree (stationHours f siteId stationId t) (stationHours f siteId stationId t') ↔
      ClockDayFits (siteMidnight f siteId t) shift.startTime shift.endTime
        (stationAnchor f siteId stationId shift) := by
  have ht' := contains_of_stationShift h'
  rw [hoursAgree_iff]
  exact (isHourGrid_of_none h).clockDay_fits_iff (isHourGrid_of_some h') (ht'.1.trans_lt ht'.2)

/-- The hours of shifts that do not overlap are never in each other's way. -/
theorem shiftHours_agree (hshifts : ShiftsApart f siteId stationId)
    (h : stationShift f siteId stationId t = some shift)
    (h' : stationShift f siteId stationId t' = some shift') :
    HoursAgree (stationHours f siteId stationId t) (stationHours f siteId stationId t') := by
  have hsymm : Std.Symm fun i j : ShiftInstance ↦ i.window.Apart j.window :=
    ⟨fun _ _ ↦ Window.Apart.symm⟩
  have hgrid := isHourGrid_of_some h
  have hgrid' := isHourGrid_of_some h'
  obtain ⟨i, hi, -, rfl⟩ := exists_of_queryShift h
  obtain ⟨j, hj, -, rfl⟩ := exists_of_queryShift h'
  by_cases hij : i = j
  · subst hij
    rw [stationHours_of_some h, ← stationHours_of_some h', hoursAgree_iff]
    exact fun w hw v hv ↦ hgrid'.partition.eq_or_apart hw hv
  · have hapart : i.window.Apart j.window := hshifts.forall hi hj hij
    rw [ShiftWindow.ofInstance_startTime, ShiftWindow.ofInstance_endTime] at hgrid hgrid'
    refine hoursAgree_iff.mpr fun w hw v hv ↦ .inr fun x hxw hxv ↦ ?_
    exact hapart x (hgrid.partition.contains_of_mem hw hxw)
      (hgrid'.partition.contains_of_mem hv hxv)

theorem hoursAgree_scaffoldedHours_iff :
    HoursAgree (scaffoldedHours f siteId stationId timestamps)
        (scaffoldedHours f siteId stationId timestamps) ↔
      ∀ t ∈ timestamps, ∀ t' ∈ timestamps,
        HoursAgree (stationHours f siteId stationId t) (stationHours f siteId stationId t') := by
  simp only [HoursAgree, scaffoldedHours, List.mem_flatMap]
  constructor
  · exact fun h t ht t' ht' b hb b' hb' ↦ h b ⟨t, ht, hb⟩ b' ⟨t', ht', hb'⟩
  · rintro h b ⟨t, ht, hb⟩ b' ⟨t', ht', hb'⟩
    exact h t ht t' ht' b hb b' hb'

/-- The scaffolded hours agree iff the clock hours among them fit the others. -/
theorem scaffoldedHours_agree_iff (hshifts : ShiftsApart f siteId stationId) :
    HoursAgree (scaffoldedHours f siteId stationId timestamps)
        (scaffoldedHours f siteId stationId timestamps) ↔
      ClockHoursFit f siteId stationId timestamps := by
  rw [hoursAgree_scaffoldedHours_iff]
  constructor
  · intro h
    refine ⟨fun t ht t' ht' hnone hnone' ↦ ?_, fun t ht t' ht' hnone shift hsome ↦ ?_⟩
    · exact (clockHours_agree_iff hnone hnone').mp (h t ht t' ht')
    · exact (clockHours_agree_shift_iff hnone hsome).mp (h t ht t' ht')
  · intro h t ht t' ht'
    cases hshift : stationShift f siteId stationId t with
    | none =>
      cases hshift' : stationShift f siteId stationId t' with
      | none => exact (clockHours_agree_iff hshift hshift').mpr (h.days t ht t' ht' hshift hshift')
      | some shift' =>
        exact (clockHours_agree_shift_iff hshift hshift').mpr
          (h.shifts t ht t' ht' hshift shift' hshift')
    | some shift =>
      cases hshift' : stationShift f siteId stationId t' with
      | none =>
        exact ((clockHours_agree_shift_iff hshift' hshift).mpr
          (h.shifts t' ht' t ht hshift' shift hshift)).symm
      | some shift' => exact shiftHours_agree hshifts hshift hshift'

/-! ### The rows -/

theorem ensureAll_cons : ensureAll f siteId stationId (t :: timestamps) live
    = ensureAll f siteId stationId timestamps (ensureBuckets f siteId stationId t live) := rfl

/-- An hour row of the station that was inserted has the window of a scaffolded hour. -/
theorem exists_hour_of_mem_ensureAll {r : BucketRow}
    (hr : r ∈ (ensureAll f siteId stationId timestamps live).rows)
    (hkey : r.key = hourKey stationId r.startTime) : r ∈ live.rows ∨
      ∃ b ∈ scaffoldedHours f siteId stationId timestamps, r.window = b.window := by
  induction timestamps generalizing live with
  | nil => exact .inl hr
  | cons t timestamps ih =>
    rcases ih hr with hr | ⟨b, hb, hwindow⟩
    · rcases mem_of_mem_ensureBuckets hr with hr | ⟨a, ha, id, rfl⟩
      · exact .inl hr
      · rcases (of_mem_scaffoldRows ha).2 with ⟨shift, -, hshift⟩ | ⟨b, hb, -, hwindow⟩
        · have hgran := congrArg BucketKey.granularity (hshift.symm.trans hkey)
          exact nomatch (hgran : BucketGranularity.shift = .hour)
        · exact .inr ⟨b, List.mem_flatMap.mpr ⟨t, List.mem_cons_self, hb⟩, hwindow⟩
    · obtain ⟨t', ht', hb⟩ := List.mem_flatMap.mp hb
      exact .inr ⟨b, List.mem_flatMap.mpr ⟨t', List.mem_cons_of_mem _ ht', hb⟩, hwindow⟩

theorem find_ensureAll_of_some {k : BucketKey} {r : BucketRow} (h : live.find k = some r) :
    (ensureAll f siteId stationId timestamps live).find k = some r := by
  induction timestamps generalizing live with
  | nil => exact h
  | cons t timestamps ih => exact ih (find_ensureBuckets_of_some h)

theorem exists_find_ensureAll (live : Table bucketRowSchema) {b : HourBucket}
    (hb : b ∈ scaffoldedHours f siteId stationId timestamps) : ∃ r,
      (ensureAll f siteId stationId timestamps live).find (hourKey stationId b.startTime)
        = some r := by
  induction timestamps generalizing live with
  | nil => exact absurd hb (by simp [scaffoldedHours])
  | cons t timestamps ih =>
    rw [scaffoldedHours, List.flatMap_cons, List.mem_append] at hb
    rcases hb with hb | hb
    · obtain ⟨r, hr⟩ := exists_find_ensureBuckets live hb
      refine ⟨r, ?_⟩
      rw [ensureAll_cons]
      exact find_ensureAll_of_some hr
    · exact ih (ensureBuckets f siteId stationId t live) hb

/-- The number of rows of the station's hours that contain an instant, if its hours agree. -/
theorem length_filter_isHourAt
    (hagree : HoursAgree (scaffoldedHours f siteId stationId timestamps)
      (scaffoldedHours f siteId stationId timestamps)) (x : Time) :
    (((ensureAll f siteId stationId timestamps (.empty _)).rows.filter
        (BucketRow.isHourAt stationId x)).length ≤ 1) ∧
      ((∃ b ∈ scaffoldedHours f siteId stationId timestamps, b.window.Contains x) →
        ((ensureAll f siteId stationId timestamps (.empty _)).rows.filter
          (BucketRow.isHourAt stationId x)).length = 1) := by
  have hrow : ∀ r ∈ (ensureAll f siteId stationId timestamps (.empty _)).rows,
      r.isHourAt stationId x = true → r.key = hourKey stationId r.startTime ∧
        ∃ b ∈ scaffoldedHours f siteId stationId timestamps,
          r.window = b.window ∧ b.window.Contains x := by
    intro r hr hat
    obtain ⟨hkey, hx⟩ := BucketRow.isHourAt_iff.mp hat
    obtain ⟨b, hb, hwindow⟩ :=
      (exists_hour_of_mem_ensureAll hr hkey).resolve_left (List.not_mem_nil)
    exact ⟨hkey, b, hb, hwindow, hwindow ▸ hx⟩
  have huniq : ∀ r ∈ (ensureAll f siteId stationId timestamps (.empty _)).rows,
      ∀ r' ∈ (ensureAll f siteId stationId timestamps (.empty _)).rows,
        r.isHourAt stationId x = true → r'.isHourAt stationId x = true → r.key = r'.key := by
    intro r hr r' hr' hat hat'
    obtain ⟨hkey, b, hb, hwindow, hx⟩ := hrow r hr hat
    obtain ⟨hkey', b', hb', hwindow', hx'⟩ := hrow r' hr' hat'
    obtain rfl := (hagree b hb b' hb').resolve_right fun hapart ↦ hapart x hx hx'
    have hstart : r.startTime = r'.startTime :=
      congrArg Window.start (hwindow.trans hwindow'.symm)
    rw [hkey, hkey', hstart]
  constructor
  · by_cases hex : ∃ r ∈ (ensureAll f siteId stationId timestamps (.empty _)).rows,
        r.isHourAt stationId x = true
    · exact (Table.length_filter_eq_one hex huniq).le
    · rw [List.filter_eq_nil_iff.mpr fun r hr hat ↦ hex ⟨r, hr, hat⟩]
      exact Nat.zero_le 1
  · rintro ⟨b, hb, hx⟩
    refine Table.length_filter_eq_one ?_ huniq
    obtain ⟨r, hfind⟩ := exists_find_ensureAll (.empty _) hb
    obtain ⟨hr, hkey⟩ := Table.find_eq_some_iff.mp hfind
    have hstart : r.startTime = b.startTime := congrArg BucketKey.startTime hkey
    have hkeyr : r.key = hourKey stationId r.startTime := by rw [hstart]; exact hkey
    -- the row under the key of the hour was scaffolded for an hour that begins with it
    obtain ⟨b', hb', hwindow⟩ :=
      (exists_hour_of_mem_ensureAll hr hkeyr).resolve_left (List.not_mem_nil)
    have hstart' : b'.window.start = b.window.start :=
      (congrArg Window.start hwindow).symm.trans hstart
    obtain ⟨t, -, hmem⟩ := List.mem_flatMap.mp hb
    obtain ⟨t', -, hmem'⟩ := List.mem_flatMap.mp hb'
    have hb_eq : b = b' := (hagree b hb b' hb').resolve_right fun hapart ↦
      hapart b.window.start ⟨le_rfl, startTime_lt_of_mem hmem⟩
        ⟨hstart'.le, hstart' ▸ startTime_lt_of_mem hmem'⟩
    exact ⟨r, hr, BucketRow.isHourAt_iff.mpr ⟨hkeyr, hwindow ▸ hb_eq ▸ hx⟩⟩

/-- **The hours of a station agree iff its clock hours fit.** For shifts that do not overlap, the
hours scaffolded for some timestamps are pairwise equal or apart, and each instant of them is in
exactly one row, iff the clock hours of the timestamps outside every shift fit one another and the
shifts of the other timestamps. -/
theorem scaffoldedHours_apart_iff (timestamps : List Time)
    (hshifts : ShiftsApart f siteId stationId) :
    (HoursAgree (scaffoldedHours f siteId stationId timestamps)
        (scaffoldedHours f siteId stationId timestamps) ∧
      ∀ x, (((ensureAll f siteId stationId timestamps (.empty _)).rows.filter
          (BucketRow.isHourAt stationId x)).length ≤ 1) ∧
        ((∃ b ∈ scaffoldedHours f siteId stationId timestamps, b.window.Contains x) →
          ((ensureAll f siteId stationId timestamps (.empty _)).rows.filter
            (BucketRow.isHourAt stationId x)).length = 1)) ↔
      ClockHoursFit f siteId stationId timestamps := by
  rw [← scaffoldedHours_agree_iff hshifts]
  exact ⟨And.left, fun hagree ↦ ⟨hagree, length_filter_isHourAt hagree⟩⟩

end

/-! ### One shift a day -/

theorem shiftsApart_oneShift (startTime endTime : Time) :
    ShiftsApart (oneShiftFacility startTime endTime) 1 2 :=
  List.pairwise_singleton _ _

/-- A shift from midnight to 08:00, asked for at 01:00, and at 10:00 when it is over. -/
theorem scaffoldedHours_apart_wholeHours :
    HoursAgree (scaffoldedHours (oneShiftFacility 0 28800000) 1 2 [3600000, 36000000])
        (scaffoldedHours (oneShiftFacility 0 28800000) 1 2 [3600000, 36000000]) ∧
      ∀ x, (((ensureAll (oneShiftFacility 0 28800000) 1 2 [3600000, 36000000]
        (.empty _)).rows.filter (BucketRow.isHourAt 2 x)).length ≤ 1) ∧
        ((∃ b ∈ scaffoldedHours (oneShiftFacility 0 28800000) 1 2 [3600000, 36000000],
            b.window.Contains x) →
          ((ensureAll (oneShiftFacility 0 28800000) 1 2 [3600000, 36000000] (.empty _)).rows.filter
            (BucketRow.isHourAt 2 x)).length = 1) := by
  refine (scaffoldedHours_apart_iff [3600000, 36000000] (shiftsApart_oneShift 0 28800000)).mpr
    ⟨?_, ?_⟩
  · decide +kernel
  · decide +kernel

/-- A shift from 06:30 to 14:30, asked for at 06:45, and at 15:00 when it is over: 06:45 is in an
hour of the shift and in a clock hour. -/
theorem scaffoldedHours_halfHours :
    ShiftsApart (oneShiftFacility 23400000 52200000) 1 2 ∧
      ¬HoursAgree (scaffoldedHours (oneShiftFacility 23400000 52200000) 1 2 [24300000, 54000000])
        (scaffoldedHours (oneShiftFacility 23400000 52200000) 1 2 [24300000, 54000000]) ∧
      ((ensureAll (oneShiftFacility 23400000 52200000) 1 2 [24300000, 54000000]
        (.empty _)).rows.filter (BucketRow.isHourAt 2 24300000)).length = 2 := by
  refine ⟨shiftsApart_oneShift _ _, fun hagree ↦ ?_, by decide +kernel⟩
  refine (hagree ⟨23400000, 3600000⟩ (by decide +kernel) ⟨21600000, 3600000⟩
    (by decide +kernel)).elim (by decide) fun hapart ↦ ?_
  exact hapart 24300000 (by decide) (by decide)

end RwServer
