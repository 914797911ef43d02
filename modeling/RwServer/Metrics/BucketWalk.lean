import Mathlib
import RwServer.Metrics.RangeHours

/-!
# The walk through the hours of a range

`getBaseBucketsForRange` does not count its cursor up but puts it to the end of an hour that it has
looked up, an hour of a shift or a clock hour, which may begin before the cursor. Whether the loop
comes to its end depends on whether that hour contains the cursor.

Here a round looks up the shift and its anchor as they are at that moment, in a cache or in the
tables, which may change during the walk; all that is known of the shift is that it contains the
timestamp it is looked up for. `base_bucket_walk_ends` is for all such lookups, and every time zone.
-/

namespace RwServer

open Windows

/-- What the rounds of a walk look up. -/
structure HourLookups where
  /-- `getShiftForEntity`. -/
  shiftAt : Time → Option ShiftWindow
  /-- `getAnchorTime`. -/
  anchorAt : Time → ShiftWindow → Time
  timezone : Timezone
  /-- The query is for rows that contain the timestamp, and the caches are keyed by it. -/
  contains : ∀ t, ∀ shift ∈ shiftAt t, shift.startTime ≤ t ∧ t < shift.endTime

namespace HourLookups

/-- `resolveHourBucketForEntity`. -/
def resolve (l : HourLookups) (timestamp : Time) : Option HourBucket :=
  match l.shiftAt timestamp with
  | some shift => findHourBucketInShift shift (l.anchorAt timestamp shift) timestamp
  | none => some (resolveClockHourBucket timestamp l.timezone)

/-- **The hour of a timestamp contains it**, on the grid of a shift and on that of the clock. -/
theorem exists_resolve (l : HourLookups) (t : Time) :
    ∃ b, l.resolve t = some b ∧ b.window.Contains t := by
  cases h : l.shiftAt t with
  | none => exact ⟨_, by rw [resolve, h], contains_resolveClockHourBucket t l.timezone⟩
  | some shift =>
    obtain ⟨hstart, hstop⟩ := l.contains t shift h
    obtain ⟨b, -, hfind, hcontains⟩ :=
      exists_findHourBucketInShift hstart hstop (l.anchorAt t shift)
    exact ⟨b, by rw [resolve, h]; exact hfind, hcontains⟩

theorem contains_of_resolve {l : HourLookups} {t : Time} {b : HourBucket}
    (h : l.resolve t = some b) : b.window.Contains t := by
  obtain ⟨b', hb', hcontains⟩ := l.exists_resolve t
  rw [hb', Option.some_inj] at h
  exact h ▸ hcontains

/-- The rounds of the loop from a cursor on. -/
abbrev Rounds (l : HourLookups) (endTime cursor : Time)
    (rounds : List (Time × HourBucket)) : Prop :=
  Windows.Rounds l.resolve HourBucket.window endTime cursor rounds

end HourLookups

/-- The lookups in tables that stay as they are. -/
def Facility.hourLookups (f : Facility) (stationId siteId : Uuid) : HourLookups where
  shiftAt t := stationShift f siteId stationId t
  anchorAt _ shift := stationAnchor f siteId stationId shift
  timezone := f.siteTimezone siteId
  contains _ _ h := contains_of_stationShift h

/-- The hours that the loop keeps: of several with one start the first. -/
def keptHours (buckets : List HourBucket) (rounds : List (Time × HourBucket)) : List HourBucket :=
  rounds.foldl (fun buckets x ↦
    if buckets.any fun b ↦ b.startTime == x.2.startTime then buckets else buckets ++ [x.2]) buckets

theorem resolve_hourLookups (f : Facility) (stationId siteId : Uuid) (t : Time) :
    (f.hourLookups stationId siteId).resolve t =
      resolveHourBucketForEntity f .station stationId siteId t (f.siteTimezone siteId) := rfl

/-- The loop returns what its rounds keep. -/
theorem baseBucketsFrom_eq_keptHours {f : Facility} {stationId siteId : Uuid}
    {endTime cursor : Time} {rounds : List (Time × HourBucket)}
    (h : (f.hourLookups stationId siteId).Rounds endTime cursor rounds) {n : ℕ}
    (hn : rounds.length ≤ n) (buckets : List HourBucket) :
    baseBucketsFrom f stationId siteId endTime n cursor buckets =
      some (keptHours buckets rounds) := by
  induction h generalizing n buckets with
  | done hdone =>
    cases n with
    | zero => rfl
    | succ n => rw [baseBucketsFrom, if_neg hdone]; rfl
  | round hlt hresolve _ ih =>
    obtain ⟨m, rfl⟩ : ∃ m, n = m + 1 := ⟨n - 1, by rw [List.length_cons] at hn; omega⟩
    rw [resolve_hourLookups] at hresolve
    rw [baseBucketsFrom, if_pos hlt, hresolve, Option.bind_some]
    exact ih (Nat.le_of_succ_le_succ hn) _

/-- **The walk through the hours of a range comes to its end.** Each round finds an hour that
contains the cursor and puts the cursor to the end of it, later than before, so that no two rounds
find the same hour; for tables that stay as they are, the hours that the rounds keep are the
result. -/
theorem base_bucket_walk_ends (l : HourLookups) (startTime endTime : Time) :
    ∃ rounds, l.Rounds endTime startTime rounds ∧
      (∀ rounds', l.Rounds endTime startTime rounds' → rounds' = rounds) ∧
      rounds.length ≤ (endTime - startTime).toNat ∧
      (∀ x ∈ rounds, x.2.window.Contains x.1 ∧ x.1 < x.2.window.stop) ∧
      rounds.IsChain (fun x y ↦ y.1 = x.2.window.stop) ∧
      rounds.Pairwise (fun x y ↦ x.2.window ≠ y.2.window) ∧
      ∀ f stationId siteId, l = f.hourLookups stationId siteId →
        getBaseBucketsForRange f stationId siteId startTime endTime =
          some (keptHours [] rounds) := by
  have hwin : ∀ t b, l.resolve t = some b → b.window.Contains t := fun _ _ ↦ l.contains_of_resolve
  have hends : ∃ rounds, l.Rounds endTime startTime rounds ∧
      rounds.length ≤ (endTime - startTime).toNat :=
    exists_rounds hwin (fun t ↦ (l.exists_resolve t).imp fun _ hb ↦ hb.1) startTime
  obtain ⟨rounds, hrounds, hlength⟩ := hends
  refine ⟨rounds, hrounds, fun _ h ↦ hrounds.unique h, hlength, fun x hx ↦ ?_, hrounds.isChain,
    (hrounds.pairwise_stop hwin).imp fun hlt heq ↦ ?_, ?_⟩
  · have hcontains := hwin _ _ (hrounds.resolve_eq x hx)
    exact ⟨hcontains, hcontains.2⟩
  · exact lt_irrefl _ (heq ▸ hlt)
  · rintro f stationId siteId rfl
    exact baseBucketsFrom_eq_keptHours hrounds hlength []

end RwServer
