import Mathlib
import RwServer.Foundation.ParentMap
import RwServer.Metrics.Rollup

/-!
# Paths and names

Every bucket has the path of its entity, which goes from the site down through the workcenters.
There are two ways to it. `resolveEntityPath` goes from the entity up; `getIncrementTargets` goes up
from a station once, and cuts the chain of its workcenters at each of them.
`right_of_mem_getIncrementTargets` says that both come to the same path, and to the same name, where
the workcenters are a forest.
-/

namespace RwServer

open Transition ParentMap

/-! ## Paths and names from the tables -/

/-- A path, by its segments. The chain of a workcenter that there is not is empty, and leaves an
empty segment, `none`. -/
abbrev EntityPath := List (Option (BucketEntityType × Uuid))

/-- A row of `MetricBucket` for a job. -/
structure JobBucket where
  entityId : Uuid
  entityName : String
  path : EntityPath
deriving DecidableEq, Repr

/-- What the lookups read. -/
structure LookupTables where
  facility : Facility
  jobBuckets : List JobBucket
  /-- The name of the current blob of a job. -/
  jobName : Uuid → Option String
  /-- `md5(station_id || ':job:' || job_id)`. -/
  jobEntityId : Uuid → Uuid → Uuid

/-- The row of a workcenter. -/
def Facility.workcenter (f : Facility) (id : Uuid) : Option Workcenter :=
  f.workcenters.find? (·.id == id)

/-- The workcenter above one. -/
def Facility.parentOf (f : Facility) (id : Uuid) : Option Uuid :=
  (f.workcenter id).bind Workcenter.parentId

/-- The foreign keys, and that no workcenter is above itself. -/
structure Facility.Sound (f : Facility) : Prop where
  workcenterId : ∀ s ∈ f.stations, ∀ id ∈ s.workcenterId, (f.workcenter id).isSome = true
  parentId : ∀ w ∈ f.workcenters, ∀ id ∈ w.parentId, (f.workcenter id).isSome = true
  acyclic : Acyclic f.parentOf

namespace LookupTables

variable (t : LookupTables)

/-- A workcenter with the ones above it, the nearest first. -/
def chain (id : Uuid) : List Workcenter :=
  workcenterChain t.facility.workcenters t.facility.workcenters.length id

/-- The station that is found for a job entity, with its job. -/
def stationOfJob (entityId : Uuid) : Option (Uuid × Uuid) :=
  t.facility.stations.findSome? fun s ↦
    (s.currentJobId.filter fun jobId ↦ decide (t.jobEntityId s.id jobId = entityId)).map fun jobId ↦
      (s.id, jobId)

end LookupTables

/-- The path of a workcenter. -/
def workcenterPath (t : LookupTables) (siteId id : Uuid) : EntityPath :=
  if (t.chain id).isEmpty then [some (.site, siteId), none]
  else (Facility.pathThrough siteId (t.chain id)).map some

/-- The path of a station. -/
def stationPath (t : LookupTables) (siteId id : Uuid) : EntityPath :=
  match t.facility.workcenterIdOf .station id with
  | none => [some (.site, siteId), some (.station, id)]
  | some workcenterId => workcenterPath t siteId workcenterId ++ [some (.station, id)]

/-- The path that a row has for a job. -/
def existingPath (t : LookupTables) (entityId : Uuid) : Option EntityPath :=
  ((t.jobBuckets.find? (·.entityId == entityId)).map JobBucket.path).filter fun path ↦
    !path.isEmpty

def resolveEntityPath (t : LookupTables) (siteId : Uuid) : BucketEntityType → Uuid → EntityPath
  | .site, _ => [some (.site, siteId)]
  | .workcenter, entityId => workcenterPath t siteId entityId
  | .station, entityId => stationPath t siteId entityId
  | .job, entityId =>
    match existingPath t entityId with
    | some path => path
    | none =>
      match t.stationOfJob entityId with
      | none => [some (.site, siteId), some (.job, entityId)]
      | some (stationId, jobId) => stationPath t siteId stationId ++ [some (.job, jobId)]

def resolveEntityName (t : LookupTables) : BucketEntityType → Uuid → String
  | .site, entityId => ((t.facility.site entityId).map Site.name).getD ""
  | .workcenter, entityId => ((t.facility.workcenter entityId).map Workcenter.name).getD ""
  | .station, entityId => t.facility.stationName entityId
  | .job, entityId =>
    (((t.jobBuckets.find? (·.entityId == entityId)).map JobBucket.entityName).or
      (t.jobName entityId)).getD ""

/-! ## Chains of workcenters -/

section

variable {t : LookupTables}

/-- One more step does not find more, where the chain has ended. -/
theorem workcenterChain_succ {f : Facility} {steps : ℕ} {id : Uuid}
    (h : climb f.parentOf steps id = none) :
    workcenterChain f.workcenters (steps + 1) id = workcenterChain f.workcenters steps id := by
  induction steps generalizing id with
  | zero => cases h
  | succ steps ih =>
    rw [climb_succ, Facility.parentOf, Facility.workcenter] at h
    rw [workcenterChain, workcenterChain]
    cases hfind : f.workcenters.find? (·.id == id) with
    | none => rfl
    | some w =>
      cases hparent : w.parentId with
      | none => simp only [hparent, Option.map_none]
      | some parentId =>
        rw [hfind, Option.bind_some, hparent, Option.bind_some] at h
        simp only [hparent, Option.map_some, ih h]

theorem Facility.workcenter_isSome_iff {f : Facility} {id : Uuid} :
    (f.workcenter id).isSome = true ↔ id ∈ f.workcenters.map Workcenter.id := by
  rw [workcenter, List.find?_isSome, List.mem_map]
  simp only [beq_iff_eq]

/-- The chain of a workcenter ends within as many steps as there are workcenters. -/
theorem Facility.Sound.climb_eq_none {f : Facility} (h : f.Sound) {id : Uuid}
    (hid : (f.workcenter id).isSome = true) : climb f.parentOf f.workcenters.length id = none := by
  have hids : ∀ a b, f.parentOf a = some b → a ∈ (f.workcenters.map Workcenter.id).toFinset ∧
      b ∈ (f.workcenters.map Workcenter.id).toFinset := by
    intro a b hab
    obtain ⟨w, hw, hparent⟩ := Option.bind_eq_some_iff.mp hab
    rw [List.mem_toFinset, List.mem_toFinset, ← workcenter_isSome_iff, ← workcenter_isSome_iff]
    exact ⟨hw ▸ rfl, h.parentId w (List.mem_of_find?_eq_some hw) b hparent⟩
  have hend := climb_card_eq_none h.acyclic hids
    (List.mem_toFinset.mpr (workcenter_isSome_iff.mp hid))
  have hcard : (f.workcenters.map Workcenter.id).toFinset.card ≤ f.workcenters.length :=
    (List.toFinset_card_le _).trans (List.length_map _).le
  by_contra hne
  have hsome := climb_mono hcard (Option.isSome_iff_ne_none.mpr hne)
  rw [hend] at hsome
  cases hsome

/-- A chain is a workcenter, and the chain of the one above it. -/
theorem Facility.Sound.chain_eq (h : t.facility.Sound) {id : Uuid} {w : Workcenter}
    (hw : t.facility.workcenter id = some w) :
    t.chain id = w :: (w.parentId.map t.chain).getD [] := by
  have hstable := workcenterChain_succ (h.climb_eq_none (Option.isSome_of_eq_some hw))
  rw [LookupTables.chain, ← hstable, workcenterChain]
  rw [Facility.workcenter] at hw
  rw [hw]
  rfl

theorem Facility.Sound.chain_ne_nil (h : t.facility.Sound) {id : Uuid}
    (hid : (t.facility.workcenter id).isSome = true) : t.chain id ≠ [] := by
  obtain ⟨w, hw⟩ := Option.isSome_iff_exists.mp hid
  rw [h.chain_eq hw]
  exact List.cons_ne_nil _ _

/-- From one of its workcenters on, a chain is the chain of that workcenter. -/
theorem Facility.Sound.dropWhile_chain (h : t.facility.Sound) {id : Uuid} {w : Workcenter}
    (hw : w ∈ t.chain id) : (t.chain id).dropWhile (fun v ↦ v.id != w.id) = t.chain w.id := by
  -- by induction on the length of the chain
  generalize hlength : (t.chain id).length = n
  induction n generalizing id with
  | zero => exact absurd hw (List.eq_nil_of_length_eq_zero hlength ▸ List.not_mem_nil)
  | succ n ih =>
    cases hfirst : t.facility.workcenter id with
    | none =>
      have hnil : t.chain id = [] := by
        rw [Facility.workcenter] at hfirst
        cases hsteps : t.facility.workcenters.length with
        | zero => rw [LookupTables.chain, hsteps, workcenterChain]
        | succ steps => rw [LookupTables.chain, hsteps, workcenterChain, hfirst]
      exact absurd hw (hnil ▸ List.not_mem_nil)
    | some v =>
      have hid : v.id = id := beq_iff_eq.mp
        (List.find?_some (p := fun x : Workcenter ↦ x.id == id) hfirst)
      by_cases heq : v.id = w.id
      · rw [← heq, hid, h.chain_eq hfirst, List.dropWhile_cons_of_neg]
        rw [hid, bne_self_eq_false]
        exact Bool.false_ne_true
      · have hchain := h.chain_eq hfirst
        cases hparent : v.parentId with
        | none =>
          rw [hparent] at hchain
          rw [hchain] at hw
          exact absurd (List.mem_singleton.mp hw ▸ rfl) heq
        | some parentId =>
          rw [hparent, Option.map_some, Option.getD_some] at hchain
          rw [hchain] at hw hlength
          have hne : (v.id != w.id) = true := bne_iff_ne.mpr heq
          rw [hchain, List.dropWhile_cons_of_pos (p := fun v : Workcenter ↦ v.id != w.id) hne]
          refine ih ((List.mem_cons.mp hw).resolve_left ?_) (Nat.succ.inj hlength)
          rintro rfl
          exact heq rfl

theorem workcenterPath_eq (h : t.facility.Sound) {id : Uuid}
    (hid : (t.facility.workcenter id).isSome = true) (siteId : Uuid) :
    workcenterPath t siteId id = (Facility.pathThrough siteId (t.chain id)).map some := by
  rw [workcenterPath, if_neg]
  rw [List.isEmpty_iff]
  exact h.chain_ne_nil hid

/-- The two ways to the path of a station. -/
theorem stationPath_eq (h : t.facility.Sound) (siteId stationId : Uuid) :
    stationPath t siteId stationId = (t.facility.stationPath siteId stationId).map some := by
  rw [stationPath, Facility.stationPath, Facility.workcentersAbove]
  cases hid : t.facility.workcenterIdOf .station stationId with
  | none => rfl
  | some id =>
    obtain ⟨s, hs, hsid⟩ := Option.bind_eq_some_iff.mp hid
    have hsome := h.workcenterId s (List.mem_of_find?_eq_some hs) id hsid
    dsimp only
    rw [workcenterPath_eq h hsome, List.map_append]
    rfl

/-- **What is stored for the targets**: the path and the name that the other lookups compute. -/
theorem right_of_mem_getIncrementTargets (h : t.facility.Sound) {stationId siteId : Uuid}
    {target : IncrementTarget}
    (htarget : target ∈ getIncrementTargets t.facility stationId siteId) :
    target.path.map some = resolveEntityPath t siteId target.entityType target.entityId ∧
      target.entityName = resolveEntityName t target.entityType target.entityId := by
  rw [getIncrementTargets] at htarget
  rcases List.mem_cons.mp htarget with rfl | htarget
  · exact ⟨(stationPath_eq h siteId stationId).symm, rfl⟩
  · rcases List.mem_append.mp htarget with htarget | htarget
    · obtain ⟨w, hw, rfl⟩ := List.mem_map.mp htarget
      rw [Facility.workcentersAbove] at hw ⊢
      cases hid : t.facility.workcenterIdOf .station stationId with
      | none =>
        rw [hid] at hw
        exact absurd hw List.not_mem_nil
      | some id =>
        rw [hid] at hw
        have hfind : t.facility.workcenter w.id = some w := find_of_mem_workcenterChain hw
        refine ⟨?_, ?_⟩
        · have hsuffix := h.dropWhile_chain hw
          rw [LookupTables.chain] at hsuffix
          dsimp only
          rw [Option.map_some, Option.getD_some, hsuffix, resolveEntityPath,
            workcenterPath_eq h (Option.isSome_of_eq_some hfind)]
        · rw [resolveEntityName, hfind]
          rfl
    · obtain rfl := List.mem_singleton.mp htarget
      exact ⟨rfl, rfl⟩

end

/-- A site with a workcenter in another one, a station in each of them and one in none, and a site
with one station. -/
def twoLevels : Facility where
  sites := [⟨1, "Plant", .utc⟩, ⟨11, "Annex", .utc⟩]
  workcenters := [⟨5, "Cell", some 6⟩, ⟨6, "Hall", none⟩]
  stations := [⟨2, "Press", 1, some 5, none, none, none⟩, ⟨7, "Mill", 1, some 6, none, none, none⟩,
    ⟨8, "Saw", 1, none, none, none, none⟩, ⟨12, "Drill", 11, none, none, none, none⟩]
  shiftInstances := [⟨3, 4, 1, none, "Early", 0, 0, 28800000, 0⟩]

/-- The only workcenter in another one. -/
theorem eq_of_link_twoLevels {a b : Uuid} (h : Link twoLevels.parentOf a b) : a = 5 ∧ b = 6 := by
  obtain ⟨w, hw, hparent⟩ := Option.bind_eq_some_iff.mp h
  have hid : w.id = a := beq_iff_eq.mp (List.find?_some (p := fun x : Workcenter ↦ x.id == a) hw)
  have hmem : w ∈ [⟨5, "Cell", some 6⟩, ⟨6, "Hall", none⟩] := List.mem_of_find?_eq_some hw
  rcases List.mem_cons.mp hmem with rfl | hmem
  · exact ⟨hid.symm, Option.some_inj.mp hparent.symm⟩
  · obtain rfl := List.mem_singleton.mp hmem
    cases hparent

theorem twoLevels_sound : twoLevels.Sound where
  workcenterId := by decide
  parentId := by decide
  acyclic := by
    intro a h
    obtain ⟨b, hb, -⟩ := Relation.TransGen.head'_iff.mp h
    obtain ⟨c, -, hc⟩ := Relation.TransGen.tail'_iff.mp h
    have heq : (5 : Uuid) = 6 :=
      (eq_of_link_twoLevels hb).1.symm.trans (eq_of_link_twoLevels hc).2
    exact absurd heq (by decide)

end RwServer
