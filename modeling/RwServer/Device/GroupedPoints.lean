import Mathlib
import RwServer.Device.ConcurrentSpecs
import RwServer.Foundation.Join

/-!
# The points in the spec of a gateway

`buildSpec` reads the grouped points of a datasource through its groups, and the ungrouped ones
through the datasource. So it is right only as long as every group that a point is in is of the
datasource of the point (`GroupsMatch`), which every operation that puts a point into a group has to
see to. The creation and the update of a point look at the datasource of the group; the creation of
several at once does not.

The operations come one after the other here, each from its first read to its end, accepted or
refused. `spec_lists_each_point_once` is for the sequences in which the bulk creations name only
groups of their own datasource.
-/

namespace RwServer

open Relational Transition

variable {Gw V : Type*}

/-! ## What a spec lists -/

/-- A point in a spec: under which datasource, and in which group of it. -/
structure Placement (V : Type*) where
  datasourceId : Uuid
  groupId : Option Uuid
  point : SpecPoint V

def SpecDatasource.placements (ds : SpecDatasource V) : List (Placement V) :=
  (ds.pointGroups.flatMap fun pg ↦ pg.points.map fun p ↦ ⟨ds.id, some pg.id, p⟩) ++
    ds.points.map fun p ↦ ⟨ds.id, none, p⟩

/-- The points that a spec lists, wherever it does. -/
def placements (spec : Spec V) : List (Placement V) := spec.flatMap SpecDatasource.placements

/-- Where a point belongs. -/
def Point.placement (p : Point V) : Placement V := ⟨p.datasourceId, p.groupId, p.spec⟩

namespace SpecTables

/-- The primary keys. -/
structure Keyed (t : SpecTables Gw V) : Prop where
  datasources : (t.datasources.map Datasource.id).Nodup
  pointGroups : (t.pointGroups.map PointGroup.id).Nodup
  points : (t.points.map Point.id).Nodup

/-- A group that a point is in is of the datasource of the point. -/
def GroupsMatch (t : SpecTables Gw V) : Prop :=
  ∀ p ∈ t.points, ∀ groupId ∈ p.groupId,
    ∃ pg ∈ t.pointGroups, pg.id = groupId ∧ pg.datasourceId = p.datasourceId

/-- The datasource is an active one of the gateway. -/
def RunsOn (t : SpecTables Gw V) (gatewayId : Gw) (datasourceId : Uuid) : Prop :=
  ∃ ds ∈ t.datasources, ds.id = datasourceId ∧ ds.gatewayId = some gatewayId ∧ ds.status = .ACTIVE

/-- The spec of the gateway lists the points of its active datasources, each of them once, where it
belongs, and no other point. -/
structure ListsEachPointOnce [DecidableEq Gw] (t : SpecTables Gw V) (gatewayId : Gw) : Prop where
  nodup : ((placements (t.buildSpec gatewayId)).map fun x ↦ x.point.id).Nodup
  mem_iff : ∀ x, x ∈ placements (t.buildSpec gatewayId) ↔
    ∃ p ∈ t.points, p.placement = x ∧ t.RunsOn gatewayId p.datasourceId

/-- Some rows of a table with distinct keys have distinct keys. -/
theorem nodup_map_filter {α κ : Type*} {key : α → κ} {l : List α} (p : α → Bool)
    (h : (l.map key).Nodup) : ((l.filter p).map key).Nodup :=
  (List.filter_sublist.map key).nodup h

/-! ## What the groups that match are good for -/

/-- The points that `buildSpec` reads for a datasource. -/
def pointsRead (t : SpecTables Gw V) (ds : Datasource Gw V) : List (Point V) :=
  ((t.pointGroups.filter fun pg ↦ decide (pg.datasourceId = ds.id)).flatMap fun pg ↦
      t.points.filter fun p ↦ decide (p.groupId = some pg.id)) ++
    t.points.filter fun p ↦ decide (p.datasourceId = ds.id ∧ p.groupId = none)

variable {t : SpecTables Gw V}

/-- The members of a group are points of its datasource. -/
theorem GroupsMatch.datasourceId_eq (h : t.GroupsMatch) (hkeyed : t.Keyed) {p : Point V}
    (hp : p ∈ t.points) {pg : PointGroup V} (hpg : pg ∈ t.pointGroups)
    (hgroup : p.groupId = some pg.id) : p.datasourceId = pg.datasourceId := by
  obtain ⟨pg', hpg', hid, hdatasource⟩ := h p hp pg.id hgroup
  obtain rfl := List.inj_on_of_nodup_map hkeyed.pointGroups hpg' hpg hid
  exact hdatasource.symm

/-- The points that are read for a datasource are its points. -/
theorem mem_pointsRead_iff (hkeyed : t.Keyed) (h : t.GroupsMatch) {ds : Datasource Gw V}
    {p : Point V} : p ∈ t.pointsRead ds ↔ p ∈ t.points ∧ p.datasourceId = ds.id := by
  simp only [pointsRead, List.mem_append, List.mem_flatMap, List.mem_filter, decide_eq_true_eq]
  constructor
  · rintro (⟨pg, ⟨hpg, hds⟩, hp, hgroup⟩ | ⟨hp, hds, -⟩)
    · exact ⟨hp, (h.datasourceId_eq hkeyed hp hpg hgroup).trans hds⟩
    · exact ⟨hp, hds⟩
  · rintro ⟨hp, hds⟩
    cases hgroup : p.groupId with
    | none => exact .inr ⟨hp, hds, rfl⟩
    | some groupId =>
      obtain ⟨pg, hpg, rfl, hdatasource⟩ := h p hp groupId hgroup
      exact .inl ⟨pg, ⟨hpg, hdatasource.trans hds⟩, hp, rfl⟩

theorem nodup_pointsRead (hkeyed : t.Keyed) (ds : Datasource Gw V) : (t.pointsRead ds).Nodup := by
  have hpoints : t.points.Nodup := hkeyed.points.of_map _
  refine List.nodup_append'.mpr ⟨?_, hpoints.filter _, fun p hgrouped hungrouped ↦ ?_⟩
  · have hids : (t.pointGroups.map fun pg ↦ some pg.id).Nodup := by
      have hsome := hkeyed.pointGroups.map (Option.some_injective Uuid)
      rwa [List.map_map] at hsome
    exact nodup_flatMap_of_keys Point.groupId (nodup_map_filter _ hids)
      (fun pg _ ↦ hpoints.filter _) fun pg _ p hp ↦ of_decide_eq_true (List.mem_filter.mp hp).2
  · obtain ⟨pg, -, hp⟩ := List.mem_flatMap.mp hgrouped
    have hsome := of_decide_eq_true (List.mem_filter.mp hp).2
    have hnone := (of_decide_eq_true (List.mem_filter.mp hungrouped).2).2
    rw [hsome] at hnone
    cases hnone

/-- `buildSpec` lists the points that it reads for a datasource where they belong. -/
theorem placements_specDatasource (hkeyed : t.Keyed) (h : t.GroupsMatch) (ds : Datasource Gw V) :
    (t.specDatasource ds).placements = (t.pointsRead ds).map Point.placement := by
  rw [SpecDatasource.placements, pointsRead, List.map_append, List.map_flatMap]
  congr 1
  · rw [specDatasource, List.flatMap_map]
    refine List.flatMap_congr fun pg hpg ↦ ?_
    obtain ⟨hpg, hds⟩ := List.mem_filter.mp hpg
    rw [specGroup, List.map_map]
    refine List.map_congr_left fun p hp ↦ ?_
    obtain ⟨hp, hgroup⟩ := List.mem_filter.mp hp
    have hgroup := of_decide_eq_true hgroup
    rw [Point.placement, h.datasourceId_eq hkeyed hp hpg hgroup, of_decide_eq_true hds, hgroup]
    rfl
  · rw [specDatasource, List.map_map]
    refine List.map_congr_left fun p hp ↦ ?_
    obtain ⟨hds, hgroup⟩ := of_decide_eq_true (List.mem_filter.mp hp).2
    rw [Point.placement, hds, hgroup]
    rfl

variable [DecidableEq Gw]

/-- **Where every group matches, the spec lists each point once.** -/
theorem listsEachPointOnce_of_groupsMatch (hkeyed : t.Keyed) (h : t.GroupsMatch) (gatewayId : Gw) :
    t.ListsEachPointOnce gatewayId := by
  have hplacements : placements (t.buildSpec gatewayId) = ((t.datasources.filter fun ds ↦
      decide (ds.gatewayId = some gatewayId ∧ ds.status = .ACTIVE)).flatMap t.pointsRead).map
        Point.placement := by
    rw [placements, buildSpec, List.flatMap_map, List.map_flatMap]
    exact List.flatMap_congr fun ds _ ↦ placements_specDatasource hkeyed h ds
  have hmem : ∀ p, p ∈ (t.datasources.filter fun ds ↦
      decide (ds.gatewayId = some gatewayId ∧ ds.status = .ACTIVE)).flatMap t.pointsRead ↔
        p ∈ t.points ∧ t.RunsOn gatewayId p.datasourceId := by
    intro p
    simp only [List.mem_flatMap, List.mem_filter, decide_eq_true_eq, mem_pointsRead_iff hkeyed h]
    constructor
    · rintro ⟨ds, ⟨hds, hruns⟩, hp, hid⟩
      exact ⟨hp, ds, hds, hid.symm, hruns⟩
    · rintro ⟨hp, ds, hds, hid, hruns⟩
      exact ⟨ds, ⟨hds, hruns⟩, hp, hid.symm⟩
  constructor
  · rw [hplacements, List.map_map]
    refine List.Nodup.map_on (fun p hp p' hp' hid ↦ ?_) ?_
    · exact List.inj_on_of_nodup_map hkeyed.points ((hmem p).mp hp).1 ((hmem p').mp hp').1 hid
    · exact nodup_flatMap_of_keys Point.datasourceId
        (nodup_map_filter _ hkeyed.datasources)
        (fun ds _ ↦ nodup_pointsRead hkeyed ds)
        fun ds _ p hp ↦ ((mem_pointsRead_iff hkeyed h).mp hp).2
  · intro x
    rw [hplacements, List.mem_map]
    constructor
    · rintro ⟨p, hp, rfl⟩
      exact ⟨p, ((hmem p).mp hp).1, rfl, ((hmem p).mp hp).2⟩
    · rintro ⟨p, hp, rfl, hruns⟩
      exact ⟨p, (hmem p).mpr ⟨hp, hruns⟩, rfl⟩

omit [DecidableEq Gw]

/-! ## Which writes keep the groups matching -/

/-- A change of rows that leaves the keys alone leaves them distinct. -/
theorem nodup_map_map {α κ : Type*} {key : α → κ} {f : α → α} (hf : ∀ a, key (f a) = key a)
    {l : List α} (h : (l.map key).Nodup) : ((l.map f).map key).Nodup := by
  rw [List.map_map, show key ∘ f = key from funext hf]
  exact h

/-- The write puts points into groups of their own datasources only. -/
def WritesOwnGroups (t : SpecTables Gw V) : SpecWrite Gw V → Prop
  | .createPoints datasourceId inputs => ∀ input ∈ inputs, ∀ groupId ∈ input.groupId,
      ∀ pg ∈ t.findGroup groupId, pg.datasourceId = datasourceId
  | .updatePoint id input => ∀ p ∈ t.findPoint id, ∀ groupId ∈ input.groupId.getD none,
      ∀ pg ∈ t.findGroup groupId, pg.datasourceId = p.datasourceId
  | _ => True

theorem keyed_mapDatasource (h : t.Keyed) (id : Uuid) {f : Datasource Gw V → Datasource Gw V}
    (hf : ∀ ds, (f ds).id = ds.id) : (t.mapDatasource id f).Keyed := by
  refine ⟨nodup_map_map (fun ds ↦ ?_) h.datasources, h.pointGroups, h.points⟩
  split
  · exact hf ds
  · rfl

theorem map_id_newPoints (datasourceId : Uuid) {ids : List Uuid}
    {inputs : List (CreatePointInput V)} (hlength : ids.length = inputs.length) :
    (List.zipWith (newPoint datasourceId) ids inputs).map Point.id = ids := by
  rw [List.map_zipWith]
  calc List.zipWith (fun id _ ↦ id) ids inputs
      _ = (ids.zip inputs).map Prod.fst := (List.map_zip_eq_zipWith (f := Prod.fst)).symm
      _ = ids := List.map_fst_zip hlength.le

theorem findPoint_eq_none_iff {id : Uuid} : t.findPoint id = none ↔ id ∉ t.points.map Point.id := by
  rw [findPoint, List.find?_eq_none, List.mem_map]
  constructor
  · rintro h ⟨p, hp, hid⟩
    exact h p hp (decide_eq_true hid)
  · exact fun h p hp hid ↦ h ⟨p, hp, of_decide_eq_true hid⟩

theorem write_createGroup {t' : SpecTables Gw V} {ids : List Uuid} {datasourceId : Uuid}
    {input : CreateGroupInput V} (h : t.write ids (.createGroup datasourceId input) = some t') :
    ∃ id, ids = [id] ∧ (t.findDatasource datasourceId).isSome ∧ t.findGroup id = none ∧
      t' = { t with pointGroups := t.pointGroups ++ [newGroup id datasourceId input] } := by
  match ids, h with
  | [id], h =>
    obtain ⟨⟨hds, hid⟩, heq⟩ := Option.ite_none_right_eq_some.mp h
    cases heq
    exact ⟨id, rfl, hds, hid, rfl⟩

theorem write_createPoints {t' : SpecTables Gw V} {ids : List Uuid} {datasourceId : Uuid}
    {inputs : List (CreatePointInput V)}
    (h : t.write ids (.createPoints datasourceId inputs) = some t') :
    (ids.length = inputs.length ∧ ids.Nodup ∧ (t.findDatasource datasourceId).isSome ∧
        (∀ id ∈ ids, t.findPoint id = none) ∧
        ∀ input ∈ inputs, ∀ groupId ∈ input.groupId, (t.findGroup groupId).isSome) ∧
      t' = { t with points := t.points ++ List.zipWith (newPoint datasourceId) ids inputs } := by
  obtain ⟨hnew, heq⟩ := Option.ite_none_right_eq_some.mp h
  cases heq
  exact ⟨hnew, rfl⟩

theorem write_updatePoint {t' : SpecTables Gw V} {ids : List Uuid} {id : Uuid}
    {input : UpdatePointInput V} (h : t.write ids (.updatePoint id input) = some t') :
    ((t.findPoint id).isSome ∧
        ∀ groupId ∈ input.groupId.getD none, (t.findGroup groupId).isSome) ∧
      t' = { t with points := t.points.map fun p ↦ if p.id = id then p.updated input else p } := by
  obtain ⟨hfound, heq⟩ := Option.ite_none_right_eq_some.mp h
  cases heq
  exact ⟨hfound, rfl⟩

/-- **A write keeps the keys.** -/
theorem keyed_write (h : t.Keyed) {t' : SpecTables Gw V} {ids : List Uuid} {w : SpecWrite Gw V}
    (hwrite : t.write ids w = some t') : t'.Keyed := by
  cases w with
  | updateDatasource id input =>
    obtain ⟨_, -, rfl⟩ := Option.map_eq_some_iff.mp hwrite
    exact keyed_mapDatasource h id fun _ ↦ rfl
  | deleteDatasource id =>
    obtain ⟨_, -, rfl⟩ := Option.map_eq_some_iff.mp hwrite
    refine ⟨nodup_map_filter _ h.datasources, nodup_map_filter _ h.pointGroups, ?_⟩
    refine nodup_map_map (fun p ↦ ?_) (nodup_map_filter _ h.points)
    split <;> rfl
  | setStatus id status =>
    obtain ⟨_, -, rfl⟩ := Option.map_eq_some_iff.mp hwrite
    exact keyed_mapDatasource h id fun _ ↦ rfl
  | setGateway id gatewayId =>
    obtain ⟨_, -, rfl⟩ := Option.map_eq_some_iff.mp hwrite
    exact keyed_mapDatasource h id fun _ ↦ rfl
  | createGroup datasourceId input =>
    obtain ⟨id, rfl, -, hnew, rfl⟩ := write_createGroup hwrite
    refine ⟨h.datasources, ?_, h.points⟩
    rw [List.map_append, List.map_singleton]
    refine h.pointGroups.append (List.nodup_singleton _) (List.disjoint_singleton.mpr ?_)
    intro hmem
    obtain ⟨pg, hpg, hid⟩ := List.mem_map.mp hmem
    exact List.find?_eq_none.mp hnew pg hpg (decide_eq_true hid)
  | updateGroup id input =>
    obtain ⟨_, -, rfl⟩ := Option.map_eq_some_iff.mp hwrite
    refine ⟨h.datasources, nodup_map_map (fun pg ↦ ?_) h.pointGroups, h.points⟩
    split <;> rfl
  | deleteGroup id =>
    obtain ⟨_, -, rfl⟩ := Option.map_eq_some_iff.mp hwrite
    refine ⟨h.datasources, nodup_map_filter _ h.pointGroups, nodup_map_map (fun p ↦ ?_) h.points⟩
    split <;> rfl
  | createPoints datasourceId inputs =>
    obtain ⟨⟨hlength, hnodup, -, hids, -⟩, rfl⟩ := write_createPoints hwrite
    refine ⟨h.datasources, h.pointGroups, ?_⟩
    rw [List.map_append, map_id_newPoints datasourceId hlength]
    exact h.points.append hnodup fun id hold hid ↦ findPoint_eq_none_iff.mp (hids id hid) hold
  | updatePoint id input =>
    obtain ⟨-, rfl⟩ := write_updatePoint hwrite
    refine ⟨h.datasources, h.pointGroups, nodup_map_map (fun p ↦ ?_) h.points⟩
    split <;> rfl
  | deletePoint id =>
    obtain ⟨_, -, rfl⟩ := Option.map_eq_some_iff.mp hwrite
    exact ⟨h.datasources, h.pointGroups, nodup_map_filter _ h.points⟩

theorem mem_of_findGroup {groupId : Uuid} {pg : PointGroup V} (h : t.findGroup groupId = some pg) :
    pg ∈ t.pointGroups ∧ pg.id = groupId :=
  ⟨List.mem_of_find?_eq_some h, of_decide_eq_true
    (List.find?_some (p := fun pg : PointGroup V ↦ decide (pg.id = groupId)) h)⟩

theorem findPoint_of_mem (hkeyed : t.Keyed) {p : Point V} (hp : p ∈ t.points) :
    t.findPoint p.id = some p := by
  cases hfind : t.findPoint p.id with
  | none => exact absurd (List.mem_map_of_mem hp) (findPoint_eq_none_iff.mp hfind)
  | some p' =>
    have hid := List.find?_some (p := fun p' : Point V ↦ decide (p'.id = p.id)) hfind
    rw [List.inj_on_of_nodup_map hkeyed.points (List.mem_of_find?_eq_some hfind) hp
      (of_decide_eq_true hid)]

/-- A group that is found, and of the datasource that is asked for. -/
theorem exists_group {groupId datasourceId : Uuid} (hsome : (t.findGroup groupId).isSome)
    (hds : ∀ pg ∈ t.findGroup groupId, pg.datasourceId = datasourceId) :
    ∃ pg ∈ t.pointGroups, pg.id = groupId ∧ pg.datasourceId = datasourceId := by
  obtain ⟨pg, hpg⟩ := Option.isSome_iff_exists.mp hsome
  exact ⟨pg, (mem_of_findGroup hpg).1, (mem_of_findGroup hpg).2, hds pg hpg⟩

theorem GroupsMatch.cascadeDatasource (h : t.GroupsMatch) (id : Uuid) :
    (t.cascadeDatasource id).GroupsMatch := by
  intro p' hp' groupId hgroupId
  obtain ⟨p, hp, rfl⟩ := List.mem_map.mp hp'
  obtain ⟨hp, hother⟩ := List.mem_filter.mp hp
  split at hgroupId
  · cases hgroupId
  · rename_i hkept
    rw [if_neg hkept]
    obtain ⟨pg, hpg, rfl, hds⟩ := h p hp groupId hgroupId
    refine ⟨pg, List.mem_filter.mpr ⟨hpg, ?_⟩, rfl, hds⟩
    rw [hds]
    exact hother

theorem GroupsMatch.cascadeGroup (h : t.GroupsMatch) (id : Uuid) :
    (t.cascadeGroup id).GroupsMatch := by
  intro p' hp' groupId hgroupId
  obtain ⟨p, hp, rfl⟩ := List.mem_map.mp hp'
  split at hgroupId
  · cases hgroupId
  · rename_i hother
    rw [if_neg hother]
    obtain ⟨pg, hpg, rfl, hds⟩ := h p hp groupId hgroupId
    refine ⟨pg, List.mem_filter.mpr ⟨hpg, decide_eq_true fun hid ↦ hother ?_⟩, rfl, hds⟩
    rw [← hid]
    exact hgroupId

theorem GroupsMatch.createPoints (h : t.GroupsMatch) {datasourceId : Uuid} (ids : List Uuid)
    {inputs : List (CreatePointInput V)}
    (hgroups : ∀ input ∈ inputs, ∀ groupId ∈ input.groupId, (t.findGroup groupId).isSome)
    (hown : t.WritesOwnGroups (.createPoints datasourceId inputs)) :
    GroupsMatch
      { t with points := t.points ++ List.zipWith (newPoint datasourceId) ids inputs } := by
  intro p hp groupId hgroupId
  rcases List.mem_append.mp hp with hold | hnew
  · exact h p hold groupId hgroupId
  · rw [← List.map_uncurry_zip_eq_zipWith] at hnew
    obtain ⟨⟨id, input⟩, hzip, rfl⟩ := List.mem_map.mp hnew
    have hinput := (List.of_mem_zip hzip).2
    exact exists_group (hgroups input hinput groupId hgroupId) (hown input hinput groupId hgroupId)

theorem GroupsMatch.updatePoint (h : t.GroupsMatch) (hkeyed : t.Keyed) {id : Uuid}
    {input : UpdatePointInput V}
    (hgroups : ∀ groupId ∈ input.groupId.getD none, (t.findGroup groupId).isSome)
    (hown : t.WritesOwnGroups (.updatePoint id input)) :
    GroupsMatch
      { t with points := t.points.map fun p ↦ if p.id = id then p.updated input else p } := by
  intro p' hp' groupId hgroupId
  obtain ⟨p, hp, rfl⟩ := List.mem_map.mp hp'
  split at hgroupId
  · rename_i hid
    subst hid
    rw [if_pos rfl]
    cases hinput : input.groupId with
    | none =>
      rw [Point.updated, hinput] at hgroupId
      exact h p hp groupId hgroupId
    | some groupId' =>
      rw [Point.updated, hinput] at hgroupId
      have hnamed : groupId ∈ input.groupId.getD none := by
        rw [hinput]
        exact hgroupId
      exact exists_group (hgroups groupId hnamed)
        (hown p (findPoint_of_mem hkeyed hp) groupId hnamed)
  · rename_i hid
    rw [if_neg hid]
    exact h p hp groupId hgroupId

/-- **A write that puts points into groups of their own datasources only keeps the groups
matching.** -/
theorem groupsMatch_write (hkeyed : t.Keyed) (h : t.GroupsMatch) {t' : SpecTables Gw V}
    {ids : List Uuid} {w : SpecWrite Gw V} (hown : t.WritesOwnGroups w)
    (hwrite : t.write ids w = some t') : t'.GroupsMatch := by
  cases w with
  | updateDatasource id input =>
    obtain ⟨_, -, rfl⟩ := Option.map_eq_some_iff.mp hwrite
    exact h
  | deleteDatasource id =>
    obtain ⟨_, -, rfl⟩ := Option.map_eq_some_iff.mp hwrite
    exact h.cascadeDatasource id
  | setStatus id status =>
    obtain ⟨_, -, rfl⟩ := Option.map_eq_some_iff.mp hwrite
    exact h
  | setGateway id gatewayId =>
    obtain ⟨_, -, rfl⟩ := Option.map_eq_some_iff.mp hwrite
    exact h
  | createGroup datasourceId input =>
    obtain ⟨id, rfl, -, -, rfl⟩ := write_createGroup hwrite
    intro p hp groupId hgroupId
    obtain ⟨pg, hpg, hmatch⟩ := h p hp groupId hgroupId
    exact ⟨pg, List.mem_append_left _ hpg, hmatch⟩
  | updateGroup id input =>
    obtain ⟨_, -, rfl⟩ := Option.map_eq_some_iff.mp hwrite
    intro p hp groupId hgroupId
    obtain ⟨pg, hpg, rfl, hds⟩ := h p hp groupId hgroupId
    refine ⟨_, List.mem_map_of_mem hpg, ?_, ?_⟩
    · split <;> rfl
    · split
      · exact hds
      · exact hds
  | deleteGroup id =>
    obtain ⟨_, -, rfl⟩ := Option.map_eq_some_iff.mp hwrite
    exact h.cascadeGroup id
  | createPoints datasourceId inputs =>
    obtain ⟨⟨-, -, -, -, hgroups⟩, rfl⟩ := write_createPoints hwrite
    exact h.createPoints ids hgroups hown
  | updatePoint id input =>
    obtain ⟨⟨-, hgroups⟩, rfl⟩ := write_updatePoint hwrite
    exact h.updatePoint hkeyed hgroups hown
  | deletePoint id =>
    obtain ⟨_, -, rfl⟩ := Option.map_eq_some_iff.mp hwrite
    intro p hp
    exact h p (List.mem_filter.mp hp).1

/-- Points that are created in a group of another datasource stay there. -/
theorem not_groupsMatch_createPoints (hkeyed : t.Keyed) {t' : SpecTables Gw V} {ids : List Uuid}
    {datasourceId : Uuid} {inputs : List (CreatePointInput V)}
    (hown : ¬ t.WritesOwnGroups (.createPoints datasourceId inputs))
    (hwrite : t.write ids (.createPoints datasourceId inputs) = some t') : ¬ t'.GroupsMatch := by
  have hkeyed' := keyed_write hkeyed hwrite
  obtain ⟨⟨hlength, -⟩, rfl⟩ := write_createPoints hwrite
  intro h
  refine hown fun input hinput groupId hgroupId pg hfound ↦ ?_
  obtain ⟨hpg, rfl⟩ := mem_of_findGroup hfound
  obtain ⟨i, hi, rfl⟩ := List.getElem_of_mem hinput
  have hid : i < ids.length := hlength ▸ hi
  have hnew : newPoint datasourceId ids[i] inputs[i] ∈
      List.zipWith (newPoint datasourceId) ids inputs := by
    have hi' : i < (List.zipWith (newPoint datasourceId) ids inputs).length := by
      rw [List.length_zipWith]
      exact lt_min hid hi
    exact List.mem_iff_getElem.mpr ⟨i, hi', List.getElem_zipWith⟩
  exact (h.datasourceId_eq hkeyed' (List.mem_append_right _ hnew) hpg hgroupId).symm

end SpecTables

/-! ## The operations, one after the other -/

def SpecPhase.isFinished : SpecPhase Gw V → Bool
  | .finished _ => true
  | _ => false

/-- An operation from its first read to its end, with the ids that its statements are given. -/
def perform [DecidableEq Gw] (schemas : DriverSchemas V) (findGateway : Uuid → Option Gw)
    (a : SpecCall Gw V × List (List Uuid)) (store : SpecStore Gw V) : Option (SpecStore Gw V) :=
  Calls.whole (specStatement schemas findGateway (fun _ ↦ a.1) ()) .start SpecPhase.isFinished a.2
    store

/-- The condition on a bulk creation: the groups it names are of its own datasource. -/
def SpecCall.NamesOwnGroups (t : SpecTables Gw V) : SpecCall Gw V → Prop
  | .bulkCreate datasourceId inputs => ∀ input ∈ inputs, ∀ groupId ∈ input.groupId,
      ∀ pg ∈ t.findGroup groupId, pg.datasourceId = datasourceId
  | _ => True

/-- What holds of the next step of a call, when no other call has changed the tables since its first
read. -/
def SpecPhase.OwnGroups (t : SpecTables Gw V) (call : SpecCall Gw V) : SpecPhase Gw V → Prop
  | .start => call.NamesOwnGroups t
  | .readingGroup groupId ds =>
    match call with
    | .createPoint _ input => input.groupId = some groupId
    | .updatePoint id input => input.groupId = some (some groupId) ∧
        ∀ p ∈ t.findPoint id, p.datasourceId = ds.id
    | _ => True
  | .writing write _ => t.WritesOwnGroups write
  | _ => True

section

variable {t : SpecTables Gw V} {call : SpecCall Gw V}

theorem ownGroups_finished (result : SpecResult) :
    (SpecPhase.finished result : SpecPhase Gw V).OwnGroups t call := trivial

/-- The config of a point is validated, and its group is as it is given. -/
theorem ownGroups_planCreatePoint (schemas : DriverSchemas V) {input : CreatePointInput V}
    {ds : Datasource Gw V} (h : ∀ groupId ∈ input.groupId, ∀ pg ∈ t.findGroup groupId,
      pg.datasourceId = ds.id) : (planCreatePoint schemas input ds).OwnGroups t call :=
  planCreatePoint_rule ownGroups_finished fun _ _ _ hinput ↦ List.mem_singleton.mp hinput ▸ h

theorem ownGroups_planUpdatePoint (schemas : DriverSchemas V) {id : Uuid}
    {input : UpdatePointInput V} {ds : Datasource Gw V}
    (h : ∀ p ∈ t.findPoint id, ∀ groupId ∈ input.groupId.getD none, ∀ pg ∈ t.findGroup groupId,
      pg.datasourceId = p.datasourceId) : (planUpdatePoint schemas id input ds).OwnGroups t call :=
  planUpdatePoint_rule ownGroups_finished fun _ _ ↦ h

/-- The validation of the points leaves their groups as they are given. -/
theorem groupIds_of_validatePoints {schemas : DriverSchemas V} {ds : Datasource Gw V} {i : ℕ}
    {inputs inputs' : List (CreatePointInput V)}
    (h : validatePoints schemas ds i inputs = .ok inputs') :
    ∀ input' ∈ inputs', ∃ input ∈ inputs, input.groupId = input'.groupId := by
  induction inputs generalizing i inputs' with
  | nil =>
    cases h
    exact fun _ hinput ↦ absurd hinput List.not_mem_nil
  | cons input inputs ih =>
    rw [validatePoints] at h
    split at h
    · cases h
    · cases hrest : validatePoints schemas ds (i + 1) inputs with
      | error e =>
        rw [hrest] at h
        cases h
      | ok rest =>
        rw [hrest] at h
        cases h
        intro input' hinput'
        rcases List.mem_cons.mp hinput' with rfl | htail
        · exact ⟨input, List.mem_cons_self, rfl⟩
        · obtain ⟨input, hinput, hgroup⟩ := ih hrest input' htail
          exact ⟨input, List.mem_cons_of_mem _ hinput, hgroup⟩

theorem findDatasource_id {datasourceId : Uuid} {ds : Datasource Gw V}
    (h : t.findDatasource datasourceId = some ds) : ds.id = datasourceId :=
  of_decide_eq_true (List.find?_some (p := fun ds : Datasource Gw V ↦ decide (ds.id = datasourceId))
    h)

variable [DecidableEq Gw]

/-- The first read of an operation. -/
theorem ownGroups_afterFirstRead (schemas : DriverSchemas V) (store : SpecStore Gw V)
    {call : SpecCall Gw V} (h : call.NamesOwnGroups store.tables) :
    (afterFirstRead schemas store call).OwnGroups store.tables call := by
  have hfinished : ∀ result, (SpecPhase.finished result : SpecPhase Gw V).OwnGroups store.tables
      call := ownGroups_finished
  cases call with
  | updateDatasource id input workspaceId =>
    exact withDatasource_rule hfinished fun _ ↦ planUpdate_rule hfinished fun _ ↦ trivial
  | removeDatasource id workspaceId => exact withDatasource_rule hfinished fun _ ↦ trivial
  | publish id workspaceId =>
    exact withDatasource_rule hfinished fun _ ↦ planPublish_rule hfinished trivial
  | unpublish id workspaceId =>
    exact withDatasource_rule hfinished fun _ ↦ planUnpublish_rule hfinished trivial
  | assign id gatewayId =>
    refine withDatasource_rule hfinished fun _ ↦ ?_
    split <;> trivial
  | createGroup datasourceId input => exact planCreateGroup_rule hfinished fun _ _ ↦ trivial
  | updateGroup id input => exact planUpdateGroup_rule hfinished fun _ _ ↦ trivial
  | removeGroup id => exact planRemoveGroup_rule hfinished fun _ ↦ trivial
  | createPoint datasourceId input =>
    rw [afterFirstRead]
    split
    · trivial
    · split
      · assumption
      · rename_i hgroup
        refine ownGroups_planCreatePoint schemas fun groupId hgroupId ↦ ?_
        rw [hgroup] at hgroupId
        cases hgroupId
  | updatePoint id input =>
    rw [afterFirstRead]
    split
    · trivial
    · rename_i ds hds
      obtain ⟨p, hp, hpds⟩ := Option.bind_eq_some_iff.mp hds
      split
      · rename_i hgroup
        refine ⟨hgroup, fun p' hp' ↦ ?_⟩
        rw [hp] at hp'
        cases hp'
        exact (findDatasource_id hpds).symm
      · rename_i hnone
        refine ownGroups_planUpdatePoint schemas fun p' _ groupId hgroupId ↦ ?_
        cases hgroup : input.groupId with
        | none =>
          rw [hgroup] at hgroupId
          cases hgroupId
        | some group =>
          rw [hgroup] at hgroupId
          obtain rfl : group = some groupId := hgroupId
          exact absurd hgroup (hnone groupId)
  | removePoint id => exact planRemovePoint_rule hfinished fun _ ↦ trivial
  | bulkCreate datasourceId inputs =>
    refine planBulkCreate_rule hfinished fun ds inputs' _ hds hvalid ↦ ?_
    intro input' hinput' groupId hgroupId pg hpg
    obtain ⟨input, hinput, hgroup⟩ := groupIds_of_validatePoints hvalid input' hinput'
    rw [findDatasource_id hds]
    exact h input hinput groupId (hgroup.trans hgroupId) pg hpg
  | sync gatewayId version =>
    rw [afterFirstRead]
    split <;> trivial

omit [DecidableEq Gw] in
/-- The group of a point has been read, and has been found to be of the datasource. -/
theorem ownGroups_afterGroup (schemas : DriverSchemas V) {groupId : Uuid} {ds : Datasource Gw V}
    (h : (SpecPhase.readingGroup groupId ds).OwnGroups t call) :
    (afterGroup schemas ds (t.findGroup groupId) call).OwnGroups t call := by
  unfold afterGroup
  split
  · refine withGroup_rule ownGroups_finished fun pg hpg hds ↦ ?_
    refine ownGroups_planCreatePoint schemas fun groupId' hgroupId' pg' hpg' ↦ ?_
    obtain rfl : groupId = groupId' := Option.some.inj (h.symm.trans hgroupId')
    obtain rfl : pg = pg' := Option.some.inj (hpg.symm.trans hpg')
    exact hds
  · obtain ⟨hgroup, hpoint⟩ := h
    refine withGroup_rule ownGroups_finished fun pg hpg hds ↦ ?_
    refine ownGroups_planUpdatePoint schemas fun p hp groupId' hgroupId' pg' hpg' ↦ ?_
    rw [hgroup] at hgroupId'
    obtain rfl : groupId = groupId' := Option.some.inj hgroupId'
    obtain rfl : pg = pg' := Option.some.inj (hpg.symm.trans hpg')
    exact hds.trans (hpoint p hp).symm
  · trivial

/-- **One statement of an operation that runs alone keeps the groups matching.** -/
theorem groupsMatch_statement {schemas : DriverSchemas V} {findGateway : Uuid → Option Gw}
    {call : SpecCall Gw V} {ids : List Uuid} {store store' : SpecStore Gw V}
    {phase phase' : SpecPhase Gw V}
    (h : store.tables.Keyed ∧ store.tables.GroupsMatch ∧ phase.OwnGroups store.tables call)
    (hstatement : specStatement schemas findGateway (fun _ ↦ call) () ids store phase =
      some (store', phase')) :
    store'.tables.Keyed ∧ store'.tables.GroupsMatch ∧ phase'.OwnGroups store'.tables call := by
  obtain ⟨hkeyed, hgroups, hown⟩ := h
  have hbump : ∀ (t : SpecTables Gw V) (gatewayIds : List Gw),
      (bumpPhase gatewayIds).OwnGroups t call := by
    intro t gatewayIds
    unfold bumpPhase
    split <;> trivial
  cases phase with
  | start =>
    cases hstatement
    exact ⟨hkeyed, hgroups, ownGroups_afterFirstRead schemas store hown⟩
  | readingGateway existing =>
    rw [specStatement] at hstatement
    split at hstatement
    · cases hstatement
      refine ⟨hkeyed, hgroups, ?_⟩
      unfold afterGateway
      split <;> trivial
    · cases hstatement
  | readingGroup groupId ds =>
    cases hstatement
    exact ⟨hkeyed, hgroups, ownGroups_afterGroup schemas hown⟩
  | writing write bumps =>
    rw [specStatement] at hstatement
    split at hstatement
    · cases hstatement
      exact ⟨hkeyed, hgroups, trivial⟩
    · rename_i tables hwrite
      cases hstatement
      exact ⟨SpecTables.keyed_write hkeyed hwrite,
        SpecTables.groupsMatch_write hkeyed hgroups hown hwrite, hbump ..⟩
  | bumping gatewayIds =>
    obtain - | ⟨gatewayId, rest⟩ := gatewayIds
    · cases hstatement
    · cases hstatement
      exact ⟨hkeyed, hgroups, hbump ..⟩
  | building version =>
    rw [specStatement] at hstatement
    split at hstatement
    · cases hstatement
      exact ⟨hkeyed, hgroups, trivial⟩
    · cases hstatement
  | answered version spec =>
    rw [specStatement] at hstatement
    split at hstatement
    · cases hstatement
      exact ⟨hkeyed, hgroups, trivial⟩
    · cases hstatement
  | finished result => cases hstatement

end

/-! ## Every sequence of operations -/

def SpecStore.Sound (store : SpecStore Gw V) : Prop :=
  store.tables.Keyed ∧ store.tables.GroupsMatch

section

variable [DecidableEq Gw] {schemas : DriverSchemas V} {findGateway : Uuid → Option Gw}

/-- **One operation keeps the groups matching**, whatever becomes of it, unless it is a bulk
creation that names a group of another datasource. -/
theorem sound_perform {a : SpecCall Gw V × List (List Uuid)} {store store' : SpecStore Gw V}
    (h : store.Sound) (hok : a.1.NamesOwnGroups store.tables)
    (hperform : perform schemas findGateway a store = some store') : store'.Sound := by
  obtain ⟨phase, -, hkeyed, hgroups, -⟩ := Calls.whole_invariant
    (fun store phase ↦
      store.tables.Keyed ∧ store.tables.GroupsMatch ∧ phase.OwnGroups store.tables a.1)
    ⟨h.1, h.2, hok⟩ (fun _ _ _ _ _ ↦ groupsMatch_statement) hperform
  exact ⟨hkeyed, hgroups⟩

/-- **The spec of every gateway lists each point once**, under its own datasource, after every
sequence of operations in which the bulk creations name only groups of their own datasource. -/
theorem spec_lists_each_point_once {store₀ store : SpecStore Gw V}
    {as : List (SpecCall Gw V × List (List Uuid))} (hkeyed : store₀.tables.Keyed)
    (hgroups : store₀.tables.GroupsMatch)
    (hrun : Run (perform schemas findGateway) (fun store a ↦ a.1.NamesOwnGroups store.tables) store₀
      as store) :
    store.tables.GroupsMatch ∧ ∀ gatewayId, store.tables.ListsEachPointOnce gatewayId := by
  have hstart : store₀.Sound := ⟨hkeyed, hgroups⟩
  obtain ⟨hkeyed, hgroups⟩ := hrun.invariant hstart fun _ _ _ h hok hstep ↦
    sound_perform h hok hstep
  exact ⟨hgroups, SpecTables.listsEachPointOnce_of_groupsMatch hkeyed hgroups⟩

end

/-! ## A bulk creation with a group of another datasource -/

instance SpecCall.decidableNamesOwnGroups (t : SpecTables Gw V) :
    ∀ call : SpecCall Gw V, Decidable (call.NamesOwnGroups t)
  | .bulkCreate datasourceId inputs => inferInstanceAs (Decidable (∀ input ∈ inputs,
      ∀ groupId ∈ input.groupId, ∀ pg ∈ t.findGroup groupId, pg.datasourceId = datasourceId))
  | .updateDatasource _ _ _ | .removeDatasource _ _ | .publish _ _ | .unpublish _ _ | .assign _ _
  | .createGroup _ _ | .updateGroup _ _ | .removeGroup _ | .createPoint _ _ | .updatePoint _ _
  | .removePoint _ | .sync _ _ => isTrue trivial

/-- Two active datasources, each on a gateway of its own. -/
def pressAndOven : SpecTables Bool Unit where
  datasources := [⟨1, "Press", .DEVICE, .ACTIVE, "modbus-tcp", "1.0.0", [], some false, none⟩,
    ⟨2, "Oven", .DEVICE, .ACTIVE, "modbus-tcp", "1.0.0", [], some true, none⟩]
  pointGroups := []
  points := []

def emptySpecStore (tables : SpecTables Gw V) : SpecStore Gw V := ⟨tables, fun _ ↦ 1, fun _ ↦ none⟩

def counterIn (groupId : Uuid) : CreatePointInput Unit where
  name := "Counter"
  address := "40001"
  dataType := "uint16"
  groupId := some groupId

/-- The oven gets a group, and a point is created in it in bulk, for the datasource given. -/
def groupAndCounter (datasourceId : Uuid) : List (SpecCall Bool Unit × List (List Uuid)) :=
  [(.createGroup 2 { name := "Fast" }, [[], [10], []]),
    (.bulkCreate datasourceId [counterIn 10], [[], [20], []])]

/-- A counter of the press in a group of the oven. -/
def counterInOvenGroup : SpecTables Bool Unit :=
  { pressAndOven with
    pointGroups := [⟨10, "Fast", 1000, [], 2⟩]
    points := [⟨20, "Counter", "40001", "uint16", 1, 0, [], 1, some 10⟩] }

theorem keyed_pressAndOven : pressAndOven.Keyed := ⟨by decide, by decide, by decide⟩

/-- The counter of the oven, in a group of the oven. -/
theorem spec_lists_each_point_once_oven : ∃ store : SpecStore Bool Unit,
    store.tables.points.map Point.placement =
        [⟨2, some 10, ⟨20, "Counter", "40001", "uint16", 1, 0, []⟩⟩] ∧
      store.tables.GroupsMatch ∧ ∀ gatewayId, store.tables.ListsEachPointOnce gatewayId := by
  have hexecute : (execute (perform anySchemas (fun _ ↦ none)) (fun store a ↦
      a.1.NamesOwnGroups store.tables) (groupAndCounter 2) (emptySpecStore pressAndOven)).any
        (fun store ↦ decide (store.tables.points =
          [⟨20, "Counter", "40001", "uint16", 1, 0, [], 2, some 10⟩])) = true := by
    decide +kernel
  obtain ⟨store, hrun, hpoints⟩ := (Option.any_eq_true _ _).mp hexecute
  refine ⟨store, ?_, spec_lists_each_point_once keyed_pressAndOven
    (fun _ hp ↦ absurd hp List.not_mem_nil) (run_of_execute hrun)⟩
  rw [of_decide_eq_true hpoints]
  rfl

/-- **A point of the press is polled on the oven.** The bulk creation for the press names a group of
the oven: the gateway of the oven is told to read the point, under the oven, and the gateway of the
press is not. -/
theorem not_spec_lists_each_point_once : ∃ store : SpecStore Bool Unit,
    Run (perform anySchemas (fun _ ↦ none)) (fun _ _ ↦ True) (emptySpecStore pressAndOven)
        (groupAndCounter 1) store ∧
      ¬ store.tables.GroupsMatch ∧
      (placements (store.tables.buildSpec true)).map (fun x ↦ (x.datasourceId, x.point.id)) =
        [(2, 20)] ∧
      placements (store.tables.buildSpec false) = [] ∧
      ∀ gatewayId, ¬ store.tables.ListsEachPointOnce gatewayId := by
  have hexecute : (execute (perform anySchemas (fun _ ↦ none)) (fun _ _ ↦ True)
      (groupAndCounter 1) (emptySpecStore pressAndOven)).any
        (fun store ↦ decide (store.tables = counterInOvenGroup)) = true := by
    decide +kernel
  obtain ⟨store, hrun, htables⟩ := (Option.any_eq_true _ _).mp hexecute
  refine ⟨store, run_of_execute hrun, ?_⟩
  rw [of_decide_eq_true htables]
  have hoven : placements (counterInOvenGroup.buildSpec true) =
      [⟨2, some 10, ⟨20, "Counter", "40001", "uint16", 1, 0, []⟩⟩] := rfl
  have hpress : placements (counterInOvenGroup.buildSpec false) = [] := rfl
  refine ⟨fun h ↦ ?_, congrArg _ hoven, hpress, fun gatewayId h ↦ ?_⟩
  · obtain ⟨pg, hpg, -, hds⟩ := h _ (List.mem_singleton_self _) 10 rfl
    rw [List.mem_singleton.mp hpg] at hds
    exact absurd hds (by decide)
  · cases gatewayId with
    | true =>
      have hlisted := (h.mem_iff _).mp (hoven ▸ List.mem_singleton_self _)
      obtain ⟨p, hp, hplacement, -⟩ := hlisted
      rw [List.mem_singleton.mp hp] at hplacement
      exact absurd (congrArg Placement.datasourceId hplacement) (by decide)
    | false =>
      have hruns : counterInOvenGroup.RunsOn false 1 :=
        ⟨_, List.mem_cons_self, rfl, rfl, rfl⟩
      have hlisted := (h.mem_iff _).mpr ⟨_, List.mem_singleton_self _, rfl, hruns⟩
      rw [hpress] at hlisted
      exact List.not_mem_nil hlisted

end RwServer
