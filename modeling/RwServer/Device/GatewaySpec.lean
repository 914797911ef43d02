import Mathlib
import RwServer.Orders.Operations

/-!
# The spec of a gateway

A gateway runs the active datasources that are assigned to it, with their points, grouped or not.
`buildSpec` computes its spec from the tables when the gateway asks for it. This file has the
tables, `buildSpec` and the writes of the operations on datasources, point groups and points.

The gateways are the type `Gw`: an id that a row refers to is one of them, as the foreign keys
guarantee.
-/

namespace RwServer

/-- An object, entry by entry, with values of the type `V`. -/
abbrev JsonObject (V : Type*) := List (String × V)

inductive DataSourceType
  | DEVICE
  | KIOSK
  | SERVICE
  | VIRTUAL
deriving DecidableEq, Repr

inductive DatasourceStatus
  | DRAFT
  | ACTIVE
deriving DecidableEq, Repr

structure Datasource (Gw V : Type*) where
  id : Uuid
  name : String
  type : DataSourceType
  status : DatasourceStatus
  driver : String
  driverVersion : String
  connection : JsonObject V
  gatewayId : Option Gw
  /-- The workspace of its site, where it has one. -/
  siteWorkspaceId : Option Uuid
deriving DecidableEq

structure PointGroup (V : Type*) where
  id : Uuid
  name : String
  pollRateMs : ℤ
  config : JsonObject V
  datasourceId : Uuid
deriving DecidableEq

structure Point (V : Type*) where
  id : Uuid
  name : String
  address : String
  dataType : String
  scaleFactor : ℚ
  offset : ℚ
  config : JsonObject V
  datasourceId : Uuid
  groupId : Option Uuid
deriving DecidableEq

/-- The rows that `buildSpec` reads. -/
structure SpecTables (Gw V : Type*) where
  datasources : List (Datasource Gw V)
  pointGroups : List (PointGroup V)
  points : List (Point V)
deriving DecidableEq

/-! ## The spec -/

structure SpecPoint (V : Type*) where
  id : Uuid
  name : String
  address : String
  dataType : String
  scaleFactor : ℚ
  offset : ℚ
  config : JsonObject V
deriving DecidableEq

structure SpecGroup (V : Type*) where
  id : Uuid
  name : String
  pollRateMs : ℤ
  config : JsonObject V
  points : List (SpecPoint V)
deriving DecidableEq

structure SpecDatasource (V : Type*) where
  id : Uuid
  name : String
  type : DataSourceType
  driver : String
  driverVersion : String
  connection : JsonObject V
  pointGroups : List (SpecGroup V)
  points : List (SpecPoint V)
deriving DecidableEq

abbrev Spec (V : Type*) := List (SpecDatasource V)

variable {Gw V : Type*}

def Point.spec (p : Point V) : SpecPoint V :=
  ⟨p.id, p.name, p.address, p.dataType, p.scaleFactor, p.offset, p.config⟩

namespace SpecTables

def specGroup (t : SpecTables Gw V) (pg : PointGroup V) : SpecGroup V where
  id := pg.id
  name := pg.name
  pollRateMs := pg.pollRateMs
  config := pg.config
  points := (t.points.filter fun p ↦ decide (p.groupId = some pg.id)).map Point.spec

def specDatasource (t : SpecTables Gw V) (ds : Datasource Gw V) : SpecDatasource V where
  id := ds.id
  name := ds.name
  type := ds.type
  driver := ds.driver
  driverVersion := ds.driverVersion
  connection := ds.connection
  pointGroups := (t.pointGroups.filter fun pg ↦ decide (pg.datasourceId = ds.id)).map t.specGroup
  points := (t.points.filter fun p ↦
    decide (p.datasourceId = ds.id ∧ p.groupId = none)).map Point.spec

variable [DecidableEq Gw]

def buildSpec (t : SpecTables Gw V) (gatewayId : Gw) : Spec V :=
  (t.datasources.filter fun ds ↦
    decide (ds.gatewayId = some gatewayId ∧ ds.status = .ACTIVE)).map t.specDatasource

end SpecTables

/-! ## The writes -/

structure UpdateDatasourceInput (V : Type*) where
  name : Option String := none
  type : Option DataSourceType := none
  connection : Option (JsonObject V) := none

structure CreateGroupInput (V : Type*) where
  name : String
  pollRateMs : Option ℤ := none
  config : Option (JsonObject V) := none

structure UpdateGroupInput (V : Type*) where
  name : Option String := none
  pollRateMs : Option ℤ := none
  config : Option (JsonObject V) := none

/-- The point to be created; an empty `groupId` is none. -/
structure CreatePointInput (V : Type*) where
  name : String
  address : String
  dataType : String
  scaleFactor : Option ℚ := none
  offset : Option ℚ := none
  config : Option (JsonObject V) := none
  groupId : Option Uuid := none

/-- The fields to be changed; `some none` takes a point out of its group. -/
structure UpdatePointInput (V : Type*) where
  name : Option String := none
  address : Option String := none
  dataType : Option String := none
  scaleFactor : Option ℚ := none
  offset : Option ℚ := none
  config : Option (JsonObject V) := none
  groupId : Option (Option Uuid) := none

/-- The write of an operation. -/
inductive SpecWrite (Gw V : Type*)
  | updateDatasource (id : Uuid) (input : UpdateDatasourceInput V)
  | deleteDatasource (id : Uuid)
  | setStatus (id : Uuid) (status : DatasourceStatus)
  | setGateway (id : Uuid) (gatewayId : Option Gw)
  | createGroup (datasourceId : Uuid) (input : CreateGroupInput V)
  | updateGroup (id : Uuid) (input : UpdateGroupInput V)
  | deleteGroup (id : Uuid)
  | createPoints (datasourceId : Uuid) (inputs : List (CreatePointInput V))
  | updatePoint (id : Uuid) (input : UpdatePointInput V)
  | deletePoint (id : Uuid)

def Datasource.updated (ds : Datasource Gw V) (input : UpdateDatasourceInput V) :
    Datasource Gw V :=
  { ds with
    name := input.name.getD ds.name
    type := input.type.getD ds.type
    connection := input.connection.getD ds.connection }

/-- `pollRateMs || 1000`. -/
def pollRateOrDefault (pollRateMs : Option ℤ) : ℤ :=
  (pollRateMs.filter fun rate ↦ decide (rate ≠ 0)).getD 1000

def newGroup (id datasourceId : Uuid) (input : CreateGroupInput V) : PointGroup V where
  id := id
  name := input.name
  pollRateMs := pollRateOrDefault input.pollRateMs
  config := input.config.getD []
  datasourceId := datasourceId

def PointGroup.updated (pg : PointGroup V) (input : UpdateGroupInput V) : PointGroup V :=
  { pg with
    name := input.name.getD pg.name
    pollRateMs := input.pollRateMs.getD pg.pollRateMs
    config := input.config.getD pg.config }

def newPoint (datasourceId id : Uuid) (input : CreatePointInput V) : Point V where
  id := id
  name := input.name
  address := input.address
  dataType := input.dataType
  scaleFactor := input.scaleFactor.getD 1
  offset := input.offset.getD 0
  config := input.config.getD []
  datasourceId := datasourceId
  groupId := input.groupId

def Point.updated (p : Point V) (input : UpdatePointInput V) : Point V :=
  { p with
    name := input.name.getD p.name
    address := input.address.getD p.address
    dataType := input.dataType.getD p.dataType
    scaleFactor := input.scaleFactor.getD p.scaleFactor
    offset := input.offset.getD p.offset
    config := input.config.getD p.config
    groupId := input.groupId.getD p.groupId }

namespace SpecTables

def findDatasource (t : SpecTables Gw V) (id : Uuid) : Option (Datasource Gw V) :=
  t.datasources.find? fun ds ↦ decide (ds.id = id)

def findGroup (t : SpecTables Gw V) (id : Uuid) : Option (PointGroup V) :=
  t.pointGroups.find? fun pg ↦ decide (pg.id = id)

def findPoint (t : SpecTables Gw V) (id : Uuid) : Option (Point V) :=
  t.points.find? fun p ↦ decide (p.id = id)

/-- Change the datasource with an id. -/
def mapDatasource (t : SpecTables Gw V) (id : Uuid)
    (f : Datasource Gw V → Datasource Gw V) : SpecTables Gw V :=
  { t with datasources := t.datasources.map fun ds ↦ if ds.id = id then f ds else ds }

/-- A datasource is deleted with its groups and points; a point of another datasource that was in
one of the groups is in no group then. -/
def cascadeDatasource (t : SpecTables Gw V) (id : Uuid) : SpecTables Gw V where
  datasources := t.datasources.filter fun ds ↦ decide (ds.id ≠ id)
  pointGroups := t.pointGroups.filter fun pg ↦ decide (pg.datasourceId ≠ id)
  points := (t.points.filter fun p ↦ decide (p.datasourceId ≠ id)).map fun p ↦
    if p.groupId.any fun groupId ↦
      t.pointGroups.any fun pg ↦ decide (pg.id = groupId ∧ pg.datasourceId = id)
    then { p with groupId := none } else p

/-- The points of a group that is deleted are in no group then. -/
def cascadeGroup (t : SpecTables Gw V) (id : Uuid) : SpecTables Gw V :=
  { t with
    pointGroups := t.pointGroups.filter fun pg ↦ decide (pg.id ≠ id)
    points := t.points.map fun p ↦ if p.groupId = some id then { p with groupId := none } else p }

/-- A write, with the ids of the rows it makes. It fails where its row is not there, where a row it
refers to is not there, and where an id is taken. -/
def write (t : SpecTables Gw V) (ids : List Uuid) : SpecWrite Gw V → Option (SpecTables Gw V)
  | .updateDatasource id input =>
    (t.findDatasource id).map fun _ ↦ t.mapDatasource id fun ds ↦ ds.updated input
  | .deleteDatasource id => (t.findDatasource id).map fun _ ↦ t.cascadeDatasource id
  | .setStatus id status =>
    (t.findDatasource id).map fun _ ↦ t.mapDatasource id fun ds ↦ { ds with status := status }
  | .setGateway id gatewayId =>
    (t.findDatasource id).map fun _ ↦
      t.mapDatasource id fun ds ↦ { ds with gatewayId := gatewayId }
  | .createGroup datasourceId input =>
    match ids with
    | [id] =>
      if (t.findDatasource datasourceId).isSome ∧ t.findGroup id = none then
        some { t with pointGroups := t.pointGroups ++ [newGroup id datasourceId input] }
      else none
    | _ => none
  | .updateGroup id input => (t.findGroup id).map fun _ ↦
      { t with pointGroups := t.pointGroups.map fun pg ↦
          if pg.id = id then pg.updated input else pg }
  | .deleteGroup id => (t.findGroup id).map fun _ ↦ t.cascadeGroup id
  | .createPoints datasourceId inputs =>
    if ids.length = inputs.length ∧ ids.Nodup ∧ (t.findDatasource datasourceId).isSome ∧
        (∀ id ∈ ids, t.findPoint id = none) ∧
        ∀ input ∈ inputs, ∀ groupId ∈ input.groupId, (t.findGroup groupId).isSome then
      some { t with points := t.points ++ List.zipWith (newPoint datasourceId) ids inputs }
    else none
  | .updatePoint id input =>
    if (t.findPoint id).isSome ∧
        ∀ groupId ∈ input.groupId.getD none, (t.findGroup groupId).isSome then
      some { t with points := t.points.map fun p ↦ if p.id = id then p.updated input else p }
    else none
  | .deletePoint id => (t.findPoint id).map fun _ ↦
      { t with points := t.points.filter fun p ↦ decide (p.id ≠ id) }

end SpecTables

end RwServer
