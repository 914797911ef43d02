import Mathlib
import RwServer.Device.GatewaySpec
import RwServer.Foundation.Calls
import RwServer.Foundation.VersionedView

/-!
# Gateways that sync while their datasources change

An operation on a datasource, a point group or a point reads the row, writes, and then bumps the
spec version of a gateway; which gateway, and whether at all, most of them decide from the row they
have read before the write. A sync reads the spec version and then builds the spec, unless the
gateway has named that version; the gateway keeps the spec with the version it was sent.

`current_version_has_current_spec` says when the version tells that the spec is current: when every
write bumps the gateways whose spec it changes.
-/

namespace RwServer

open Transition VersionedView

/-- The config of a point with what is put before it for its validation. -/
structure PointConfig (V : Type*) where
  address : Option String
  dataType : Option String
  config : JsonObject V

/-- What the schemas of the drivers accept: the object as the coercion of its types leaves it, or
`none`. -/
structure DriverSchemas (V : Type*) where
  validateConnection : String → JsonObject V → String → Option (JsonObject V)
  validatePointGroupConfig : String → JsonObject V → String → Option (JsonObject V)
  validatePointConfig : String → PointConfig V → String → Option (JsonObject V)

/-- An operation, or a sync of a gateway that names its version. -/
inductive SpecCall (Gw V : Type*)
  | updateDatasource (id : Uuid) (input : UpdateDatasourceInput V) (workspaceId : Option Uuid)
  | removeDatasource (id : Uuid) (workspaceId : Option Uuid)
  | publish (id : Uuid) (workspaceId : Option Uuid)
  | unpublish (id : Uuid) (workspaceId : Option Uuid)
  | assign (id : Uuid) (gatewayId : Option Uuid)
  | createGroup (datasourceId : Uuid) (input : CreateGroupInput V)
  | updateGroup (id : Uuid) (input : UpdateGroupInput V)
  | removeGroup (id : Uuid)
  | createPoint (datasourceId : Uuid) (input : CreatePointInput V)
  | updatePoint (id : Uuid) (input : UpdatePointInput V)
  | removePoint (id : Uuid)
  | bulkCreate (datasourceId : Uuid) (inputs : List (CreatePointInput V))
  | sync (gatewayId : Gw) (version : Option ℕ)

/-- Which gateways are bumped after the write: that of the row the write returns, or those that were
named before it. -/
inductive Bumps (Gw : Type*)
  | ofRow (id : Uuid) (ifActive : Bool)
  | fixed (gatewayIds : List Gw)

inductive SpecResult
  | success
  | upToDate
  | refused (e : ServiceError)
  | thrown
deriving DecidableEq, Repr

/-- Which step of a call comes next. -/
inductive SpecPhase (Gw V : Type*)
  | start
  | readingGateway (existing : Datasource Gw V)
  | readingGroup (groupId : Uuid) (datasource : Datasource Gw V)
  | writing (write : SpecWrite Gw V) (bumps : Bumps Gw)
  | bumping (gatewayIds : List Gw)
  /-- A sync has read the version. -/
  | building (version : ℕ)
  /-- The answer of a sync is under way. -/
  | answered (version : ℕ) (spec : Spec V)
  | finished (result : SpecResult)

/-- The tables, the spec versions, and what each gateway has got last. -/
structure SpecStore (Gw V : Type*) where
  tables : SpecTables Gw V
  specVersion : Gw → ℕ
  held : Gw → Option (ℕ × Spec V)

variable {Gw V : Type*}

def refusedSpec (error code : String) : SpecPhase Gw V := .finished (.refused ⟨error, code⟩)

/-! ## What is read before the write -/

def workspaceMismatch (workspaceId : Option Uuid) (ds : Datasource Gw V) : Bool :=
  workspaceId.any fun w ↦ ds.siteWorkspaceId.any fun w' ↦ decide (w' ≠ w)

/-- The checks that the operations on a datasource begin with. -/
def withDatasource (workspaceId : Option Uuid) (existing : Option (Datasource Gw V))
    (next : Datasource Gw V → SpecPhase Gw V) : SpecPhase Gw V :=
  match existing with
  | none => refusedSpec "Datasource not found" "NOT_FOUND"
  | some ds =>
    if workspaceMismatch workspaceId ds then refusedSpec "Unauthorized" "WORKSPACE_MISMATCH"
    else next ds

/-- `update`: the connection of an active datasource is validated. -/
def planUpdate (schemas : DriverSchemas V) (id : Uuid) (input : UpdateDatasourceInput V)
    (existing : Datasource Gw V) : SpecPhase Gw V :=
  match existing.status, input.connection with
  | .ACTIVE, some connection =>
    match schemas.validateConnection existing.driver connection existing.driverVersion with
    | none => refusedSpec "Connection validation failed" "VALIDATION_FAILED"
    | some connection =>
      .writing (.updateDatasource id { input with connection := some connection }) (.ofRow id true)
  | _, _ => .writing (.updateDatasource id input) (.ofRow id true)

/-- `remove`. -/
def planRemove (id : Uuid) (existing : Datasource Gw V) : SpecPhase Gw V :=
  .writing (.deleteDatasource id)
    (.fixed (if existing.status = .ACTIVE then existing.gatewayId.toList else []))

/-- `publish`. -/
def planPublish (schemas : DriverSchemas V) (id : Uuid) (existing : Datasource Gw V) :
    SpecPhase Gw V :=
  if existing.status ≠ .DRAFT then
    refusedSpec "Only DRAFT datasources can be published" "INVALID_STATUS"
  else if existing.connection.isEmpty then
    refusedSpec "Connection info required to publish" "CONNECTION_REQUIRED"
  else match schemas.validateConnection existing.driver existing.connection
      existing.driverVersion with
  | none => refusedSpec "Connection validation failed" "VALIDATION_FAILED"
  | some _ => .writing (.setStatus id .ACTIVE) (.ofRow id false)

/-- `unpublish`. -/
def planUnpublish (id : Uuid) (existing : Datasource Gw V) : SpecPhase Gw V :=
  if existing.status ≠ .ACTIVE then
    refusedSpec "Only ACTIVE datasources can be unpublished" "INVALID_STATUS"
  else .writing (.setStatus id .DRAFT) (.ofRow id false)

/-- The config of a group or a point, validated where it is given and has entries. -/
def validatedConfig (config : Option (JsonObject V))
    (validate : JsonObject V → Option (JsonObject V)) : Option (Option (JsonObject V)) :=
  match config with
  | none => some none
  | some config => if config.isEmpty then some (some config) else (validate config).map some

/-- `groups.create`, when the datasource has been read. -/
def planCreateGroup (schemas : DriverSchemas V) (datasourceId : Uuid) (input : CreateGroupInput V)
    (datasource : Option (Datasource Gw V)) : SpecPhase Gw V :=
  match datasource with
  | none => refusedSpec "Datasource not found" "DATASOURCE_NOT_FOUND"
  | some ds =>
    match validatedConfig input.config fun config ↦
        schemas.validatePointGroupConfig ds.driver config ds.driverVersion with
    | none => refusedSpec "Point group config validation failed" "VALIDATION_FAILED"
    | some config => .writing (.createGroup datasourceId { input with config := config })
        (.fixed ds.gatewayId.toList)

/-- `groups.update`, when the group has been read with its datasource. -/
def planUpdateGroup (schemas : DriverSchemas V) (id : Uuid) (input : UpdateGroupInput V)
    (datasource : Option (Datasource Gw V)) : SpecPhase Gw V :=
  match datasource with
  | none => refusedSpec "Point group not found" "NOT_FOUND"
  | some ds =>
    match validatedConfig input.config fun config ↦
        schemas.validatePointGroupConfig ds.driver config ds.driverVersion with
    | none => refusedSpec "Point group config validation failed" "VALIDATION_FAILED"
    | some config => .writing (.updateGroup id { input with config := config })
        (.fixed ds.gatewayId.toList)

/-- `groups.remove`. -/
def planRemoveGroup (id : Uuid) (datasource : Option (Datasource Gw V)) : SpecPhase Gw V :=
  match datasource with
  | none => refusedSpec "Point group not found" "NOT_FOUND"
  | some ds => .writing (.deleteGroup id) (.fixed ds.gatewayId.toList)

/-- `points.create`, when the group has been checked. -/
def planCreatePoint (schemas : DriverSchemas V) (input : CreatePointInput V)
    (ds : Datasource Gw V) : SpecPhase Gw V :=
  match validatedConfig input.config fun config ↦ schemas.validatePointConfig ds.driver
      ⟨some input.address, some input.dataType, config⟩ ds.driverVersion with
  | none => refusedSpec "Point config validation failed" "VALIDATION_FAILED"
  | some config => .writing (.createPoints ds.id [{ input with config := config }])
      (.fixed ds.gatewayId.toList)

/-- `points.update`, when the group has been checked. -/
def planUpdatePoint (schemas : DriverSchemas V) (id : Uuid) (input : UpdatePointInput V)
    (ds : Datasource Gw V) : SpecPhase Gw V :=
  match validatedConfig input.config fun config ↦ schemas.validatePointConfig ds.driver
      ⟨input.address, input.dataType, config⟩ ds.driverVersion with
  | none => refusedSpec "Point config validation failed" "VALIDATION_FAILED"
  | some config => .writing (.updatePoint id { input with config := config })
      (.fixed ds.gatewayId.toList)

/-- `points.remove`. -/
def planRemovePoint (id : Uuid) (datasource : Option (Datasource Gw V)) : SpecPhase Gw V :=
  match datasource with
  | none => refusedSpec "Point not found" "NOT_FOUND"
  | some ds => .writing (.deletePoint id) (.fixed ds.gatewayId.toList)

/-- The loop of `bulkCreate` over the points: the points with their configs, or the refusal of the
first that is not valid. -/
def validatePoints (schemas : DriverSchemas V) (ds : Datasource Gw V) :
    ℕ → List (CreatePointInput V) → Except ServiceError (List (CreatePointInput V))
  | _, [] => .ok []
  | i, input :: inputs =>
    match validatedConfig input.config fun config ↦
        schemas.validatePointConfig ds.driver ⟨none, none, config⟩ ds.driverVersion with
    | none => .error ⟨"Point config validation failed for point at index " ++ toString i ++
        " (\"" ++ input.name ++ "\")", "VALIDATION_FAILED"⟩
    | some config =>
      (validatePoints schemas ds (i + 1) inputs).map fun rest ↦
        { input with config := config } :: rest

/-- `bulkCreate`, when the datasource has been read. The groups of the points are not looked at. -/
def planBulkCreate (schemas : DriverSchemas V) (inputs : List (CreatePointInput V))
    (datasource : Option (Datasource Gw V)) : SpecPhase Gw V :=
  match datasource with
  | none => refusedSpec "Datasource not found" "DATASOURCE_NOT_FOUND"
  | some ds =>
    match validatePoints schemas ds 0 inputs with
    | .error e => .finished (.refused e)
    | .ok inputs => .writing (.createPoints ds.id inputs) (.fixed ds.gatewayId.toList)

/-- The group of a point has been read. -/
def withGroup (datasourceId : Uuid) (group : Option (PointGroup V)) (next : SpecPhase Gw V) :
    SpecPhase Gw V :=
  match group with
  | none => refusedSpec "Point group not found" "GROUP_NOT_FOUND"
  | some group =>
    if group.datasourceId ≠ datasourceId then
      refusedSpec "Point group belongs to different datasource" "GROUP_MISMATCH"
    else next

variable [DecidableEq Gw]

/-- The gateways that `assign` bumps: of an active datasource the old one, where it is another, and
the new one. -/
def assignBumps (existing : Datasource Gw V) (gatewayId : Option Gw) : List Gw :=
  if existing.status = .ACTIVE then
    (existing.gatewayId.filter fun old ↦ decide (some old ≠ gatewayId)).toList ++ gatewayId.toList
  else []

/-- The first read of a call, and what comes after it. -/
def afterFirstRead (schemas : DriverSchemas V) (store : SpecStore Gw V) :
    SpecCall Gw V → SpecPhase Gw V
  | .updateDatasource id input workspaceId =>
    withDatasource workspaceId (store.tables.findDatasource id) (planUpdate schemas id input)
  | .removeDatasource id workspaceId =>
    withDatasource workspaceId (store.tables.findDatasource id) (planRemove id)
  | .publish id workspaceId =>
    withDatasource workspaceId (store.tables.findDatasource id) (planPublish schemas id)
  | .unpublish id workspaceId =>
    withDatasource workspaceId (store.tables.findDatasource id) (planUnpublish id)
  | .assign id gatewayId =>
    withDatasource none (store.tables.findDatasource id) fun existing ↦
      if gatewayId.isSome then .readingGateway existing
      else .writing (.setGateway id none) (.fixed (assignBumps existing none))
  | .createGroup datasourceId input =>
    planCreateGroup schemas datasourceId input (store.tables.findDatasource datasourceId)
  | .updateGroup id input => planUpdateGroup schemas id input
      ((store.tables.findGroup id).bind fun pg ↦ store.tables.findDatasource pg.datasourceId)
  | .removeGroup id => planRemoveGroup id
      ((store.tables.findGroup id).bind fun pg ↦ store.tables.findDatasource pg.datasourceId)
  | .createPoint datasourceId input =>
    match store.tables.findDatasource datasourceId with
    | none => refusedSpec "Datasource not found" "DATASOURCE_NOT_FOUND"
    | some ds =>
      match input.groupId with
      | some groupId => .readingGroup groupId ds
      | none => planCreatePoint schemas input ds
  | .updatePoint id input =>
    match (store.tables.findPoint id).bind fun p ↦ store.tables.findDatasource p.datasourceId with
    | none => refusedSpec "Point not found" "NOT_FOUND"
    | some ds =>
      match input.groupId with
      | some (some groupId) => .readingGroup groupId ds
      | _ => planUpdatePoint schemas id input ds
  | .removePoint id => planRemovePoint id
      ((store.tables.findPoint id).bind fun p ↦ store.tables.findDatasource p.datasourceId)
  | .bulkCreate datasourceId inputs =>
    planBulkCreate schemas inputs (store.tables.findDatasource datasourceId)
  | .sync gatewayId version =>
    if version = some (store.specVersion gatewayId) then .finished .upToDate
    else .building (store.specVersion gatewayId)

/-- What comes after the group of a point has been read. -/
def afterGroup (schemas : DriverSchemas V) (ds : Datasource Gw V) (group : Option (PointGroup V)) :
    SpecCall Gw V → SpecPhase Gw V
  | .createPoint _ input => withGroup ds.id group (planCreatePoint schemas input ds)
  | .updatePoint id input => withGroup ds.id group (planUpdatePoint schemas id input ds)
  | _ => .finished .thrown

/-- What comes after `assign` has looked for the gateway. -/
def afterGateway (existing : Datasource Gw V) (gateway : Option Gw) : SpecPhase Gw V :=
  match gateway with
  | none => refusedSpec "Gateway not found" "GATEWAY_NOT_FOUND"
  | some gatewayId =>
    .writing (.setGateway existing.id (some gatewayId))
      (.fixed (assignBumps existing (some gatewayId)))

/-! ## The calls, step by step -/

/-- The gateways to be bumped, when the write has left the tables `t`. -/
def Bumps.targets (t : SpecTables Gw V) : Bumps Gw → List Gw
  | .ofRow id ifActive =>
    match t.findDatasource id with
    | none => []
    | some ds => if ifActive ∧ ds.status ≠ .ACTIVE then [] else ds.gatewayId.toList
  | .fixed gatewayIds => gatewayIds

def bumpPhase (gatewayIds : List Gw) : SpecPhase Gw V :=
  if gatewayIds.isEmpty then .finished .success else .bumping gatewayIds

/-- `bumpSpecVersion`. -/
def SpecStore.bumpSpecVersion (store : SpecStore Gw V) (gatewayId : Gw) : SpecStore Gw V :=
  { store with
    specVersion := Function.update store.specVersion gatewayId (store.specVersion gatewayId + 1) }

section

variable {ι : Type*}

/-- The next step of the call `i`; `ids` are the ids of the rows it makes. -/
def specStatement (schemas : DriverSchemas V) (findGateway : Uuid → Option Gw)
    (calls : ι → SpecCall Gw V) (i : ι) (ids : List Uuid) (store : SpecStore Gw V) :
    SpecPhase Gw V → Option (SpecStore Gw V × SpecPhase Gw V)
  | .start => some (store, afterFirstRead schemas store (calls i))
  | .readingGateway existing =>
    match calls i with
    | .assign _ gatewayId => some (store, afterGateway existing (gatewayId.bind findGateway))
    | _ => none
  | .readingGroup groupId ds =>
    some (store, afterGroup schemas ds (store.tables.findGroup groupId) (calls i))
  | .writing write bumps =>
    match store.tables.write ids write with
    | none => some (store, .finished .thrown)
    | some tables => some ({ store with tables := tables }, bumpPhase (bumps.targets tables))
  | .bumping [] => none
  | .bumping (gatewayId :: rest) => some (store.bumpSpecVersion gatewayId, bumpPhase rest)
  | .building version =>
    match calls i with
    | .sync gatewayId _ => some (store, .answered version (store.tables.buildSpec gatewayId))
    | _ => none
  | .answered version spec =>
    match calls i with
    | .sync gatewayId _ =>
      some ({ store with held := Function.update store.held gatewayId (some (version, spec)) },
        .finished .success)
    | _ => none
  | .finished _ => none

abbrev SpecCalls (ι Gw V : Type*) := Calls ι (SpecStore Gw V) (SpecPhase Gw V)

/-- Before any of the calls, no gateway has a spec. -/
def specStart (tables : SpecTables Gw V) (specVersion : Gw → ℕ) : SpecCalls ι Gw V :=
  ⟨⟨tables, specVersion, fun _ ↦ none⟩, fun _ ↦ .start⟩

end

/-! ## What a step does -/

omit [DecidableEq Gw] in
/-- The phases in which no bump is to come and no spec is under way. -/
def SpecPhase.IsQuiet : SpecPhase Gw V → Prop
  | .bumping _ | .building _ | .answered _ _ => False
  | _ => True

/-! What holds of every refusal and of the write that a plan ends in holds of the plan. -/

section

omit [DecidableEq Gw]

variable {P : SpecPhase Gw V → Prop} (hfinished : ∀ result, P (.finished result))

include hfinished

theorem withDatasource_rule {workspaceId : Option Uuid} {existing : Option (Datasource Gw V)}
    {next : Datasource Gw V → SpecPhase Gw V} (h : ∀ ds, P (next ds)) :
    P (withDatasource workspaceId existing next) := by
  unfold withDatasource
  split
  · exact hfinished _
  · split
    · exact hfinished _
    · exact h _

theorem planUpdate_rule {schemas : DriverSchemas V} {id : Uuid} {input : UpdateDatasourceInput V}
    {existing : Datasource Gw V}
    (h : ∀ input, P (.writing (.updateDatasource id input) (.ofRow id true))) :
    P (planUpdate schemas id input existing) := by
  unfold planUpdate
  split
  · split
    · exact hfinished _
    · exact h _
  · exact h _

theorem planPublish_rule {schemas : DriverSchemas V} {id : Uuid} {existing : Datasource Gw V}
    (h : P (.writing (.setStatus id .ACTIVE) (.ofRow id false))) :
    P (planPublish schemas id existing) := by
  unfold planPublish
  split
  · exact hfinished _
  · split
    · exact hfinished _
    · split
      · exact hfinished _
      · exact h

theorem planUnpublish_rule {id : Uuid} {existing : Datasource Gw V}
    (h : P (.writing (.setStatus id .DRAFT) (.ofRow id false))) :
    P (planUnpublish id existing) := by
  unfold planUnpublish
  split
  · exact hfinished _
  · exact h

theorem planCreateGroup_rule {schemas : DriverSchemas V} {datasourceId : Uuid}
    {input : CreateGroupInput V} {datasource : Option (Datasource Gw V)}
    (h : ∀ input bumps, P (.writing (.createGroup datasourceId input) bumps)) :
    P (planCreateGroup schemas datasourceId input datasource) := by
  unfold planCreateGroup
  split
  · exact hfinished _
  · split
    · exact hfinished _
    · exact h _ _

theorem planUpdateGroup_rule {schemas : DriverSchemas V} {id : Uuid} {input : UpdateGroupInput V}
    {datasource : Option (Datasource Gw V)}
    (h : ∀ input bumps, P (.writing (.updateGroup id input) bumps)) :
    P (planUpdateGroup schemas id input datasource) := by
  unfold planUpdateGroup
  split
  · exact hfinished _
  · split
    · exact hfinished _
    · exact h _ _

theorem planRemoveGroup_rule {id : Uuid} {datasource : Option (Datasource Gw V)}
    (h : ∀ bumps, P (.writing (.deleteGroup id) bumps)) : P (planRemoveGroup id datasource) := by
  unfold planRemoveGroup
  split
  · exact hfinished _
  · exact h _

theorem planCreatePoint_rule {schemas : DriverSchemas V} {input : CreatePointInput V}
    {ds : Datasource Gw V}
    (h : ∀ config bumps,
      P (.writing (.createPoints ds.id [{ input with config := config }]) bumps)) :
    P (planCreatePoint schemas input ds) := by
  unfold planCreatePoint
  split
  · exact hfinished _
  · exact h _ _

theorem planUpdatePoint_rule {schemas : DriverSchemas V} {id : Uuid} {input : UpdatePointInput V}
    {ds : Datasource Gw V}
    (h : ∀ config bumps, P (.writing (.updatePoint id { input with config := config }) bumps)) :
    P (planUpdatePoint schemas id input ds) := by
  unfold planUpdatePoint
  split
  · exact hfinished _
  · exact h _ _

theorem planRemovePoint_rule {id : Uuid} {datasource : Option (Datasource Gw V)}
    (h : ∀ bumps, P (.writing (.deletePoint id) bumps)) : P (planRemovePoint id datasource) := by
  unfold planRemovePoint
  split
  · exact hfinished _
  · exact h _

theorem planBulkCreate_rule {schemas : DriverSchemas V} {inputs : List (CreatePointInput V)}
    {datasource : Option (Datasource Gw V)}
    (h : ∀ ds inputs' bumps, datasource = some ds →
      validatePoints schemas ds 0 inputs = .ok inputs' →
        P (.writing (.createPoints ds.id inputs') bumps)) :
    P (planBulkCreate schemas inputs datasource) := by
  unfold planBulkCreate
  split
  · exact hfinished _
  · split
    · exact hfinished _
    · rename_i hvalid
      exact h _ _ _ rfl hvalid

theorem withGroup_rule {datasourceId : Uuid} {group : Option (PointGroup V)}
    {next : SpecPhase Gw V}
    (h : ∀ pg, group = some pg → pg.datasourceId = datasourceId → P next) :
    P (withGroup datasourceId group next) := by
  unfold withGroup
  split
  · exact hfinished _
  · split
    · exact hfinished _
    · rename_i hds
      exact h _ rfl (not_not.mp hds)

end

omit [DecidableEq Gw] in
theorem isQuiet_afterGroup (schemas : DriverSchemas V) (ds : Datasource Gw V)
    (group : Option (PointGroup V)) (call : SpecCall Gw V) :
    (afterGroup schemas ds group call).IsQuiet := by
  have hfinished : ∀ result, (SpecPhase.finished result : SpecPhase Gw V).IsQuiet :=
    fun _ ↦ trivial
  unfold afterGroup
  split
  · exact withGroup_rule hfinished fun _ _ _ ↦ planCreatePoint_rule hfinished fun _ _ ↦ trivial
  · exact withGroup_rule hfinished fun _ _ _ ↦ planUpdatePoint_rule hfinished fun _ _ ↦ trivial
  · trivial

theorem isQuiet_afterGateway (existing : Datasource Gw V) (gateway : Option Gw) :
    (afterGateway existing gateway : SpecPhase Gw V).IsQuiet := by
  unfold afterGateway
  split <;> trivial

/-- After its first read an operation is quiet, and a sync has read the version. -/
theorem afterFirstRead_cases (schemas : DriverSchemas V) (store : SpecStore Gw V)
    (call : SpecCall Gw V) : (afterFirstRead schemas store call).IsQuiet ∨
      ∃ gatewayId version, call = .sync gatewayId version ∧
        afterFirstRead schemas store call = .building (store.specVersion gatewayId) := by
  have hfinished : ∀ result, (SpecPhase.finished result : SpecPhase Gw V).IsQuiet :=
    fun _ ↦ trivial
  cases call with
  | updateDatasource id input workspaceId =>
    exact .inl (withDatasource_rule hfinished fun _ ↦ planUpdate_rule hfinished fun _ ↦ trivial)
  | removeDatasource id workspaceId => exact .inl (withDatasource_rule hfinished fun _ ↦ trivial)
  | publish id workspaceId =>
    exact .inl (withDatasource_rule hfinished fun _ ↦ planPublish_rule hfinished trivial)
  | unpublish id workspaceId =>
    exact .inl (withDatasource_rule hfinished fun _ ↦ planUnpublish_rule hfinished trivial)
  | assign id gatewayId =>
    refine .inl (withDatasource_rule hfinished fun _ ↦ ?_)
    split <;> trivial
  | createGroup datasourceId input =>
    exact .inl (planCreateGroup_rule hfinished fun _ _ ↦ trivial)
  | updateGroup id input => exact .inl (planUpdateGroup_rule hfinished fun _ _ ↦ trivial)
  | removeGroup id => exact .inl (planRemoveGroup_rule hfinished fun _ ↦ trivial)
  | createPoint datasourceId input =>
    refine .inl ?_
    rw [afterFirstRead]
    split
    · trivial
    · split
      · trivial
      · exact planCreatePoint_rule hfinished fun _ _ ↦ trivial
  | updatePoint id input =>
    refine .inl ?_
    rw [afterFirstRead]
    split
    · trivial
    · split
      · trivial
      · exact planUpdatePoint_rule hfinished fun _ _ ↦ trivial
  | removePoint id => exact .inl (planRemovePoint_rule hfinished fun _ ↦ trivial)
  | bulkCreate datasourceId inputs =>
    exact .inl (planBulkCreate_rule hfinished fun _ _ _ _ _ ↦ trivial)
  | sync gatewayId version =>
    rw [afterFirstRead]
    split
    · exact .inl trivial
    · exact .inr ⟨gatewayId, version, rfl, rfl⟩

/-- In the phase of a write: the gateways whose specs it changes are bumped after it. -/
def SpecPhase.BumpsChanged (t : SpecTables Gw V) (ids : List Uuid) : SpecPhase Gw V → Prop
  | .writing write bumps => ∀ t' ∈ t.write ids write, ∀ gatewayId,
      t'.buildSpec gatewayId ≠ t.buildSpec gatewayId → gatewayId ∈ bumps.targets t'
  | _ => True

instance SpecPhase.decidableBumpsChanged [DecidableEq V] [Fintype Gw] (t : SpecTables Gw V)
    (ids : List Uuid) : ∀ phase : SpecPhase Gw V, Decidable (phase.BumpsChanged t ids)
  | .writing write bumps => inferInstanceAs (Decidable (∀ t' ∈ t.write ids write, ∀ gatewayId,
      t'.buildSpec gatewayId ≠ t.buildSpec gatewayId → gatewayId ∈ bumps.targets t'))
  | .start | .readingGateway _ | .readingGroup _ _ | .bumping _ | .building _ | .answered _ _
  | .finished _ => isTrue trivial

/-! ## Writes that bump the gateway of the row they return -/

namespace SpecTables

/-- A change of a datasource that does not run on the gateway, neither before nor after it. -/
theorem buildSpec_mapDatasource {t : SpecTables Gw V} {id : Uuid}
    {f : Datasource Gw V → Datasource Gw V} {gatewayId : Gw}
    (h : ∀ ds ∈ t.datasources, ds.id = id →
      ¬ (ds.gatewayId = some gatewayId ∧ ds.status = .ACTIVE) ∧
        ¬ ((f ds).gatewayId = some gatewayId ∧ (f ds).status = .ACTIVE)) :
    (t.mapDatasource id f).buildSpec gatewayId = t.buildSpec gatewayId := by
  have hfilter : ∀ l : List (Datasource Gw V), (∀ ds ∈ l, ds.id = id →
      ¬ (ds.gatewayId = some gatewayId ∧ ds.status = .ACTIVE) ∧
        ¬ ((f ds).gatewayId = some gatewayId ∧ (f ds).status = .ACTIVE)) →
      ((l.map fun ds ↦ if ds.id = id then f ds else ds).filter fun ds ↦
        decide (ds.gatewayId = some gatewayId ∧ ds.status = .ACTIVE)) =
          l.filter fun ds ↦ decide (ds.gatewayId = some gatewayId ∧ ds.status = .ACTIVE) := by
    intro l hl
    induction l with
    | nil => rfl
    | cons ds rest ih =>
      have hrest := ih fun ds' hds' ↦ hl ds' (List.mem_cons_of_mem _ hds')
      rw [List.map_cons, List.filter_cons, List.filter_cons, hrest]
      by_cases hid : ds.id = id
      · obtain ⟨hbefore, hafter⟩ := hl ds List.mem_cons_self hid
        rw [if_pos hid, decide_eq_false hbefore, decide_eq_false hafter,
          if_neg Bool.false_ne_true, if_neg Bool.false_ne_true]
      · rw [if_neg hid]
  exact congrArg (List.map t.specDatasource) (hfilter _ h)

omit [DecidableEq Gw] in
theorem findDatasource_mapDatasource (t : SpecTables Gw V) (id : Uuid)
    {f : Datasource Gw V → Datasource Gw V} (hf : ∀ ds, (f ds).id = ds.id) :
    (t.mapDatasource id f).findDatasource id = (t.findDatasource id).map f := by
  have hkey : ∀ ds : Datasource Gw V, (if ds.id = id then f ds else ds).id = ds.id := fun ds ↦ by
    split
    · exact hf ds
    · rfl
  rw [findDatasource, mapDatasource, List.find?_map, findDatasource]
  have hsame : ((fun ds : Datasource Gw V ↦ decide (ds.id = id)) ∘ fun ds ↦
      if ds.id = id then f ds else ds) = fun ds ↦ decide (ds.id = id) := by
    funext ds
    rw [Function.comp_apply, hkey]
  rw [hsame]
  cases hfind : t.datasources.find? fun ds ↦ decide (ds.id = id) with
  | none => rfl
  | some ds =>
    have hid := List.find?_some (p := fun ds : Datasource Gw V ↦ decide (ds.id = id)) hfind
    rw [Option.map_some, Option.map_some, if_pos (of_decide_eq_true hid)]

omit [DecidableEq Gw] in
/-- The row of an id. -/
theorem eq_of_findDatasource {t : SpecTables Gw V} (hids : (t.datasources.map Datasource.id).Nodup)
    {id : Uuid} {row ds : Datasource Gw V} (hrow : t.findDatasource id = some row)
    (hds : ds ∈ t.datasources) (hid : ds.id = id) : ds = row := by
  have hrow' := List.find?_some (p := fun ds : Datasource Gw V ↦ decide (ds.id = id)) hrow
  exact List.inj_on_of_nodup_map hids hds (List.mem_of_find?_eq_some hrow)
    (hid.trans (of_decide_eq_true hrow').symm)

end SpecTables

/-- An update of a datasource bumps what it changes, whatever came between its read and its
write. -/
theorem bumpsChanged_updateDatasource {t : SpecTables Gw V}
    (hids : (t.datasources.map Datasource.id).Nodup) (ids : List Uuid) (id : Uuid)
    (input : UpdateDatasourceInput V) :
    (SpecPhase.writing (.updateDatasource id input) (.ofRow id true)).BumpsChanged t ids := by
  intro t' ht' gatewayId hchanged
  obtain ⟨row, hrow, rfl⟩ := Option.map_eq_some_iff.mp ht'
  by_contra hnot
  rw [Bumps.targets, SpecTables.findDatasource_mapDatasource t id
    (f := fun ds ↦ ds.updated input) fun _ ↦ rfl, hrow, Option.map_some] at hnot
  refine hchanged (SpecTables.buildSpec_mapDatasource fun ds hds hid ↦ ?_)
  obtain rfl := SpecTables.eq_of_findDatasource hids hrow hds hid
  have hruns : ¬ (ds.gatewayId = some gatewayId ∧ ds.status = .ACTIVE) := by
    rintro ⟨hgateway, hactive⟩
    refine hnot ?_
    change gatewayId ∈ if true = true ∧ ds.status ≠ .ACTIVE then [] else ds.gatewayId.toList
    rw [if_neg fun h ↦ h.2 hactive, hgateway]
    exact List.mem_singleton_self _
  exact ⟨hruns, hruns⟩

/-- So do a publish and an unpublish. -/
theorem bumpsChanged_setStatus {t : SpecTables Gw V}
    (hids : (t.datasources.map Datasource.id).Nodup) (ids : List Uuid) (id : Uuid)
    (status : DatasourceStatus) :
    (SpecPhase.writing (.setStatus id status : SpecWrite Gw V) (.ofRow id false)).BumpsChanged t
      ids := by
  intro t' ht' gatewayId hchanged
  obtain ⟨row, hrow, rfl⟩ := Option.map_eq_some_iff.mp ht'
  by_contra hnot
  rw [Bumps.targets, SpecTables.findDatasource_mapDatasource t id
    (f := fun ds ↦ { ds with status := status }) fun _ ↦ rfl, hrow, Option.map_some] at hnot
  refine hchanged (SpecTables.buildSpec_mapDatasource fun ds hds hid ↦ ?_)
  obtain rfl := SpecTables.eq_of_findDatasource hids hrow hds hid
  have hgateway : ds.gatewayId ≠ some gatewayId := by
    intro hgateway
    refine hnot ?_
    change gatewayId ∈ if false = true ∧ status ≠ .ACTIVE then [] else ds.gatewayId.toList
    rw [if_neg fun h ↦ Bool.false_ne_true h.1, hgateway]
    exact List.mem_singleton_self _
  exact ⟨fun h ↦ hgateway h.1, fun h ↦ hgateway h.1⟩

/-- An assignment bumps what it changes where the datasource is still as the call has read it. -/
theorem bumpsChanged_assign {t : SpecTables Gw V} (hids : (t.datasources.map Datasource.id).Nodup)
    (ids : List Uuid) {id : Uuid} {existing : Datasource Gw V}
    (hexisting : t.findDatasource id = some existing) (gatewayId : Option Gw) :
    (SpecPhase.writing (.setGateway id gatewayId) (.fixed (assignBumps existing gatewayId)) :
      SpecPhase Gw V).BumpsChanged t ids := by
  intro t' ht' changed hchanged
  obtain ⟨row, hrow, rfl⟩ := Option.map_eq_some_iff.mp ht'
  by_contra hnot
  refine hchanged (SpecTables.buildSpec_mapDatasource fun ds hds hid ↦ ?_)
  obtain rfl := SpecTables.eq_of_findDatasource hids hexisting hds hid
  change changed ∉ assignBumps ds gatewayId at hnot
  unfold assignBumps at hnot
  split at hnot
  · rename_i hactive
    rw [List.mem_append, not_or, Option.mem_toList, Option.mem_toList] at hnot
    obtain ⟨hold, hnew⟩ := hnot
    refine ⟨fun hruns ↦ hold ?_, fun hruns ↦ hnew hruns.1⟩
    rw [hruns.1]
    exact Option.mem_filter_iff.mpr ⟨rfl, decide_eq_true fun heq ↦ hnew heq.symm⟩
  · rename_i hdraft
    exact ⟨fun hruns ↦ hdraft hruns.2, fun hruns ↦ hdraft hruns.2⟩

section

variable {ι : Type*}

/-- **What a step can do.** The cases are those of the code: reads and refusals, the version that a
sync reads, a write, a bump, the spec that a sync builds, and its arrival. -/
theorem specStatement_cases {schemas : DriverSchemas V} {findGateway : Uuid → Option Gw}
    {calls : ι → SpecCall Gw V} {i : ι} {ids : List Uuid} {store store' : SpecStore Gw V}
    {phase phase' : SpecPhase Gw V}
    (h : specStatement schemas findGateway calls i ids store phase = some (store', phase')) :
    (store' = store ∧ phase.IsQuiet ∧ (phase'.IsQuiet ∨ ∃ gatewayId version,
        calls i = .sync gatewayId version ∧ phase' = .building (store.specVersion gatewayId))) ∨
      (∃ write bumps tables, phase = .writing write bumps ∧
        store.tables.write ids write = some tables ∧ store' = { store with tables := tables } ∧
        phase' = bumpPhase (bumps.targets tables)) ∨
      (∃ gatewayId rest, phase = .bumping (gatewayId :: rest) ∧
        store' = store.bumpSpecVersion gatewayId ∧ phase' = bumpPhase rest) ∨
      (∃ gatewayId named version, calls i = .sync gatewayId named ∧ phase = .building version ∧
        store' = store ∧ phase' = .answered version (store.tables.buildSpec gatewayId)) ∨
      ∃ gatewayId named version spec, calls i = .sync gatewayId named ∧
        phase = .answered version spec ∧ phase' = .finished .success ∧
        store' = { store with
          held := Function.update store.held gatewayId (some (version, spec)) } := by
  cases phase with
  | start =>
    cases h
    exact .inl ⟨rfl, trivial, afterFirstRead_cases ..⟩
  | readingGateway existing =>
    rw [specStatement] at h
    split at h
    · cases h
      exact .inl ⟨rfl, trivial, .inl (isQuiet_afterGateway ..)⟩
    · cases h
  | readingGroup groupId ds =>
    cases h
    exact .inl ⟨rfl, trivial, .inl (isQuiet_afterGroup ..)⟩
  | writing write bumps =>
    rw [specStatement] at h
    split at h
    · cases h
      exact .inl ⟨rfl, trivial, .inl trivial⟩
    · rename_i tables htables
      cases h
      exact .inr (.inl ⟨_, _, _, rfl, htables, rfl, rfl⟩)
  | bumping gatewayIds =>
    obtain - | ⟨gatewayId, rest⟩ := gatewayIds
    · cases h
    · cases h
      exact .inr (.inr (.inl ⟨_, _, rfl, rfl, rfl⟩))
  | building version =>
    rw [specStatement] at h
    split at h
    · rename_i hcall
      cases h
      exact .inr (.inr (.inr (.inl ⟨_, _, _, hcall, rfl, rfl, rfl⟩)))
    · cases h
  | answered version spec =>
    rw [specStatement] at h
    split at h
    · rename_i hcall
      cases h
      exact .inr (.inr (.inr (.inr ⟨_, _, _, _, hcall, rfl, rfl, rfl⟩)))
    · cases h
  | finished result => cases h

/-! ## When the version tells that the spec is current -/

/-- A bump of the gateway is to come. -/
def PendingBump (s : SpecCalls ι Gw V) (gatewayId : Gw) : Prop :=
  ∃ i gatewayIds, s.phase i = .bumping gatewayIds ∧ gatewayId ∈ gatewayIds

/-- The specs that a gateway has got or will get, with their versions. -/
def SentSpec (calls : ι → SpecCall Gw V) (s : SpecCalls ι Gw V) (gatewayId : Gw) (version : ℕ)
    (spec : Spec V) : Prop :=
  s.store.held gatewayId = some (version, spec) ∨
    ∃ i named, calls i = .sync gatewayId named ∧ s.phase i = .answered version spec

structure Synced (calls : ι → SpecCall Gw V) (s : SpecCalls ι Gw V) : Prop where
  fresh : Fresh s.store.tables.buildSpec s.store.specVersion (PendingBump s) (SentSpec calls s)
  building_le : ∀ i gatewayId named version, calls i = .sync gatewayId named →
    s.phase i = .building version → version ≤ s.store.specVersion gatewayId

/-- The condition on a step: a write changes the specs of no other gateways than those that the call
bumps after it. -/
def BumpsWhatItChanges (s : SpecCalls ι Gw V) (a : ι × List Uuid) : Prop :=
  (s.phase a.1).BumpsChanged s.store.tables a.2

instance decidableBumpsWhatItChanges [DecidableEq V] [Fintype Gw] (s : SpecCalls ι Gw V)
    (a : ι × List Uuid) : Decidable (BumpsWhatItChanges s a) :=
  inferInstanceAs (Decidable ((s.phase a.1).BumpsChanged s.store.tables a.2))

omit [DecidableEq Gw] in
theorem bumpPhase_of_mem {gatewayId : Gw} {gatewayIds : List Gw} (h : gatewayId ∈ gatewayIds) :
    (bumpPhase gatewayIds : SpecPhase Gw V) = .bumping gatewayIds :=
  if_neg fun hempty ↦ List.ne_nil_of_mem h (List.isEmpty_iff.mp hempty)

omit [DecidableEq Gw] in
/-- After a write or a bump nothing of a sync is under way. -/
theorem bumpPhase_ne (gatewayIds : List Gw) :
    (∀ version spec, (bumpPhase gatewayIds : SpecPhase Gw V) ≠ .answered version spec) ∧
      ∀ version, (bumpPhase gatewayIds : SpecPhase Gw V) ≠ .building version := by
  unfold bumpPhase
  split
  · exact ⟨fun _ _ h ↦ (by cases h), fun _ h ↦ (by cases h)⟩
  · exact ⟨fun _ _ h ↦ (by cases h), fun _ h ↦ (by cases h)⟩

variable [DecidableEq ι]

omit [DecidableEq Gw] in
/-- A bump that is to come stays so, unless it is of the call that takes a step. -/
theorem PendingBump.update {s : SpecCalls ι Gw V} {i : ι} {store : SpecStore Gw V}
    {phase : SpecPhase Gw V} {gatewayId : Gw} (h : PendingBump s gatewayId)
    (hown : ∀ gatewayIds, s.phase i = .bumping gatewayIds → gatewayId ∈ gatewayIds →
      ∃ gatewayIds', phase = .bumping gatewayIds' ∧ gatewayId ∈ gatewayIds') :
    PendingBump ⟨store, Function.update s.phase i phase⟩ gatewayId := by
  obtain ⟨j, gatewayIds, hphase, hmem⟩ := h
  by_cases hj : j = i
  · subst hj
    obtain ⟨gatewayIds', rfl, hmem'⟩ := hown gatewayIds hphase hmem
    exact ⟨j, gatewayIds', Function.update_self .., hmem'⟩
  · exact ⟨j, gatewayIds, (Function.update_of_ne hj ..).trans hphase, hmem⟩

omit [DecidableEq Gw] in
/-- The specs that are sent after a step that neither builds nor receives one. -/
theorem SentSpec.of_update {calls : ι → SpecCall Gw V} {s : SpecCalls ι Gw V} {i : ι}
    {store : SpecStore Gw V} {phase : SpecPhase Gw V} {gatewayId : Gw} {version : ℕ}
    {spec : Spec V} (hheld : store.held = s.store.held)
    (hphase : ∀ version spec, phase ≠ .answered version spec)
    (h : SentSpec calls ⟨store, Function.update s.phase i phase⟩ gatewayId version spec) :
    SentSpec calls s gatewayId version spec := by
  rcases h with h | ⟨j, named, hcall, hj⟩
  · exact .inl (hheld ▸ h)
  · dsimp only at hj
    by_cases hji : j = i
    · subst hji
      rw [Function.update_self] at hj
      exact absurd hj (hphase _ _)
    · rw [Function.update_of_ne hji] at hj
      exact .inr ⟨j, named, hcall, hj⟩

/-- The versions that syncs have read are not above the present ones. -/
theorem building_le_update {calls : ι → SpecCall Gw V} {s : SpecCalls ι Gw V} {i : ι}
    {store : SpecStore Gw V} {phase : SpecPhase Gw V} (h : Synced calls s)
    (hversion : ∀ gatewayId, s.store.specVersion gatewayId ≤ store.specVersion gatewayId)
    (hphase : ∀ gatewayId named version, calls i = .sync gatewayId named →
      phase = .building version → version ≤ store.specVersion gatewayId)
    (j : ι) (gatewayId : Gw) (named : Option ℕ) (version : ℕ)
    (hcall : calls j = .sync gatewayId named)
    (hj : Function.update s.phase i phase j = .building version) :
    version ≤ store.specVersion gatewayId := by
  by_cases hji : j = i
  · subst hji
    rw [Function.update_self] at hj
    exact hphase _ _ _ hcall hj
  · rw [Function.update_of_ne hji] at hj
    exact (h.building_le _ _ _ _ hcall hj).trans (hversion gatewayId)

/-- **One step keeps the specs in step with their versions.** -/
theorem Synced.step {schemas : DriverSchemas V} {findGateway : Uuid → Option Gw}
    {calls : ι → SpecCall Gw V} {s s' : SpecCalls ι Gw V} {a : ι × List Uuid}
    (h : Synced calls s) (hok : BumpsWhatItChanges s a)
    (hstep : Calls.step (specStatement schemas findGateway calls) a s = some s') :
    Synced calls s' := by
  obtain ⟨store, phase, hstatement, rfl⟩ := Calls.step_eq_some_iff.mp hstep
  obtain ⟨i, ids⟩ := a
  dsimp only at hstatement ⊢
  rcases specStatement_cases hstatement with ⟨rfl, hquiet, hphase⟩ |
    ⟨write, bumps, tables, hwriting, htables, rfl, rfl⟩ | ⟨gatewayId, rest, hbumping, rfl, rfl⟩ |
    ⟨gatewayId, named, version, hcall, hbuilding, rfl, rfl⟩ |
    ⟨gatewayId, named, version, spec, hcall, hanswered, rfl, rfl⟩
  · refine ⟨h.fresh.mono (fun _ _ _ ↦ SentSpec.of_update rfl fun version spec heq ↦ ?_)
      (fun _ hp ↦ hp.update fun _ heq ↦ ?_), building_le_update h (fun _ ↦ le_rfl) ?_⟩
    · rcases hphase with hq | ⟨_, _, -, hbuilding⟩
      · rw [heq] at hq
        exact hq
      · rw [heq] at hbuilding
        cases hbuilding
    · rw [heq] at hquiet
      exact absurd hquiet id
    · intro gatewayId named version hcall heq
      rcases hphase with hq | ⟨gatewayId', _, hcall', hbuilding⟩
      · rw [heq] at hq
        exact absurd hq id
      · rw [hcall] at hcall'
        cases hcall'
        rw [heq] at hbuilding
        exact (SpecPhase.building.inj hbuilding).le
  · have hpending : ∀ gatewayId, PendingBump s gatewayId → PendingBump
        ⟨{ s.store with tables := tables }, Function.update s.phase i
          (bumpPhase (bumps.targets tables))⟩ gatewayId := by
      refine fun _ hp ↦ hp.update fun _ heq ↦ ?_
      rw [hwriting] at heq
      cases heq
    have hsent : Fresh s.store.tables.buildSpec s.store.specVersion (PendingBump s) (SentSpec calls
        ⟨{ s.store with tables := tables }, Function.update s.phase i
          (bumpPhase (bumps.targets tables))⟩) :=
      h.fresh.mono (fun _ _ _ ↦ SentSpec.of_update rfl (bumpPhase_ne _).1) (fun _ hp ↦ hp)
    refine ⟨hsent.write (fun gatewayId hne ↦ ?_) hpending, building_le_update h (fun _ ↦ le_rfl)
      fun _ _ _ _ heq ↦ absurd heq ((bumpPhase_ne _).2 _)⟩
    rw [BumpsWhatItChanges, hwriting] at hok
    have hmem := hok tables htables gatewayId hne
    exact ⟨i, _, (Function.update_self ..).trans (bumpPhase_of_mem hmem), hmem⟩
  · have hsent : Fresh s.store.tables.buildSpec s.store.specVersion (PendingBump s) (SentSpec calls
        ⟨s.store.bumpSpecVersion gatewayId, Function.update s.phase i (bumpPhase rest)⟩) :=
      h.fresh.mono (fun _ _ _ ↦ SentSpec.of_update rfl (bumpPhase_ne _).1) (fun _ hp ↦ hp)
    refine ⟨hsent.raise gatewayId fun gatewayId' hne hp ↦ hp.update fun gatewayIds heq hmem ↦ ?_,
      building_le_update h (fun gatewayId' ↦ ?_) fun _ _ _ _ heq ↦
        absurd heq ((bumpPhase_ne _).2 _)⟩
    · rw [hbumping] at heq
      cases heq
      have hrest := (List.mem_cons.mp hmem).resolve_left hne
      exact ⟨rest, bumpPhase_of_mem hrest, hrest⟩
    · change _ ≤ Function.update s.store.specVersion gatewayId _ gatewayId'
      by_cases hg : gatewayId' = gatewayId
      · subst hg
        rw [Function.update_self]
        exact Nat.le_succ _
      · rw [Function.update_of_ne hg]
  · have hpending : ∀ gatewayId', PendingBump s gatewayId' → PendingBump ⟨s.store, Function.update
        s.phase i (.answered version (s.store.tables.buildSpec gatewayId))⟩ gatewayId' := by
      refine fun _ hp ↦ hp.update fun _ heq ↦ ?_
      rw [hbuilding] at heq
      cases heq
    refine ⟨(h.fresh.mono (fun _ _ _ h ↦ h) hpending).copy
      (h.building_le _ _ _ _ hcall hbuilding) fun gatewayId' version' spec' hsent ↦ ?_,
      building_le_update h (fun _ ↦ le_rfl) fun _ _ _ _ heq ↦ (by cases heq)⟩
    rcases hsent with hheld | ⟨j, named', hcall', hj⟩
    · exact .inl (.inl hheld)
    · dsimp only at hj
      by_cases hji : j = i
      · subst hji
        rw [Function.update_self] at hj
        rw [hcall] at hcall'
        cases hcall'
        cases hj
        exact .inr ⟨rfl, rfl, rfl⟩
      · rw [Function.update_of_ne hji] at hj
        exact .inl (.inr ⟨j, named', hcall', hj⟩)
  · refine ⟨h.fresh.mono (fun gatewayId' version' spec' hsent ↦ ?_)
      (fun _ hp ↦ hp.update fun _ heq ↦ ?_), building_le_update h (fun _ ↦ le_rfl)
      fun _ _ _ _ heq ↦ (by cases heq)⟩
    · rcases hsent with hheld | ⟨j, named', hcall', hj⟩
      · dsimp only at hheld
        by_cases hg : gatewayId' = gatewayId
        · subst hg
          rw [Function.update_self] at hheld
          cases hheld
          exact .inr ⟨i, named, hcall, hanswered⟩
        · rw [Function.update_of_ne hg] at hheld
          exact .inl hheld
      · dsimp only at hj
        by_cases hji : j = i
        · subst hji
          rw [Function.update_self] at hj
          cases hj
        · rw [Function.update_of_ne hji] at hj
          exact .inr ⟨j, named', hcall', hj⟩
    · rw [hanswered] at heq
      cases heq

/-- The phases of a sync. -/
def SpecPhase.OfSync : SpecPhase Gw V → Prop
  | .start | .building _ | .answered _ _ | .finished _ => True
  | _ => False

theorem ofSync_of_run {schemas : DriverSchemas V} {findGateway : Uuid → Option Gw}
    {calls : ι → SpecCall Gw V} {tables : SpecTables Gw V} {specVersion : Gw → ℕ}
    {steps : List (ι × List Uuid)} {s : SpecCalls ι Gw V}
    (hrun : Run (Calls.step (specStatement schemas findGateway calls)) BumpsWhatItChanges
      (specStart tables specVersion) steps s) (i : ι) (gatewayId : Gw) (named : Option ℕ)
    (hcall : calls i = .sync gatewayId named) : (s.phase i).OfSync := by
  refine (Calls.invariant (I := fun _ ↦ True) (A := fun i _ phase ↦ ∀ gatewayId named,
    calls i = .sync gatewayId named → phase.OfSync) trivial (fun _ _ _ _ ↦ trivial) ?_ hrun).2 i
    gatewayId named hcall
  intro t i ids store phase _ _ hown hstatement
  refine ⟨trivial, fun gatewayId named hcall ↦ ?_, fun _ _ hj ↦ hj⟩
  have hphase := hown gatewayId named hcall
  rcases specStatement_cases hstatement with ⟨-, hquiet, -⟩ | ⟨_, _, _, hwriting, -⟩ |
    ⟨_, _, hbumping, -⟩ | ⟨_, _, _, -, -, -, rfl⟩ | ⟨_, _, _, _, -, -, rfl, -⟩
  · cases hold : t.phase i with
    | start =>
      rw [hold, specStatement, hcall, afterFirstRead] at hstatement
      split at hstatement <;> cases hstatement <;> trivial
    | finished result =>
      rw [hold] at hstatement
      cases hstatement
    | building | answered | bumping =>
      rw [hold] at hquiet
      exact absurd hquiet id
    | readingGateway | readingGroup | writing =>
      rw [hold] at hphase
      exact absurd hphase id
  · rw [hwriting] at hphase
    exact absurd hphase id
  · rw [hbumping] at hphase
    exact absurd hphase id
  · trivial
  · trivial

/-- Whether a call is between its first and its last step. -/
def SpecPhase.isOpen : SpecPhase Gw V → Bool
  | .start | .finished _ => false
  | _ => true

/-- No operation is between its first and its last step. -/
def NoOperationOpen (calls : ι → SpecCall Gw V) (s : SpecCalls ι Gw V) : Prop :=
  ∀ i, (∃ gatewayId named, calls i = .sync gatewayId named) ∨ (s.phase i).isOpen = false

/-- **A gateway with the current version has the current spec** whenever no operation is open, in
every interleaving of operations and syncs in which every write bumps the gateways whose specs it
changes. -/
theorem current_version_has_current_spec {schemas : DriverSchemas V}
    {findGateway : Uuid → Option Gw} {calls : ι → SpecCall Gw V} {tables : SpecTables Gw V}
    {specVersion : Gw → ℕ} {steps : List (ι × List Uuid)} {s : SpecCalls ι Gw V}
    (hrun : Run (Calls.step (specStatement schemas findGateway calls)) BumpsWhatItChanges
      (specStart tables specVersion) steps s) (hopen : NoOperationOpen calls s) (gatewayId : Gw)
    (spec : Spec V)
    (hheld : s.store.held gatewayId = some (s.store.specVersion gatewayId, spec)) :
    spec = s.store.tables.buildSpec gatewayId := by
  have hstart : Synced calls (specStart tables specVersion) := by
    refine ⟨fresh_of_no_copies fun _ _ _ hsent ↦ ?_, fun _ _ _ _ _ hphase ↦ (by cases hphase)⟩
    rcases hsent with hheld | ⟨_, _, -, hphase⟩
    · cases hheld
    · cases hphase
  have hsynced := hrun.invariant hstart fun _ _ _ h hok hstep ↦ h.step hok hstep
  refine hsynced.fresh.current gatewayId spec (.inl hheld) fun hpending ↦ ?_
  obtain ⟨i, gatewayIds, hphase, -⟩ := hpending
  rcases hopen i with ⟨gatewayId', named, hcall⟩ | hclosed
  · have hsync := ofSync_of_run hrun i gatewayId' named hcall
    rw [hphase] at hsync
    exact hsync
  · rw [hphase] at hclosed
    cases hclosed

end

/-! ## A point updated while its datasource is moved -/

/-- Schemas that accept everything. -/
def anySchemas : DriverSchemas Unit where
  validateConnection _ connection _ := some connection
  validatePointGroupConfig _ config _ := some config
  validatePointConfig _ config _ := some config.config

/-- An active datasource with one point, on the first of two gateways. -/
def onePoint : SpecTables Bool Unit where
  datasources := [⟨1, "Press", .DEVICE, .ACTIVE, "modbus-tcp", "1.0.0", [("host", ())], some false,
    none⟩]
  pointGroups := []
  points := [⟨5, "Counter", "40001", "uint16", 1, 0, [], 1, none⟩]

/-- The point gets another address, its datasource goes to the second gateway, and that one
syncs. -/
def moveAndUpdate : Fin 3 → SpecCall Bool Unit
  | 0 => .updatePoint 5 { address := some "40002" }
  | 1 => .assign 1 (some 2)
  | 2 => .sync true none

def secondGateway (id : Uuid) : Option Bool := if id = 2 then some true else none

/-- The datasource is moved, then the point is updated, and then the gateway syncs. -/
theorem current_version_has_current_spec_moved : ∃ s : SpecCalls (Fin 3) Bool Unit, ∃ spec,
    s.store.held true = some (3, spec) ∧ spec.map (fun ds ↦ ds.points.map SpecPoint.address) =
      [["40002"]] ∧ spec = s.store.tables.buildSpec true := by
  have hexecute : (execute (Calls.step (specStatement anySchemas secondGateway moveAndUpdate))
      BumpsWhatItChanges [(1, []), (1, []), (1, []), (1, []), (1, []), (0, []), (0, []), (0, []),
        (2, []), (2, []), (2, [])] (specStart onePoint fun _ ↦ 1)).any (fun s ↦
          decide ((∀ i, (s.phase i).isOpen = false) ∧ s.store.specVersion true = 3) &&
            (s.store.held true).any fun held ↦ decide (held.1 = 3 ∧
              held.2.map (fun ds ↦ ds.points.map SpecPoint.address) = [["40002"]])) = true := by
    decide +kernel
  obtain ⟨s, hs, hfacts⟩ := (Option.any_eq_true _ _).mp hexecute
  obtain ⟨hstate, hsome⟩ := (Bool.and_eq_true _ _).mp hfacts
  obtain ⟨hclosed, hversion⟩ := of_decide_eq_true hstate
  obtain ⟨⟨version, spec⟩, hheld, hspec⟩ := (Option.any_eq_true _ _).mp hsome
  obtain ⟨rfl, haddress⟩ := of_decide_eq_true hspec
  have hcurrent : s.store.held true = some (s.store.specVersion true, spec) := by
    rw [hversion]
    exact hheld
  exact ⟨s, spec, hheld, haddress, current_version_has_current_spec (run_of_execute hs)
    (fun i ↦ .inr (hclosed i)) true spec hcurrent⟩

/-- **A gateway keeps an old address.** The update of the point has read that its datasource is on
the first gateway; the datasource is moved, and the second gateway syncs. Then the point is written,
and the first gateway is bumped: the second one has the current version and the old address. -/
theorem not_current_version_has_current_spec : ∃ s : SpecCalls (Fin 3) Bool Unit, ∃ spec,
    Run (Calls.step (specStatement anySchemas secondGateway moveAndUpdate)) (fun _ _ ↦ True)
        (specStart onePoint fun _ ↦ 1)
        [(0, []), (1, []), (1, []), (1, []), (1, []), (1, []), (2, []), (2, []), (2, []),
          (0, []), (0, [])] s ∧
      NoOperationOpen moveAndUpdate s ∧
      s.store.held true = some (s.store.specVersion true, spec) ∧
      spec ≠ s.store.tables.buildSpec true := by
  have hexecute : (execute (Calls.step (specStatement anySchemas secondGateway moveAndUpdate))
      (fun _ _ ↦ True) [(0, []), (1, []), (1, []), (1, []), (1, []), (1, []), (2, []), (2, []),
        (2, []), (0, []), (0, [])] (specStart onePoint fun _ ↦ 1)).any (fun s ↦
          decide (∀ i, (s.phase i).isOpen = false) && (s.store.held true).any fun held ↦
            decide (held.1 = s.store.specVersion true ∧
              held.2 ≠ s.store.tables.buildSpec true)) = true := by
    decide +kernel
  obtain ⟨s, hs, hfacts⟩ := (Option.any_eq_true _ _).mp hexecute
  obtain ⟨hclosed, hsome⟩ := (Bool.and_eq_true _ _).mp hfacts
  obtain ⟨⟨version, spec⟩, hheld, hspec⟩ := (Option.any_eq_true _ _).mp hsome
  obtain ⟨rfl, hne⟩ := of_decide_eq_true hspec
  exact ⟨s, spec, run_of_execute hs, fun i ↦ .inr (of_decide_eq_true hclosed i), hheld, hne⟩

end RwServer
