import Mathlib
import RwServer.Foundation.VersionedConfig
import RwServer.Materials.Tables
import RwServer.Orders.Operations

/-!
# Updates of jobs, tools, materials and stations

The configuration of a job, a tool, a material or a station is kept in numbered versions, the rows
of `JobBlob` and its like. The four `update` functions are alike: they read the entity with its
current blob, check it, read the greatest version, and then create the next version and move the
pointer to it in one transaction. Each of them is a `VersionedConfig.Kind`: the columns of the blob,
the input, the merge of the two and the checks.

`update_values_kept` is what holds of all of them in every interleaving of calls. The blob that a
call merges its input into is read before the number, and nothing compares the two: where another
call commits in between, the number is free and the values of that call are written over with the
older ones.

A decimal is the one that its column stores, `attrs` is the text of its JSON.
-/

namespace RwServer

open Relational Transition

/-- A row of `Job`, `Tool` or `Material`, as far as an update checks it. -/
structure VersionedRow where
  deletedAt : Option Time
deriving DecidableEq, Repr

/-- The check of the row that the update of a job, a tool or a material reads. -/
def checkRow (notFound deleted : ServiceError) (current : Option VersionedRow) :
    Option ServiceError :=
  match current with
  | none => some notFound
  | some current => if current.deletedAt.isSome then some deleted else none

/-! ## Jobs -/

inductive StandardCycleUnit
  | seconds
deriving DecidableEq, Repr

/-- The columns of `JobBlob`. -/
structure JobConfig where
  name : String
  description : Option String
  standardCycle : Option ℚ
  standardCycleUnit : StandardCycleUnit
  productsPerCycle : ℤ
  attrs : String
deriving DecidableEq

structure UpdateJobInput where
  name : Option String := none
  description : Option String := none
  standardCycle : Option ℚ := none
  productsPerCycle : Option ℤ := none
  attrs : Option String := none
deriving DecidableEq

/-- What an update of a job can supply. -/
inductive JobField
  | name
  | description
  | standardCycle
  | productsPerCycle
  | attrs

def JobField.Value : JobField → Type
  | .name => String
  | .description => Option String
  | .standardCycle => Option ℚ
  | .productsPerCycle => ℤ
  | .attrs => String

def JobConfig.get : (f : JobField) → JobConfig → f.Value
  | .name, blob => blob.name
  | .description, blob => blob.description
  | .standardCycle, blob => blob.standardCycle
  | .productsPerCycle, blob => blob.productsPerCycle
  | .attrs, blob => blob.attrs

def UpdateJobInput.supplied : (f : JobField) → UpdateJobInput → Option f.Value
  | .name, input => input.name
  | .description, input => input.description.map some
  | .standardCycle, input => input.standardCycle.map some
  | .productsPerCycle, input => input.productsPerCycle
  | .attrs, input => input.attrs

/-- The data of the new blob; the unit is not among it and gets the default of its column. -/
def UpdateJobInput.merge (input : UpdateJobInput) (currentBlob : JobConfig) : JobConfig where
  name := input.name.getD currentBlob.name
  description := (input.description.map some).getD currentBlob.description
  standardCycle := (input.standardCycle.map some).getD currentBlob.standardCycle
  standardCycleUnit := .seconds
  productsPerCycle := input.productsPerCycle.getD currentBlob.productsPerCycle
  attrs := input.attrs.getD currentBlob.attrs

theorem JobConfig.get_merge (input : UpdateJobInput) (base : JobConfig) (f : JobField) :
    (input.merge base).get f = (input.supplied f).getD (base.get f) := by
  cases f <;> rfl

/-- `update` of the job service. -/
def jobKind (current : Option VersionedRow) : VersionedConfig.Kind where
  Blob := JobConfig
  Input := UpdateJobInput
  Refusal := ServiceError
  Field := JobField
  Value := JobField.Value
  get := JobConfig.get
  supplied := UpdateJobInput.supplied
  merge := UpdateJobInput.merge
  get_merge := JobConfig.get_merge
  gate _ := checkRow ⟨"Job not found", "JOB_NOT_FOUND"⟩ ⟨"Job has been deleted", "JOB_DELETED"⟩
    current
  withoutVersion := .error ⟨"Job has no current blob", "NO_CURRENT_BLOB"⟩
  makesVersion _ := true
  supplied_of_not_makesVersion _ _ h := nomatch h

/-! ## Tools -/

/-- The columns of `ToolBlob`. -/
structure ToolConfig where
  name : String
  description : Option String
  pmLimit : Option ℤ
  pmWarn : Option ℤ
  cavityCount : Option ℤ
  attrs : String
deriving DecidableEq

structure UpdateToolInput where
  name : Option String := none
  description : Option String := none
  cavityCount : Option (Option ℤ) := none
  attrs : Option String := none

/-- What an update of a tool can supply. -/
inductive ToolField
  | name
  | description
  | cavityCount
  | attrs

def ToolField.Value : ToolField → Type
  | .name => String
  | .description => Option String
  | .cavityCount => Option ℤ
  | .attrs => String

def ToolConfig.get : (f : ToolField) → ToolConfig → f.Value
  | .name, blob => blob.name
  | .description, blob => blob.description
  | .cavityCount, blob => blob.cavityCount
  | .attrs, blob => blob.attrs

def UpdateToolInput.supplied : (f : ToolField) → UpdateToolInput → Option f.Value
  | .name, input => input.name
  | .description, input => input.description.map some
  | .cavityCount, input => input.cavityCount
  | .attrs, input => input.attrs

/-- The data of the new blob; the limits of the maintenance are not among it. -/
def UpdateToolInput.merge (input : UpdateToolInput) (currentBlob : ToolConfig) : ToolConfig where
  name := input.name.getD currentBlob.name
  description := (input.description.map some).getD currentBlob.description
  pmLimit := none
  pmWarn := none
  cavityCount := input.cavityCount.getD currentBlob.cavityCount
  attrs := input.attrs.getD currentBlob.attrs

theorem ToolConfig.get_merge (input : UpdateToolInput) (base : ToolConfig) (f : ToolField) :
    (input.merge base).get f = (input.supplied f).getD (base.get f) := by
  cases f <;> rfl

/-- `update` of the tool service. -/
def toolKind (current : Option VersionedRow) : VersionedConfig.Kind where
  Blob := ToolConfig
  Input := UpdateToolInput
  Refusal := ServiceError
  Field := ToolField
  Value := ToolField.Value
  get := ToolConfig.get
  supplied := UpdateToolInput.supplied
  merge := UpdateToolInput.merge
  get_merge := ToolConfig.get_merge
  gate _ := checkRow ⟨"Tool not found", "TOOL_NOT_FOUND"⟩
    ⟨"Tool has been deleted", "TOOL_DELETED"⟩ current
  withoutVersion := .error ⟨"Tool has no current blob", "NO_CURRENT_BLOB"⟩
  makesVersion _ := true
  supplied_of_not_makesVersion _ _ h := nomatch h

/-! ## Materials -/

/-- The columns of `MaterialBlob`. -/
structure MaterialConfig where
  materialNumber : String
  name : Option String
  shortCode : Option String
  classification : Option String
  description : Option String
  externalNumber : Option String
  weightUnits : Option WeightUnit
  unitCost : Option ℚ
  attrs : String
deriving DecidableEq

structure UpdateMaterialInput where
  materialNumber : Option String := none
  name : Option String := none
  shortCode : Option String := none
  description : Option String := none
  externalNumber : Option String := none
  weightUnits : Option (Option WeightUnit) := none
  /-- The decimal that the number or the text denotes. -/
  unitCost : Option (Option ℚ) := none
  attrs : Option String := none

/-- What an update of a material can supply. -/
inductive MaterialField
  | materialNumber
  | name
  | shortCode
  | description
  | externalNumber
  | weightUnits
  | unitCost
  | attrs

def MaterialField.Value : MaterialField → Type
  | .materialNumber => String
  | .name => Option String
  | .shortCode => Option String
  | .description => Option String
  | .externalNumber => Option String
  | .weightUnits => Option WeightUnit
  | .unitCost => Option ℚ
  | .attrs => String

def MaterialConfig.get : (f : MaterialField) → MaterialConfig → f.Value
  | .materialNumber, blob => blob.materialNumber
  | .name, blob => blob.name
  | .shortCode, blob => blob.shortCode
  | .description, blob => blob.description
  | .externalNumber, blob => blob.externalNumber
  | .weightUnits, blob => blob.weightUnits
  | .unitCost, blob => blob.unitCost
  | .attrs, blob => blob.attrs

def UpdateMaterialInput.supplied : (f : MaterialField) → UpdateMaterialInput → Option f.Value
  | .materialNumber, input => input.materialNumber
  | .name, input => input.name.map some
  | .shortCode, input => input.shortCode.map some
  | .description, input => input.description.map some
  | .externalNumber, input => input.externalNumber.map some
  | .weightUnits, input => input.weightUnits
  | .unitCost, input => input.unitCost
  | .attrs, input => input.attrs

/-- The data of the new blob; the classification is not among it. -/
def UpdateMaterialInput.merge (input : UpdateMaterialInput) (currentBlob : MaterialConfig) :
    MaterialConfig where
  materialNumber := input.materialNumber.getD currentBlob.materialNumber
  name := (input.name.map some).getD currentBlob.name
  shortCode := (input.shortCode.map some).getD currentBlob.shortCode
  classification := none
  description := (input.description.map some).getD currentBlob.description
  externalNumber := (input.externalNumber.map some).getD currentBlob.externalNumber
  weightUnits := input.weightUnits.getD currentBlob.weightUnits
  unitCost := input.unitCost.getD currentBlob.unitCost
  attrs := input.attrs.getD currentBlob.attrs

theorem MaterialConfig.get_merge (input : UpdateMaterialInput) (base : MaterialConfig)
    (f : MaterialField) : (input.merge base).get f = (input.supplied f).getD (base.get f) := by
  cases f <;> rfl

/-- `update` of the material service. -/
def materialKind (current : Option VersionedRow) : VersionedConfig.Kind where
  Blob := MaterialConfig
  Input := UpdateMaterialInput
  Refusal := ServiceError
  Field := MaterialField
  Value := MaterialField.Value
  get := MaterialConfig.get
  supplied := UpdateMaterialInput.supplied
  merge := UpdateMaterialInput.merge
  get_merge := MaterialConfig.get_merge
  gate _ := checkRow ⟨"Material not found", "MATERIAL_NOT_FOUND"⟩
    ⟨"Material has been deleted", "MATERIAL_DELETED"⟩ current
  withoutVersion := .error ⟨"Material has no current blob", "NO_CURRENT_BLOB"⟩
  makesVersion _ := true
  supplied_of_not_makesVersion _ _ h := nomatch h

/-! ## Stations -/

inductive DowntimeDetectUnit
  | seconds
deriving DecidableEq, Repr

inductive SlowDetectUnit
  | percentage
deriving DecidableEq, Repr

/-- The columns of `StationBlob`. -/
structure StationConfig where
  standardCycle : Option ℚ
  downtimeDetect : Option ℚ
  downtimeDetectUnit : DowntimeDetectUnit
  slowDetect : Option ℚ
  slowDetectUnit : SlowDetectUnit
  processTypeId : Option Uuid
  inLineCalculations : Bool
  inStationCalculations : Bool
deriving DecidableEq

/-- The input without the name, the description and the `attrs`, which are columns of the station
itself and have no versions. -/
structure UpdateStationInput where
  standardCycle : Option (Option ℚ) := none
  downtimeDetect : Option (Option ℚ) := none
  downtimeDetectUnit : Option DowntimeDetectUnit := none
  slowDetect : Option (Option ℚ) := none
  slowDetectUnit : Option SlowDetectUnit := none
  processTypeId : Option (Option Uuid) := none
  inLineCalculations : Option Bool := none
  inStationCalculations : Option Bool := none
  /-- The third argument of the call. -/
  workspaceId : Option Uuid := none

/-- `BLOB_FIELDS`. -/
inductive StationField
  | standardCycle
  | downtimeDetect
  | downtimeDetectUnit
  | slowDetect
  | slowDetectUnit
  | processTypeId
  | inLineCalculations
  | inStationCalculations

def StationField.Value : StationField → Type
  | .standardCycle => Option ℚ
  | .downtimeDetect => Option ℚ
  | .downtimeDetectUnit => DowntimeDetectUnit
  | .slowDetect => Option ℚ
  | .slowDetectUnit => SlowDetectUnit
  | .processTypeId => Option Uuid
  | .inLineCalculations => Bool
  | .inStationCalculations => Bool

def StationConfig.get : (f : StationField) → StationConfig → f.Value
  | .standardCycle, blob => blob.standardCycle
  | .downtimeDetect, blob => blob.downtimeDetect
  | .downtimeDetectUnit, blob => blob.downtimeDetectUnit
  | .slowDetect, blob => blob.slowDetect
  | .slowDetectUnit, blob => blob.slowDetectUnit
  | .processTypeId, blob => blob.processTypeId
  | .inLineCalculations, blob => blob.inLineCalculations
  | .inStationCalculations, blob => blob.inStationCalculations

def UpdateStationInput.supplied : (f : StationField) → UpdateStationInput → Option f.Value
  | .standardCycle, input => input.standardCycle
  | .downtimeDetect, input => input.downtimeDetect
  | .downtimeDetectUnit, input => input.downtimeDetectUnit
  | .slowDetect, input => input.slowDetect
  | .slowDetectUnit, input => input.slowDetectUnit
  | .processTypeId, input => input.processTypeId
  | .inLineCalculations, input => input.inLineCalculations
  | .inStationCalculations, input => input.inStationCalculations

/-- Whether any field of the blob is given. -/
def UpdateStationInput.hasBlobFields (input : UpdateStationInput) : Bool :=
  input.standardCycle.isSome || input.downtimeDetect.isSome || input.downtimeDetectUnit.isSome ||
    input.slowDetect.isSome || input.slowDetectUnit.isSome || input.processTypeId.isSome ||
    input.inLineCalculations.isSome || input.inStationCalculations.isSome

theorem UpdateStationInput.supplied_eq_none {input : UpdateStationInput}
    (h : input.hasBlobFields = false) (f : StationField) : input.supplied f = none := by
  simp only [hasBlobFields, Bool.or_eq_false_iff, Option.isSome_eq_false_iff,
    Option.isNone_iff_eq_none] at h
  obtain ⟨⟨⟨⟨⟨⟨⟨hcycle, hdown⟩, hdownUnit⟩, hslow⟩, hslowUnit⟩, htype⟩, hline⟩, hstation⟩ := h
  cases f
  exacts [hcycle, hdown, hdownUnit, hslow, hslowUnit, htype, hline, hstation]

def UpdateStationInput.merge (input : UpdateStationInput) (oldBlob : StationConfig) :
    StationConfig where
  standardCycle := input.standardCycle.getD oldBlob.standardCycle
  downtimeDetect := input.downtimeDetect.getD oldBlob.downtimeDetect
  downtimeDetectUnit := input.downtimeDetectUnit.getD oldBlob.downtimeDetectUnit
  slowDetect := input.slowDetect.getD oldBlob.slowDetect
  slowDetectUnit := input.slowDetectUnit.getD oldBlob.slowDetectUnit
  processTypeId := input.processTypeId.getD oldBlob.processTypeId
  inLineCalculations := input.inLineCalculations.getD oldBlob.inLineCalculations
  inStationCalculations := input.inStationCalculations.getD oldBlob.inStationCalculations

theorem StationConfig.get_merge (input : UpdateStationInput) (base : StationConfig)
    (f : StationField) : (input.merge base).get f = (input.supplied f).getD (base.get f) := by
  cases f <;> rfl

/-- The values that stand in for those of a missing blob. -/
def StationConfig.defaults : StationConfig where
  standardCycle := none
  downtimeDetect := none
  downtimeDetectUnit := .seconds
  slowDetect := none
  slowDetectUnit := .percentage
  processTypeId := none
  inLineCalculations := false
  inStationCalculations := false

/-- A row of `Station` with the workspace of its site. -/
structure SiteStation where
  siteId : Uuid
  workspaceId : Uuid
deriving DecidableEq, Repr

structure ProcessType where
  id : Uuid
  siteId : Uuid
  deletedAt : Option Time
deriving DecidableEq, Repr

/-- The checks of the update of a station. -/
def checkStation (current : Option SiteStation) (processTypes : List ProcessType)
    (input : UpdateStationInput) : Option ServiceError :=
  match current with
  | none => some ⟨"Station not found", "STATION_NOT_FOUND"⟩
  | some current =>
    if input.workspaceId.any fun w ↦ decide (current.workspaceId ≠ w) then
      some ⟨"Unauthorized", "WORKSPACE_MISMATCH"⟩
    else match input.processTypeId with
    | some (some processTypeId) =>
      match processTypes.find? fun pt ↦ pt.id == processTypeId with
      | none => some ⟨"Process type not found", "PROCESS_TYPE_NOT_FOUND"⟩
      | some pt =>
        if pt.deletedAt.isSome then some ⟨"Process type not found", "PROCESS_TYPE_NOT_FOUND"⟩
        else if pt.siteId ≠ current.siteId then
          some ⟨"Process type must belong to the same site", "SITE_MISMATCH"⟩
        else none
    | _ => none

/-- `update` of the station service. -/
def stationKind (current : Option SiteStation) (processTypes : List ProcessType) :
    VersionedConfig.Kind where
  Blob := StationConfig
  Input := UpdateStationInput
  Refusal := ServiceError
  Field := StationField
  Value := StationField.Value
  get := StationConfig.get
  supplied := UpdateStationInput.supplied
  merge := UpdateStationInput.merge
  get_merge := StationConfig.get_merge
  gate := checkStation current processTypes
  withoutVersion := .ok .defaults
  makesVersion := UpdateStationInput.hasBlobFields
  supplied_of_not_makesVersion _ f h := UpdateStationInput.supplied_eq_none h f

/-! ## The calls of an entity -/

/-- What is updated, with the rows that the calls check. -/
inductive VersionedEntity
  | job (current : Option VersionedRow)
  | tool (current : Option VersionedRow)
  | material (current : Option VersionedRow)
  | station (current : Option SiteStation) (processTypes : List ProcessType)

def VersionedEntity.kind : VersionedEntity → VersionedConfig.Kind
  | .job current => jobKind current
  | .tool current => toolKind current
  | .material current => materialKind current
  | .station current processTypes => stationKind current processTypes

/-- **Updates that are not lost.** In every interleaving of updates in which the blob that a commit
has merged its input into agrees with the current one in the fields that are not supplied, each
field has at any time the value that the last successful call with such a field has supplied, and
the current blob is the one with the greatest version. -/
theorem update_values_kept {ι : Type*} [DecidableEq ι] (entity : VersionedEntity)
    (calls : ι → entity.kind.Input) {s₀ s : VersionedConfig.State entity.kind ι} {steps : List ι}
    (h₀ : VersionedConfig.Start s₀)
    (hrun : Run (VersionedConfig.step calls) (VersionedConfig.CommitSafe calls) s₀ steps s) :
    VersionedConfig.LatestIsCurrent s ∧ VersionedConfig.ValuesKept s₀ s :=
  ⟨(VersionedConfig.inv_of_run h₀ hrun).current, (VersionedConfig.kept_of_run h₀ hrun).values⟩

/-! ## A job with two calls -/

def storedJob : VersionedEntity := .job (some ⟨none⟩)

def moldA : JobConfig := ⟨"Mold A", none, some 30, .seconds, 1, "\x7b\x7d"⟩

/-- The first version of the job is the current one, and no call has begun. -/
def storedJobState : VersionedConfig.State storedJob.kind Bool where
  versions := ⟨[⟨1, moldA⟩], by simp, by simp⟩
  current := some 1
  phases _ := .start
  committed := []

theorem start_storedJobState : VersionedConfig.Start storedJobState where
  current := rfl
  phases _ := rfl
  committed := rfl

/-- The columns of the current blob. -/
def jobColumns (s : VersionedConfig.State storedJob.kind Bool) : Option JobConfig := s.currentBlob

/-- The inputs of the successful calls. -/
def jobInputs (s : VersionedConfig.State storedJob.kind Bool) : List UpdateJobInput := s.committed

/-- One call changes the number of products, the other one the name. -/
def partialUpdates : Bool → UpdateJobInput
  | true => { productsPerCycle := some 4 }
  | false => { name := some "Mold B" }

/-- One call after the other: both changes are there. -/
theorem update_values_kept_serial : ∃ s : VersionedConfig.State storedJob.kind Bool,
    jobColumns s = some ⟨"Mold B", none, some 30, .seconds, 4, "\x7b\x7d"⟩ ∧
      VersionedConfig.LatestIsCurrent s ∧ VersionedConfig.ValuesKept storedJobState s := by
  have hrun : (execute (VersionedConfig.step (K := storedJob.kind) partialUpdates)
      VersionedConfig.ReadsUnchanged [false, false, false, true, true, true] storedJobState).any
      (fun s ↦ decide (jobColumns s
        = some ⟨"Mold B", none, some 30, .seconds, 4, "\x7b\x7d"⟩)) = true := by
    decide +kernel
  obtain ⟨s, hs, hblob⟩ := (Option.any_eq_true _ _).mp hrun
  exact ⟨s, of_decide_eq_true hblob, update_values_kept storedJob partialUpdates
    start_storedJobState (VersionedConfig.run_commitSafe_of_unchanged start_storedJobState
      (run_of_execute hs))⟩

/-- **A lost name.** The call that changes the number of products reads the current blob, the other
one changes the name, and then the first reads the greatest version: the version it creates is free,
and has the name that the blob had before. -/
theorem not_update_values_kept : ¬ ∀ s : VersionedConfig.State storedJob.kind Bool,
    Run (VersionedConfig.step (K := storedJob.kind) partialUpdates) (fun _ _ ↦ True)
      storedJobState [true, false, false, false, true, true] s →
    VersionedConfig.LatestIsCurrent s ∧ VersionedConfig.ValuesKept storedJobState s := by
  intro hall
  have hrun : (execute (VersionedConfig.step (K := storedJob.kind) partialUpdates)
      (fun _ _ ↦ True) [true, false, false, false, true, true] storedJobState).any
      (fun s ↦ decide (jobColumns s
          = some ⟨"Mold A", none, some 30, .seconds, 4, "\x7b\x7d"⟩ ∧
        jobInputs s = [partialUpdates false, partialUpdates true])) = true := by
    decide +kernel
  obtain ⟨s, hs, hfacts⟩ := (Option.any_eq_true _ _).mp hrun
  obtain ⟨hblob, hcommitted⟩ := of_decide_eq_true hfacts
  have hlast : VersionedConfig.lastSupplied (K := storedJob.kind) JobField.name s.committed
      = some "Mold B" := by
    rw [← jobInputs, hcommitted]
    rfl
  have hkept := (hall s (run_of_execute hs)).2 JobField.name moldA _ rfl
    (by
      rw [VersionedConfig.State.effective, VersionedConfig.State.base, ← jobColumns, hblob]
      rfl)
  rw [hlast] at hkept
  exact absurd (show "Mold A" = "Mold B" from hkept) (by decide)

end RwServer
