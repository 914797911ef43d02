import Mathlib
import RwServer.Foundation.Calls
import RwServer.Foundation.Table
import RwServer.Orders.Operations

/-!
# Employees and what identifies them

An operator is recognised by an employee number or a badge, which are columns of the current version
of an employee. No index of the database keeps them apart: `create` and `update`, and a logon with a
badge that is not known, look whether another employee of the workspace has them, and store them
later.

`identities_unique` says when two employees do not get the same one: when none is stored while
another call, which has looked before, is about to store it, too.
-/

namespace RwServer

open Relational Transition

/-! ## The tables -/

inductive EmployeeStatus
  | ACTIVE
  | INACTIVE
deriving DecidableEq, Repr

/-- A row of `EmployeeVersion`. -/
structure EmployeeVersion where
  id : Uuid
  version : ℕ
  firstName : String
  lastName : String
  employeeNumber : Option String
  pinHash : Option String
  badgeNumber : Option String
  employeeId : Uuid
deriving DecidableEq, Repr

/-- A row of `Employee`, joined with its current version. -/
structure Employee where
  id : Uuid
  workspaceId : Uuid
  status : EmployeeStatus
  version : Option EmployeeVersion
deriving DecidableEq, Repr

structure EmployeeSiteAccess where
  employeeId : Uuid
  siteId : Uuid
  roleId : Uuid
  status : EmployeeStatus
deriving DecidableEq, Repr

structure EmployeeRole where
  id : Uuid
  name : String
  siteId : Uuid
deriving DecidableEq, Repr

def employeeSchema : Schema Employee Uuid where
  key := Employee.id
  clash _ _ := false
  clash_symm _ _ := rfl

/-- `@@unique([employeeId, version])`. -/
def employeeVersionSchema : Schema EmployeeVersion Uuid where
  key := EmployeeVersion.id
  clash a b := decide (a.employeeId = b.employeeId ∧ a.version = b.version)
  clash_symm a b := by simp [eq_comm]

/-- `@@unique([employeeId, siteId])`. -/
def siteAccessSchema : Schema EmployeeSiteAccess (Uuid × Uuid) where
  key a := (a.employeeId, a.siteId)
  clash _ _ := false
  clash_symm _ _ := rfl

structure EmployeeStore where
  employees : Table employeeSchema
  versions : Table employeeVersionSchema
  siteAccess : Table siteAccessSchema
  /-- The workspace of a site. -/
  sites : Uuid → Option Uuid
  roles : List EmployeeRole

/-- A string that is not empty. -/
def nonEmpty (s : Option String) : Option String := s.filter (· ≠ "")

/-- What an employee is recognised by. -/
structure OperatorIdentity where
  employeeNumber : Option String
  badgeNumber : Option String
deriving DecidableEq, Repr

namespace OperatorIdentity

/-- The number or the badge is the same, and is not empty. -/
def Meets (a b : OperatorIdentity) : Prop :=
  (∃ n ∈ nonEmpty a.employeeNumber, b.employeeNumber = some n) ∨
    ∃ n ∈ nonEmpty a.badgeNumber, b.badgeNumber = some n

instance decidableMeets (a b : OperatorIdentity) : Decidable (a.Meets b) :=
  inferInstanceAs (Decidable ((∃ n ∈ nonEmpty a.employeeNumber, _) ∨ ∃ n ∈ nonEmpty _, _))

end OperatorIdentity

def EmployeeVersion.identity (v : EmployeeVersion) : OperatorIdentity :=
  ⟨v.employeeNumber, v.badgeNumber⟩

/-! ## The requests -/

structure CreateEmployeeInput where
  workspaceId : Option Uuid
  siteId : Option Uuid
  employeeNumber : Option String
  firstName : String
  lastName : String
  roleId : Option Uuid
  pin : Option String
  badgeNumber : Option String
deriving DecidableEq, Repr

/-- The outer `none` stands for `undefined`. -/
structure UpdateEmployeeInput where
  employeeNumber : Option (Option String)
  firstName : Option String
  lastName : Option String
  status : Option EmployeeStatus
  roleId : Option Uuid
  pin : Option (Option String)
  badgeNumber : Option (Option String)
deriving DecidableEq, Repr

/-- The methods of a logon that may create an employee. -/
inductive AuthMethod
  | EMPLOYEE_ID
  | BADGE
deriving DecidableEq, Repr

structure AuthCredentials where
  employeeNumber : Option String
  badgeNumber : Option String
  employeeId : Option Uuid
deriving DecidableEq, Repr

/-- What is drawn for new rows, the hash of the pin, and the time. -/
structure EmployeeDraw where
  now : Time
  employeeId : Uuid
  versionId : Uuid
  pinHash : String
deriving DecidableEq, Repr

/-- The row of the first version. -/
def CreateEmployeeInput.firstVersion (input : CreateEmployeeInput) (draw : EmployeeDraw) :
    EmployeeVersion where
  id := draw.versionId
  version := 1
  firstName := input.firstName
  lastName := input.lastName
  employeeNumber := nonEmpty input.employeeNumber
  pinHash := (nonEmpty input.pin).map fun _ ↦ draw.pinHash
  badgeNumber := nonEmpty input.badgeNumber
  employeeId := draw.employeeId

namespace UpdateEmployeeInput

variable (input : UpdateEmployeeInput) (current : EmployeeVersion)

/-- `nextEmployeeNumber` and `nextBadgeNumber`. -/
def nextIdentity : OperatorIdentity where
  employeeNumber := match input.employeeNumber with
    | some n => nonEmpty n
    | none => current.employeeNumber
  badgeNumber := match input.badgeNumber with
    | some n => nonEmpty n
    | none => current.badgeNumber

def needsNewVersion : Bool :=
  input.firstName.isSome || input.lastName.isSome || input.employeeNumber.isSome ||
    input.pin.isSome || input.badgeNumber.isSome

/-- The row of the new version. -/
def newVersion (draw : EmployeeDraw) (employeeId : Uuid) : EmployeeVersion where
  id := draw.versionId
  version := current.version + 1
  firstName := input.firstName.getD current.firstName
  lastName := input.lastName.getD current.lastName
  employeeNumber := (input.nextIdentity current).employeeNumber
  pinHash := match input.pin with
    | none => current.pinHash
    | some pin => (nonEmpty pin).map fun _ ↦ draw.pinHash
  badgeNumber := (input.nextIdentity current).badgeNumber
  employeeId := employeeId

end UpdateEmployeeInput

/-! ## What the requests read and write -/

namespace EmployeeStore

variable (db : EmployeeStore)

/-- `resolveWorkspaceId`. -/
def resolveWorkspaceId (workspaceId siteId : Option Uuid) : Except String Uuid :=
  match workspaceId, siteId with
  | some workspaceId, _ => .ok workspaceId
  | none, none => .error "workspaceId or siteId is required"
  | none, some siteId =>
    match db.sites siteId with
    | none => .error "Site not found"
    | some workspaceId => .ok workspaceId

/-- `resolveSiteRoleId`. -/
def resolveSiteRoleId (siteId : Uuid) (roleId : Option Uuid) : Except String Uuid :=
  match roleId with
  | some roleId =>
    match db.roles.find? (·.id == roleId) with
    | none => .error "Employee role not found"
    | some role =>
      if role.siteId ≠ siteId then .error "Employee role does not belong to this site"
      else .ok role.id
  | none =>
    match db.roles.find? fun r ↦ r.siteId == siteId && r.name == "Operator" with
    | none => .error "Default 'Operator' role not found for site"
    | some role => .ok role.id

/-- The current versions in a workspace with the number or the badge, but for one employee's. -/
def holders (workspaceId : Uuid) (employeeId : Option Uuid) (identity : OperatorIdentity) :
    List EmployeeVersion :=
  (db.employees.rows.filter fun e ↦
    e.workspaceId == workspaceId && employeeId.all (· != e.id)).filterMap fun e ↦
      e.version.filter fun v ↦ decide (identity.Meets v.identity)

def ensureIdentityAvailable (workspaceId : Uuid) (employeeId : Option Uuid)
    (identity : OperatorIdentity) : Except String Unit :=
  match (db.holders workspaceId employeeId identity).head? with
  | none => .ok ()
  | some existing =>
    if ∃ n ∈ nonEmpty identity.employeeNumber, existing.employeeNumber = some n then
      .error "Employee number already exists in this workspace"
    else if ∃ n ∈ nonEmpty identity.badgeNumber, existing.badgeNumber = some n then
      .error "Badge number already exists in this workspace"
    else .ok ()

/-- The inserts of `createWithClient`. -/
def insertEmployee (input : CreateEmployeeInput) (workspaceId : Uuid) (roleId : Option Uuid)
    (draw : EmployeeDraw) : Option EmployeeStore :=
  let version := input.firstVersion draw
  (db.employees.insert ⟨draw.employeeId, workspaceId, .ACTIVE, some version⟩).bind fun employees ↦
    (db.versions.insert version).bind fun versions ↦
      match input.siteId, roleId with
      | some siteId, some roleId =>
        (db.siteAccess.insert ⟨draw.employeeId, siteId, roleId, .ACTIVE⟩).map fun siteAccess ↦
          { db with employees, versions, siteAccess }
      | _, _ => some { db with employees, versions }

/-- The upsert of the access to a site. -/
def upsertSiteAccess (employeeId siteId roleId : Uuid) : Table siteAccessSchema :=
  if (db.siteAccess.find (employeeId, siteId)).isSome then
    db.siteAccess.modify (fun a ↦ decide (a.employeeId = employeeId ∧ a.siteId = siteId))
      (fun a ↦ { a with roleId, status := .ACTIVE }) ⟨fun _ ↦ rfl, fun _ _ h ↦ h⟩
  else db.siteAccess.insertMissing ⟨employeeId, siteId, roleId, .ACTIVE⟩

/-- The columns of `Employee` that `update` sets. -/
def setEmployee (id : Uuid) (status : Option EmployeeStatus) (version : Option EmployeeVersion) :
    Table employeeSchema :=
  db.employees.modify (fun e ↦ decide (e.id = id))
    (fun e ↦ { e with status := status.getD e.status, version := version.or e.version })
    ⟨fun _ ↦ rfl, fun _ _ h ↦ h⟩

/-- The transaction of `update`; an employee that is gone makes it fail. -/
def updateEmployee (id : Uuid) (input : UpdateEmployeeInput) (current : EmployeeVersion)
    (roleUpdate : Option EmployeeRole) (draw : EmployeeDraw) : Option EmployeeStore :=
  match db.employees.find id with
  | none => none
  | some _ =>
    let siteAccess := match roleUpdate with
      | none => db.siteAccess
      | some role => db.upsertSiteAccess id role.siteId role.id
    if input.needsNewVersion then
      let version := input.newVersion current draw id
      (db.versions.insert version).map fun versions ↦
        { db with
          employees := db.setEmployee id input.status (some version)
          versions
          siteAccess }
    else some { db with employees := db.setEmployee id input.status none, siteAccess }

/-- The active employees with access to a site. -/
def activeAt (siteId : Uuid) : List Employee :=
  db.employees.rows.filter fun e ↦ e.status == .ACTIVE && db.siteAccess.rows.any fun a ↦
    a.employeeId == e.id && a.siteId == siteId && a.status == .ACTIVE

/-- The employees that `getByEmployeeNumber` takes the first of. -/
def byEmployeeNumber (siteId : Uuid) (employeeNumber : String) : List Employee :=
  (db.activeAt siteId).filter fun e ↦ e.version.any fun v ↦ v.employeeNumber == some employeeNumber

/-- The employees that `getByBadgeNumber` takes the first of. -/
def byBadgeNumber (siteId : Uuid) (badgeNumber : String) : List Employee :=
  (db.activeAt siteId).filter fun e ↦ e.version.any fun v ↦ v.badgeNumber == some badgeNumber

def resolveEmployee (siteId : Uuid) (credentials : AuthCredentials) : Option Employee :=
  match credentials.employeeId, nonEmpty credentials.badgeNumber,
    nonEmpty credentials.employeeNumber with
  | some id, _, _ => (db.activeAt siteId).find? (·.id == id)
  | none, some badgeNumber, _ => (db.byBadgeNumber siteId badgeNumber).head?
  | none, none, some employeeNumber => (db.byEmployeeNumber siteId employeeNumber).head?
  | none, none, none => none

/-- `authenticate`: the employee, or none and the first name of one that is to be created. -/
def authenticate (siteId : Uuid) (method : AuthMethod) (credentials : AuthCredentials)
    (allowAutoCreate : Bool) : Except String (Option Uuid × String) :=
  let recognise (found : Option Employee) (newName : Option String) (unknown : String) :
      Except String (Option Uuid × String) :=
    match found, newName with
    | some e, _ =>
      if e.status ≠ .ACTIVE then .error "Employee account is inactive"
      else .ok (some e.id, (e.version.map EmployeeVersion.firstName).getD "")
    | none, some name => if allowAutoCreate then .ok (none, name) else .error unknown
    | none, none => .error unknown
  match method with
  | .EMPLOYEE_ID =>
    if credentials.employeeId.isNone && (nonEmpty credentials.employeeNumber).isNone then
      .error "Employee identifier is required"
    else recognise (db.resolveEmployee siteId credentials) (nonEmpty credentials.employeeNumber)
      "Employee not found"
  | .BADGE =>
    match nonEmpty credentials.badgeNumber with
    | none => .error "Badge number is required"
    | some badgeNumber => recognise (db.byBadgeNumber siteId badgeNumber).head?
        (some badgeNumber) "Badge not recognized"

end EmployeeStore

/-- What `operatorLogon` creates an employee from. -/
def autoCreateInput (siteId : Uuid) (credentials : AuthCredentials) (firstName : String)
    (now : Time) : CreateEmployeeInput where
  workspaceId := none
  siteId := some siteId
  employeeNumber := some (((nonEmpty credentials.employeeNumber).or
    (nonEmpty credentials.badgeNumber)).getD ("AUTO-" ++ toString now))
  firstName := if firstName = "" then "Unknown" else firstName
  lastName := ""
  roleId := none
  pin := none
  badgeNumber := credentials.badgeNumber

/-! ## The requests, statement by statement

What a transaction has written is seen by the others when it commits, so its writes are one
statement here. -/

/-- Which statement of a request comes next. -/
inductive EmployeePhase
  /-- `operatorLogon`. -/
  | authenticating (siteId : Uuid) (method : AuthMethod) (credentials : AuthCredentials)
    (allowAutoCreate : Bool)
  /-- `create`. -/
  | resolving (input : CreateEmployeeInput)
  | checking (input : CreateEmployeeInput) (workspaceId : Uuid)
  /-- The number and the badge have been found to be available. -/
  | assigning (input : CreateEmployeeInput) (workspaceId : Uuid)
  | inserting (input : CreateEmployeeInput) (workspaceId : Uuid) (roleId : Option Uuid)
  /-- `update`. -/
  | reading (id : Uuid) (input : UpdateEmployeeInput)
  | checkingUpdate (input : UpdateEmployeeInput) (employee : Employee) (current : EmployeeVersion)
  /-- The number and the badge have been found to be available. -/
  | assigningUpdate (input : UpdateEmployeeInput) (employee : Employee) (current : EmployeeVersion)
  | updating (input : UpdateEmployeeInput) (employee : Employee) (current : EmployeeVersion)
    (roleUpdate : Option EmployeeRole)
  | recognised (employeeId : Uuid)
  | stored (employeeId : Uuid)
  | refused (error : ServiceError)
  | thrown (message : String)
  | failed
deriving DecidableEq

section

variable (db : EmployeeStore)

def afterAuthenticate (siteId : Uuid) (credentials : AuthCredentials) (now : Time) :
    Except String (Option Uuid × String) → EmployeePhase
  | .error message => .thrown message
  | .ok (some id, _) => .recognised id
  | .ok (none, firstName) => .resolving (autoCreateInput siteId credentials firstName now)

/-- The role of a new employee, where it gets access to a site. -/
def afterAssign (input : CreateEmployeeInput) (workspaceId : Uuid) : EmployeePhase :=
  match input.siteId with
  | none => .inserting input workspaceId none
  | some siteId =>
    match db.resolveSiteRoleId siteId input.roleId with
    | .error message => .thrown message
    | .ok roleId => .inserting input workspaceId (some roleId)

def afterFindEmployee (input : UpdateEmployeeInput) : Option Employee → EmployeePhase
  | none => .refused ⟨"Employee not found", "NOT_FOUND"⟩
  | some employee =>
    match employee.version with
    | none => .refused ⟨"Employee not found", "NOT_FOUND"⟩
    | some current => .checkingUpdate input employee current

def afterAssignUpdate (input : UpdateEmployeeInput) (employee : Employee)
    (current : EmployeeVersion) : EmployeePhase :=
  match input.roleId with
  | none => .updating input employee current none
  | some roleId =>
    match db.roles.find? (·.id == roleId) with
    | none => .refused ⟨"Employee role not found", "ROLE_NOT_FOUND"⟩
    | some role =>
      if db.sites role.siteId ≠ some employee.workspaceId then
        .refused ⟨"Employee role does not belong to this workspace", "WORKSPACE_MISMATCH"⟩
      else .updating input employee current (some role)

/-- A transaction that fails is rolled back. -/
def afterStore (employeeId : Uuid) : Option EmployeeStore → EmployeeStore × EmployeePhase
  | none => (db, .failed)
  | some stored => (stored, .stored employeeId)

/-- The next statement of a request. -/
def employeeStatement {ι : Type*} (_ : ι) (draw : EmployeeDraw) (db : EmployeeStore) :
    EmployeePhase → Option (EmployeeStore × EmployeePhase)
  | .authenticating siteId method credentials allowAutoCreate =>
    some (db, afterAuthenticate siteId credentials draw.now
      (db.authenticate siteId method credentials allowAutoCreate))
  | .resolving input =>
    some (db, match db.resolveWorkspaceId input.workspaceId input.siteId with
      | .error message => .thrown message
      | .ok workspaceId => .checking input workspaceId)
  | .checking input workspaceId =>
    some (db, match db.ensureIdentityAvailable workspaceId none
        ⟨input.employeeNumber, input.badgeNumber⟩ with
      | .error message => .thrown message
      | .ok () => .assigning input workspaceId)
  | .assigning input workspaceId => some (db, afterAssign db input workspaceId)
  | .inserting input workspaceId roleId =>
    some (afterStore db draw.employeeId (db.insertEmployee input workspaceId roleId draw))
  | .reading id input => some (db, afterFindEmployee input (db.employees.find id))
  | .checkingUpdate input employee current =>
    some (db, match db.ensureIdentityAvailable employee.workspaceId (some employee.id)
        (input.nextIdentity current) with
      | .error message => .thrown message
      | .ok () => .assigningUpdate input employee current)
  | .assigningUpdate input employee current =>
    some (db, afterAssignUpdate db input employee current)
  | .updating input employee current roleUpdate =>
    some (afterStore db employee.id
      (db.updateEmployee employee.id input current roleUpdate draw))
  | _ => none

end

abbrev EmployeeCalls (ι : Type*) := Calls ι EmployeeStore EmployeePhase

/-! ## Identities that are about to be stored -/

/-- An identity that has been found to be available, and for which employee, if there is one
already. -/
structure IdentityClaim where
  workspaceId : Uuid
  employeeId : Option Uuid
  identity : OperatorIdentity

/-- Two claims that cannot both be met. -/
def IdentityClaim.Rivals (c c' : IdentityClaim) : Prop :=
  c.workspaceId = c'.workspaceId ∧ c.identity.Meets c'.identity ∧
    ¬(c.employeeId.isSome = true ∧ c.employeeId = c'.employeeId)

instance decidableRivals (c c' : IdentityClaim) : Decidable (c.Rivals c') :=
  inferInstanceAs (Decidable (_ ∧ _ ∧ ¬(_ ∧ _)))

namespace EmployeePhase

/-- What a request has looked for and has not stored yet. -/
def claim : EmployeePhase → Option IdentityClaim
  | .assigning input workspaceId | .inserting input workspaceId _ =>
    some ⟨workspaceId, none, ⟨input.employeeNumber, input.badgeNumber⟩⟩
  | .assigningUpdate input employee current | .updating input employee current _ =>
    if input.needsNewVersion then
      some ⟨employee.workspaceId, some employee.id, input.nextIdentity current⟩
    else none
  | _ => none

/-- The next statement stores the employee. -/
def isStoring : EmployeePhase → Bool
  | .inserting _ _ _ | .updating _ _ _ _ => true
  | _ => false

/-- The employee that is being updated, as it has been read. -/
def target : EmployeePhase → Option Employee
  | .checkingUpdate _ employee _ | .assigningUpdate _ employee _ | .updating _ employee _ _ =>
    some employee
  | _ => none

/-- The sites that a request gives access to are in the workspace of the employee. At the start, the
callers of `create` give a workspace or a site. -/
def WellPlaced (sites : Uuid → Option Uuid) : EmployeePhase → Prop
  | .resolving input => input.workspaceId = none ∨ input.siteId = none
  | .checking input workspaceId | .assigning input workspaceId
  | .inserting input workspaceId _ => ∀ siteId ∈ input.siteId, sites siteId = some workspaceId
  | .updating _ employee _ roleUpdate =>
    ∀ role ∈ roleUpdate, sites role.siteId = some employee.workspaceId
  | _ => True

/-- A request that has not taken a step. -/
def IsRequest : EmployeePhase → Prop
  | .authenticating _ _ _ _ | .reading _ _ => True
  | .resolving input => input.workspaceId = none ∨ input.siteId = none
  | _ => False

end EmployeePhase

/-- A request stores an employee only while no other one is about to store the same number or badge
for another employee of the workspace. -/
def StoresAlone {ι : Type*} (s : EmployeeCalls ι) (a : ι × EmployeeDraw) : Prop :=
  (s.phase a.1).isStoring = true → ∀ c ∈ (s.phase a.1).claim,
    ∀ j ≠ a.1, ∀ c' ∈ (s.phase j).claim, ¬c.Rivals c'

instance decidableStoresAlone {ι : Type*} [Fintype ι] [DecidableEq ι] (s : EmployeeCalls ι)
    (a : ι × EmployeeDraw) : Decidable (StoresAlone s a) :=
  inferInstanceAs (Decidable (_ → ∀ c ∈ (s.phase a.1).claim, ∀ j ≠ a.1, _))

namespace EmployeeStore

/-- No two employees of a workspace have current versions with the same number or badge. -/
def IdentitiesUnique (db : EmployeeStore) : Prop :=
  ∀ e ∈ db.employees.rows, ∀ e' ∈ db.employees.rows, e.workspaceId = e'.workspaceId →
    ∀ v ∈ e.version, ∀ v' ∈ e'.version, v.identity.Meets v'.identity → e = e'

/-- An employee has access to sites of its workspace. -/
def AccessInWorkspace (db : EmployeeStore) : Prop :=
  ∀ a ∈ db.siteAccess.rows, ∃ e ∈ db.employees.rows,
    e.id = a.employeeId ∧ db.sites a.siteId = some e.workspaceId

end EmployeeStore

/-! ## Identities that meet -/

theorem nonEmpty_eq_some_iff {s : Option String} {n : String} :
    nonEmpty s = some n ↔ s = some n ∧ n ≠ "" := by
  rw [nonEmpty, Option.filter_eq_some_iff, decide_eq_true_eq]

namespace OperatorIdentity

variable {a b : OperatorIdentity}

theorem meets_iff : a.Meets b ↔
    (∃ n ≠ "", a.employeeNumber = some n ∧ b.employeeNumber = some n) ∨
      ∃ n ≠ "", a.badgeNumber = some n ∧ b.badgeNumber = some n := by
  simp only [Meets, Option.mem_def, nonEmpty_eq_some_iff]
  constructor <;>
  · rintro (⟨n, h⟩ | ⟨n, h⟩)
    · exact .inl ⟨n, by tauto⟩
    · exact .inr ⟨n, by tauto⟩

theorem meets_comm : a.Meets b ↔ b.Meets a := by
  simp only [meets_iff, and_comm]

/-- What is stored of an identity meets the same identities. -/
theorem meets_nonEmpty_iff {n m : Option String} :
    (⟨nonEmpty n, nonEmpty m⟩ : OperatorIdentity).Meets a ↔
      (⟨n, m⟩ : OperatorIdentity).Meets a := by
  simp only [meets_iff, nonEmpty_eq_some_iff]
  constructor <;>
  · rintro (⟨n, h⟩ | ⟨n, h⟩)
    · exact .inl ⟨n, by tauto⟩
    · exact .inr ⟨n, by tauto⟩

end OperatorIdentity

section

variable {db db' : EmployeeStore} {workspaceId : Uuid} {employeeId : Option Uuid}
  {identity : OperatorIdentity} {e x : Employee} {phase : EmployeePhase}

theorem mem_holders {v : EmployeeVersion} : v ∈ db.holders workspaceId employeeId identity ↔
    ∃ e ∈ db.employees.rows, e.workspaceId = workspaceId ∧ employeeId ≠ some e.id ∧
      e.version = some v ∧ identity.Meets v.identity := by
  rw [EmployeeStore.holders, List.mem_filterMap]
  simp only [List.mem_filter, Bool.and_eq_true, beq_iff_eq, Option.filter_eq_some_iff,
    decide_eq_true_eq]
  refine exists_congr fun e ↦ ?_
  have hother : employeeId.all (· != e.id) = true ↔ employeeId ≠ some e.id := by
    cases employeeId <;> simp
  rw [hother, and_assoc, and_assoc]

/-- **An identity is available** when no other employee of the workspace has it. -/
theorem ensureIdentityAvailable_eq_ok_iff :
    db.ensureIdentityAvailable workspaceId employeeId identity = .ok () ↔
      ∀ e ∈ db.employees.rows, e.workspaceId = workspaceId → employeeId ≠ some e.id →
        ∀ v ∈ e.version, ¬identity.Meets v.identity := by
  rw [EmployeeStore.ensureIdentityAvailable]
  cases hhead : (db.holders workspaceId employeeId identity).head? with
  | none =>
    rw [List.head?_eq_none_iff] at hhead
    refine iff_of_true rfl fun e he hws hne v hv hmeets ↦ ?_
    have hmem := mem_holders.mpr ⟨e, he, hws, hne, hv, hmeets⟩
    rw [hhead] at hmem
    exact absurd hmem List.not_mem_nil
  | some existing =>
    obtain ⟨e, he, hws, hne, hv, hmeets⟩ := mem_holders.mp (List.mem_of_head? hhead)
    refine iff_of_false ?_ fun hall ↦ hall e he hws hne existing hv hmeets
    dsimp only
    split_ifs with hnumber hbadge
    · exact nofun
    · exact nofun
    · exact absurd hmeets (not_or.mpr ⟨hnumber, hbadge⟩)

/-! ## What is stored -/

/-- An employee is stored, with a number and a badge, and may get access to a site. -/
structure EmployeeStore.Stores (db : EmployeeStore) (e : Employee) (siteId : Option Uuid)
    (db' : EmployeeStore) : Prop where
  rows : ∀ x, x ∈ db'.employees.rows ↔ x = e ∨ x ∈ db.employees.rows ∧ x.id ≠ e.id
  workspace : ∀ x ∈ db.employees.rows, x.id = e.id → x.workspaceId = e.workspaceId
  sites : db'.sites = db.sites
  access : ∀ a ∈ db'.siteAccess.rows,
    (∃ b ∈ db.siteAccess.rows, b.employeeId = a.employeeId ∧ b.siteId = a.siteId) ∨
      a.employeeId = e.id ∧ siteId = some a.siteId

theorem stores_of_insertEmployee {input : CreateEmployeeInput} {roleId : Option Uuid}
    {draw : EmployeeDraw} (h : db.insertEmployee input workspaceId roleId draw = some db') :
    db.Stores ⟨draw.employeeId, workspaceId, .ACTIVE, some (input.firstVersion draw)⟩ input.siteId
      db' ∧ ∀ x ∈ db.employees.rows, x.id ≠ draw.employeeId := by
  rw [EmployeeStore.insertEmployee] at h
  obtain ⟨employees, hemployees, h⟩ := Option.bind_eq_some_iff.mp h
  obtain ⟨versions, -, h⟩ := Option.bind_eq_some_iff.mp h
  obtain ⟨hfresh, -, hrows⟩ := Table.insert_eq_some_iff.mp hemployees
  have hne : ∀ x ∈ db.employees.rows, x.id ≠ draw.employeeId := fun x hx heq ↦
    hfresh (List.mem_map.mpr ⟨x, hx, heq⟩)
  obtain ⟨siteAccess, rfl, haccess⟩ : ∃ siteAccess,
      db' = { db with employees, versions, siteAccess } ∧ ∀ a ∈ siteAccess.rows,
        a ∈ db.siteAccess.rows ∨ a.employeeId = draw.employeeId ∧
          input.siteId = some a.siteId := by
    split at h
    · obtain ⟨siteAccess, hinsert, rfl⟩ := Option.map_eq_some_iff.mp h
      refine ⟨siteAccess, rfl, fun a ha ↦ ?_⟩
      rw [Table.rows_of_insert hinsert, List.mem_append, List.mem_singleton] at ha
      rcases ha with hold | rfl
      · exact .inl hold
      · exact .inr ⟨rfl, by assumption⟩
    · cases h
      exact ⟨db.siteAccess, rfl, fun a ha ↦ .inl ha⟩
  refine ⟨⟨fun x ↦ ?_, fun x hx heq ↦ absurd heq (hne x hx), rfl, fun a ha ↦ ?_⟩, hne⟩
  · dsimp only
    rw [hrows, List.mem_append, List.mem_singleton, or_comm]
    exact or_congr_right ⟨fun hx ↦ ⟨hx, hne x hx⟩, And.left⟩
  · exact (haccess a ha).imp_left fun hold ↦ ⟨a, hold, rfl, rfl⟩

/-- The row of an employee after an update. -/
def Employee.set (e : Employee) (status : Option EmployeeStatus)
    (version : Option EmployeeVersion) : Employee :=
  { e with status := status.getD e.status, version := version.or e.version }

theorem mem_setEmployee {id : Uuid} {status : Option EmployeeStatus}
    {version : Option EmployeeVersion} (hx : x ∈ db.employees.rows) (hid : x.id = id)
    (y : Employee) : y ∈ (db.setEmployee id status version).rows ↔
      y = x.set status version ∨ y ∈ db.employees.rows ∧ y.id ≠ id := by
  subst hid
  exact Table.mem_modify_key _ _ hx

theorem of_mem_upsertSiteAccess {id siteId roleId : Uuid} {a : EmployeeSiteAccess}
    (h : a ∈ (db.upsertSiteAccess id siteId roleId).rows) :
    (∃ b ∈ db.siteAccess.rows, b.employeeId = a.employeeId ∧ b.siteId = a.siteId) ∨
      a.employeeId = id ∧ siteId = a.siteId := by
  rw [EmployeeStore.upsertSiteAccess] at h
  split at h
  · obtain ⟨b, hb, rfl⟩ := List.mem_map.mp h
    refine .inl ⟨b, hb, ?_⟩
    split
    · exact ⟨rfl, rfl⟩
    · exact ⟨rfl, rfl⟩
  · rcases Table.mem_of_mem_insertMissing h with hold | rfl
    · exact .inl ⟨a, hold, rfl, rfl⟩
    · exact .inr ⟨rfl, rfl⟩

theorem stores_of_updateEmployee {id : Uuid} {input : UpdateEmployeeInput}
    {current : EmployeeVersion} {roleUpdate : Option EmployeeRole} {draw : EmployeeDraw}
    (h : db.updateEmployee id input current roleUpdate draw = some db') :
    ∃ x ∈ db.employees.rows, x.id = id ∧
      db.Stores (x.set input.status (if input.needsNewVersion then
        some (input.newVersion current draw id) else none)) (roleUpdate.map EmployeeRole.siteId)
          db' := by
  unfold EmployeeStore.updateEmployee at h
  split at h
  · cases h
  · rename_i x hfind
    obtain ⟨hx, hid⟩ := Table.find_eq_some_iff.mp hfind
    have hid : x.id = id := hid
    dsimp only at h
    generalize hset : (if input.needsNewVersion = true then
      some (input.newVersion current draw id) else none) = version
    have haccess : ∀ a ∈ (match roleUpdate with
        | none => db.siteAccess
        | some role => db.upsertSiteAccess id role.siteId role.id).rows,
        (∃ b ∈ db.siteAccess.rows, b.employeeId = a.employeeId ∧ b.siteId = a.siteId) ∨
          a.employeeId = (x.set input.status version).id ∧
            roleUpdate.map EmployeeRole.siteId = some a.siteId := by
      intro a ha
      cases roleUpdate with
      | none => exact .inl ⟨a, ha, rfl, rfl⟩
      | some role =>
        refine (of_mem_upsertSiteAccess ha).imp_right fun hnew ↦ ⟨hnew.1.trans hid.symm, ?_⟩
        rw [Option.map_some, hnew.2]
    refine ⟨x, hx, hid, ?_⟩
    have hworkspace : ∀ y ∈ db.employees.rows, y.id = (x.set input.status version).id →
        y.workspaceId = (x.set input.status version).workspaceId := by
      intro y hy (heq : y.id = x.id)
      rw [db.employees.eq_of_key_eq hy hx heq]
      rfl
    split_ifs at h hset with hneeds
    · obtain ⟨versions, -, rfl⟩ := Option.map_eq_some_iff.mp h
      subst hset
      exact ⟨fun y ↦ hid ▸ mem_setEmployee hx rfl y, hworkspace, rfl, haccess⟩
    · cases h
      subst hset
      exact ⟨fun y ↦ hid ▸ mem_setEmployee hx rfl y, hworkspace, rfl, haccess⟩

/-! ## What holds throughout -/

/-- The employee that a request has read is there, and what it gives access to is in the
workspace. -/
structure EmployeePhase.Fits (phase : EmployeePhase) (db : EmployeeStore) : Prop where
  target : ∀ x ∈ phase.target, ∃ e ∈ db.employees.rows, e.id = x.id ∧ e.workspaceId = x.workspaceId
  placed : phase.WellPlaced db.sites

/-- What a request relies on: the identity it has found to be available is available still. -/
structure EmployeePhase.Holds (phase : EmployeePhase) (db : EmployeeStore) : Prop
    extends phase.Fits db where
  free : ∀ c ∈ phase.claim, ∀ e ∈ db.employees.rows, e.workspaceId = c.workspaceId →
    c.employeeId ≠ some e.id → ∀ v ∈ e.version, ¬c.identity.Meets v.identity

/-- A request that looks for no identity and has read no employee relies on its access alone. -/
theorem EmployeePhase.Holds.of_none {phase : EmployeePhase} {db : EmployeeStore}
    (htarget : phase.target = none) (hclaim : phase.claim = none)
    (hplaced : phase.WellPlaced db.sites) : phase.Holds db where
  target x hx := by
    rw [htarget] at hx
    cases hx
  placed := hplaced
  free c hc := by
    rw [hclaim] at hc
    cases hc

/-- No two employees share an identity, and access is in the workspace. -/
structure EmployeeStore.Sound (db : EmployeeStore) : Prop where
  unique : db.IdentitiesUnique
  access : db.AccessInWorkspace

section

variable {siteId : Option Uuid}

theorem EmployeeStore.Stores.unique (h : db.Stores e siteId db') (hunique : db.IdentitiesUnique)
    (hfree : ∀ x ∈ db.employees.rows, x.workspaceId = e.workspaceId → x.id ≠ e.id →
      ∀ v ∈ e.version, ∀ v' ∈ x.version, ¬v.identity.Meets v'.identity) :
    db'.IdentitiesUnique := by
  intro y hy z hz hws v hv v' hv' hmeets
  rcases (h.rows y).mp hy with rfl | ⟨hy, hyid⟩ <;> rcases (h.rows z).mp hz with rfl | ⟨hz, hzid⟩
  · rfl
  · exact absurd hmeets (hfree z hz hws.symm hzid v hv v' hv')
  · exact absurd (OperatorIdentity.meets_comm.mp hmeets) (hfree y hy hws hyid v' hv' v hv)
  · exact hunique y hy z hz hws v hv v' hv' hmeets

theorem EmployeeStore.Stores.exists_row (h : db.Stores e siteId db')
    (hx : x ∈ db.employees.rows) :
    ∃ y ∈ db'.employees.rows, y.id = x.id ∧ y.workspaceId = x.workspaceId := by
  by_cases hid : x.id = e.id
  · exact ⟨e, (h.rows e).mpr (.inl rfl), hid.symm, (h.workspace x hx hid).symm⟩
  · exact ⟨x, (h.rows x).mpr (.inr ⟨hx, hid⟩), rfl, rfl⟩

theorem EmployeeStore.Stores.accessInWorkspace (h : db.Stores e siteId db')
    (haccess : db.AccessInWorkspace) (hsite : ∀ id ∈ siteId, db.sites id = some e.workspaceId) :
    db'.AccessInWorkspace := by
  intro a ha
  rw [h.sites]
  rcases h.access a ha with ⟨b, hb, hemployee, hsame⟩ | ⟨hemployee, hnew⟩
  · obtain ⟨y, hy, hid, hworkspace⟩ := haccess b hb
    obtain ⟨z, hz, hzid, hzws⟩ := h.exists_row hy
    exact ⟨z, hz, hzid.trans (hid.trans hemployee), by rw [← hsame, hworkspace, hzws]⟩
  · exact ⟨e, (h.rows e).mpr (.inl rfl), hemployee.symm, hsite _ hnew⟩

theorem EmployeePhase.Fits.of_stores (hfits : phase.Fits db) (h : db.Stores e siteId db') :
    phase.Fits db' where
  target y hy := by
    obtain ⟨z, hz, hid, hws⟩ := hfits.target y hy
    obtain ⟨w, hw, hwid, hwws⟩ := h.exists_row hz
    exact ⟨w, hw, hwid.trans hid, hwws.trans hws⟩
  placed := h.sites ▸ hfits.placed

/-- What another request relies on is still so, unless it is about to store the same identity. -/
theorem EmployeePhase.Holds.of_stores (hholds : phase.Holds db) (h : db.Stores e siteId db')
    (hno : ∀ c ∈ phase.claim, c.workspaceId = e.workspaceId → c.employeeId ≠ some e.id →
      ∀ v ∈ e.version, ¬c.identity.Meets v.identity) : phase.Holds db' where
  toFits := hholds.toFits.of_stores h
  free c hc y hy hws hne v hv := by
    rcases (h.rows y).mp hy with rfl | ⟨hy, -⟩
    · exact hno c hc hws.symm hne v hv
    · exact hholds.free c hc y hy hws hne v hv

end

/-! ## Steps -/

variable {ι : Type*} {i : ι} {draw : EmployeeDraw} {phase' : EmployeePhase}

/-- **A statement that stores nothing** leaves the store as it is, and its request relies on what
the statement has found. -/
theorem holds_of_not_storing (hholds : phase.Holds db) (hstoring : phase.isStoring = false)
    (h : employeeStatement i draw db phase = some (db', phase')) :
    db' = db ∧ phase'.Holds db := by
  cases phase with
  | authenticating siteId method credentials allowAutoCreate =>
    cases h
    refine ⟨rfl, ?_⟩
    unfold afterAuthenticate
    split
    · exact .of_none rfl rfl trivial
    · exact .of_none rfl rfl trivial
    · exact .of_none rfl rfl (.inl rfl)
  | resolving input =>
    cases h
    refine ⟨rfl, ?_⟩
    cases hws : db.resolveWorkspaceId input.workspaceId input.siteId with
    | error message => exact .of_none rfl rfl trivial
    | ok workspaceId =>
      refine .of_none rfl rfl fun siteId hsite ↦ ?_
      have hplaced : input.workspaceId = none ∨ input.siteId = none := hholds.placed
      rw [Option.mem_def] at hsite
      have hnone := hplaced.resolve_right (by rw [hsite]; exact nofun)
      rw [hnone, hsite, EmployeeStore.resolveWorkspaceId] at hws
      split at hws
      · cases hws
      · rename_i hfound
        cases hws
        exact hfound
  | checking input workspaceId =>
    cases h
    refine ⟨rfl, ?_⟩
    cases hfree : db.ensureIdentityAvailable workspaceId none
        ⟨input.employeeNumber, input.badgeNumber⟩ with
    | error message => exact .of_none rfl rfl trivial
    | ok =>
      refine ⟨⟨nofun, hholds.placed⟩, fun c hc ↦ ?_⟩
      cases hc
      exact ensureIdentityAvailable_eq_ok_iff.mp hfree
  | assigning input workspaceId =>
    cases h
    refine ⟨rfl, ?_⟩
    unfold afterAssign
    split
    · exact ⟨⟨nofun, hholds.placed⟩, hholds.free⟩
    · split
      · exact .of_none rfl rfl trivial
      · exact ⟨⟨nofun, hholds.placed⟩, hholds.free⟩
  | inserting input workspaceId roleId => cases hstoring
  | reading id input =>
    cases h
    refine ⟨rfl, ?_⟩
    cases hfind : db.employees.find id with
    | none => exact .of_none rfl rfl trivial
    | some employee =>
      rw [afterFindEmployee]
      split
      · exact .of_none rfl rfl trivial
      · refine ⟨⟨fun x hx ↦ ?_, trivial⟩, nofun⟩
        cases hx
        exact ⟨employee, (Table.find_eq_some_iff.mp hfind).1, rfl, rfl⟩
  | checkingUpdate input employee current =>
    cases h
    refine ⟨rfl, ?_⟩
    cases hfree : db.ensureIdentityAvailable employee.workspaceId (some employee.id)
        (input.nextIdentity current) with
    | error message => exact .of_none rfl rfl trivial
    | ok =>
      refine ⟨⟨hholds.target, trivial⟩, fun c hc ↦ ?_⟩
      rw [EmployeePhase.claim] at hc
      split_ifs at hc
      · cases hc
        exact ensureIdentityAvailable_eq_ok_iff.mp hfree
      · cases hc
  | assigningUpdate input employee current =>
    cases h
    refine ⟨rfl, ?_⟩
    unfold afterAssignUpdate
    split
    · exact ⟨⟨hholds.target, nofun⟩, hholds.free⟩
    · split
      · exact .of_none rfl rfl trivial
      · split_ifs with hsite
        · exact .of_none rfl rfl trivial
        · refine ⟨⟨hholds.target, fun r hr ↦ ?_⟩, hholds.free⟩
          cases hr
          exact not_not.mp hsite
  | updating input employee current roleUpdate => cases hstoring
  | recognised _ | stored _ | refused _ | thrown _ | failed => cases h

/-- What the employee that is stored has of the identity that the request has looked for. -/
inductive StoresClaim (db : EmployeeStore) (phase : EmployeePhase) (e : Employee) : Prop
  | claimed {c : IdentityClaim} {v : EmployeeVersion} : c ∈ phase.claim →
      c.workspaceId = e.workspaceId → c.employeeId = some e.id ∨ c.employeeId = none ∧
        (∀ x ∈ db.employees.rows, x.id ≠ e.id) →
      e.version = some v → (∀ b, v.identity.Meets b ↔ c.identity.Meets b) → StoresClaim db phase e
  /-- An update without a new version. -/
  | kept {x : Employee} : phase.claim = none → x ∈ db.employees.rows → x.id = e.id →
      x.version = e.version → StoresClaim db phase e

/-- **A statement that stores** stores one employee with its claim, or fails. -/
theorem stores_of_storing (hfits : phase.Fits db) (hstoring : phase.isStoring = true)
    (h : employeeStatement i draw db phase = some (db', phase')) :
    (db' = db ∧ phase' = .failed) ∨ ∃ e siteId, db.Stores e siteId db' ∧ phase' = .stored e.id ∧
      (∀ id ∈ siteId, db.sites id = some e.workspaceId) ∧ StoresClaim db phase e := by
  cases phase with
  | inserting input workspaceId roleId =>
    rw [employeeStatement] at h
    cases hinsert : db.insertEmployee input workspaceId roleId draw with
    | none =>
      rw [hinsert] at h
      cases h
      exact .inl ⟨rfl, rfl⟩
    | some stored =>
      rw [hinsert] at h
      cases h
      obtain ⟨hstores, hfresh⟩ := stores_of_insertEmployee hinsert
      exact .inr ⟨_, _, hstores, rfl, hfits.placed, .claimed rfl rfl (.inr ⟨rfl, hfresh⟩) rfl
        fun _ ↦ OperatorIdentity.meets_nonEmpty_iff⟩
  | updating input employee current roleUpdate =>
    rw [employeeStatement] at h
    cases hupdate : db.updateEmployee employee.id input current roleUpdate draw with
    | none =>
      rw [hupdate] at h
      cases h
      exact .inl ⟨rfl, rfl⟩
    | some stored =>
      rw [hupdate] at h
      cases h
      obtain ⟨x, hx, hid, hstores⟩ := stores_of_updateEmployee hupdate
      obtain ⟨y, hy, hyid, hws⟩ := hfits.target employee rfl
      obtain rfl := db.employees.eq_of_key_eq hx hy (hid.trans hyid.symm)
      refine .inr ⟨_, _, hstores, congrArg _ hid.symm, fun id hsite ↦ ?_, ?_⟩
      · obtain ⟨role, hrole, rfl⟩ := Option.map_eq_some_iff.mp hsite
        exact (hfits.placed role hrole).trans (congrArg some hws.symm)
      · by_cases hneeds : input.needsNewVersion = true
        · refine .claimed (c := ⟨employee.workspaceId, some employee.id,
            input.nextIdentity current⟩) (v := input.newVersion current draw employee.id)
            ?_ hws.symm (.inl (congrArg some hid.symm)) ?_ fun _ ↦ Iff.rfl
          · rw [EmployeePhase.claim, if_pos hneeds]
            rfl
          · rw [if_pos hneeds]
            rfl
        · refine .kept ?_ hx rfl ?_
          · rw [EmployeePhase.claim, if_neg hneeds]
          · rw [if_neg hneeds]
            rfl
  | _ => cases hstoring

theorem StoresClaim.free {s : EmployeeStore} (h : StoresClaim s phase e) (hholds : phase.Holds s)
    (hunique : s.IdentitiesUnique) (hworkspace : ∀ x ∈ s.employees.rows, x.id = e.id →
      x.workspaceId = e.workspaceId) : ∀ x ∈ s.employees.rows, x.workspaceId = e.workspaceId →
      x.id ≠ e.id → ∀ v ∈ e.version, ∀ v' ∈ x.version, ¬v.identity.Meets v'.identity := by
  intro x hx hws hne v hv v' hv' hmeets
  cases h with
  | @claimed c w hc hcws hemployee hw hmeets_iff =>
    cases hv.symm.trans hw
    refine hholds.free c hc x hx (hws.trans hcws.symm) ?_ v' hv' ((hmeets_iff _).mp hmeets)
    rcases hemployee with hsome | ⟨hnone, -⟩
    · rw [hsome]
      exact fun heq ↦ hne (Option.some_inj.mp heq).symm
    · rw [hnone]
      exact nofun
  | @kept y _ hy hyid hversion =>
    refine hne ?_
    rw [← hunique y hy x hx ((hworkspace y hy hyid).trans hws.symm) v (hversion ▸ hv) v' hv'
      hmeets, hyid]

/-- Another request that is not a rival may still store what it has looked for. -/
theorem StoresClaim.free_other {s : EmployeeStore} {other : EmployeePhase}
    (h : StoresClaim s phase e) (hholds : other.Holds s)
    (hworkspace : ∀ x ∈ s.employees.rows, x.id = e.id → x.workspaceId = e.workspaceId)
    (hrivals : ∀ c ∈ phase.claim, ∀ c' ∈ other.claim, ¬c.Rivals c') :
    ∀ c ∈ other.claim, c.workspaceId = e.workspaceId → c.employeeId ≠ some e.id →
      ∀ v ∈ e.version, ¬c.identity.Meets v.identity := by
  intro c' hc' hws hne v hv hmeets
  cases h with
  | @claimed c w hc hcws hemployee hw hmeets_iff =>
    cases hv.symm.trans hw
    refine hrivals c hc c' hc' ⟨hcws.trans hws.symm, ?_, ?_⟩
    · exact (hmeets_iff _).mp (OperatorIdentity.meets_comm.mp hmeets)
    · rintro ⟨hsome, hsame⟩
      rcases hemployee with hown | ⟨hnone, -⟩
      · exact hne (hsame.symm.trans hown)
      · rw [hnone] at hsome
        cases hsome
  | @kept x _ hx hid hversion =>
    exact hholds.free c' hc' x hx ((hworkspace x hx hid).trans hws.symm) (hid ▸ hne) v
      (hversion ▸ hv) hmeets

/-- **One statement keeps** what holds throughout. -/
theorem sound_step [DecidableEq ι] {s : EmployeeCalls ι} {store : EmployeeStore}
    (hok : StoresAlone s (i, draw)) (hsound : s.store.Sound)
    (hholds : (s.phase i).Holds s.store)
    (h : employeeStatement i draw s.store (s.phase i) = some (store, phase')) :
    store.Sound ∧ phase'.Holds store ∧
      ∀ j ≠ i, (s.phase j).Holds s.store → (s.phase j).Holds store := by
  cases hstoring : (s.phase i).isStoring with
  | false =>
    obtain ⟨rfl, hown⟩ := holds_of_not_storing hholds hstoring h
    exact ⟨hsound, hown, fun _ _ hj ↦ hj⟩
  | true =>
    rcases stores_of_storing hholds.toFits hstoring h with
      ⟨rfl, rfl⟩ | ⟨e, siteId, hstores, rfl, hplaced, hclaim⟩
    · exact ⟨hsound, .of_none rfl rfl trivial, fun _ _ hj ↦ hj⟩
    · refine ⟨⟨hstores.unique hsound.unique
        (hclaim.free hholds hsound.unique hstores.workspace),
        hstores.accessInWorkspace hsound.access hplaced⟩, .of_none rfl rfl trivial,
        fun j hj hholdsj ↦ hholdsj.of_stores hstores
          (hclaim.free_other hholdsj hstores.workspace fun c hc c' hc' ↦ ?_)⟩
      exact hok hstoring c hc j hj c' hc'

/-- An update is of the employee that has been read. -/
theorem EmployeePhase.exists_target {c : IdentityClaim} {id : Uuid} (hc : c ∈ phase.claim)
    (hid : c.employeeId = some id) : ∃ x ∈ phase.target, x.id = id := by
  unfold EmployeePhase.claim at hc
  split at hc
  · cases hc
    cases hid
  · cases hc
    cases hid
  · split_ifs at hc
    · cases hc
      exact ⟨_, rfl, Option.some_inj.mp hid⟩
    · cases hc
  · split_ifs at hc
    · cases hc
      exact ⟨_, rfl, Option.some_inj.mp hid⟩
    · cases hc
  · cases hc

/-- **Two rivals that are both stored** have the same identity. -/
theorem not_unique_of_rivals {store : EmployeeStore} {other other' : EmployeePhase} {j : ι}
    {draw' : EmployeeDraw} (hholds : phase.Holds db) (hholds' : other.Holds db)
    (hstoring : phase.isStoring = true) (hstoring' : other.isStoring = true)
    (hrivals : ∃ c ∈ phase.claim, ∃ c' ∈ other.claim, c.Rivals c')
    (h : employeeStatement i draw db phase = some (db', phase')) (hstored : phase' ≠ .failed)
    (h' : employeeStatement j draw' db' other = some (store, other'))
    (hstored' : other' ≠ .failed) :
    ¬store.IdentitiesUnique := by
  obtain ⟨c, hc, c', hc', hws, hmeets, hdistinct⟩ := hrivals
  obtain ⟨e, siteId, hstores, -, -, hclaim⟩ :=
    (stores_of_storing hholds.toFits hstoring h).resolve_left fun hfailed ↦ hstored hfailed.2
  obtain ⟨e', siteId', hstores', -, -, hclaim'⟩ :=
    (stores_of_storing (hholds'.toFits.of_stores hstores) hstoring' h').resolve_left
      fun hfailed ↦ hstored' hfailed.2
  have he : e ∈ db'.employees.rows := (hstores.rows e).mpr (.inl rfl)
  cases hclaim with
  | kept hnone => exact absurd (hnone.symm.trans hc) nofun
  | @claimed c₁ v hc₁ hcws hemployee hv hiff =>
    cases hclaim' with
    | kept hnone => exact absurd (hnone.symm.trans hc') nofun
    | @claimed c₁' v' hc₁' hcws' hemployee' hv' hiff' =>
      cases hc.symm.trans hc₁
      cases hc'.symm.trans hc₁'
      have hne : e.id ≠ e'.id := by
        intro hsame
        rcases hemployee' with hown' | ⟨-, hfresh'⟩
        · rcases hemployee with hown | ⟨-, hfresh⟩
          · exact hdistinct ⟨by rw [hown]; rfl, by rw [hown, hown', hsame]⟩
          · -- the employee that the other one updates has been there before
            obtain ⟨x, hx, hxid⟩ := EmployeePhase.exists_target hc' hown'
            obtain ⟨y, hy, hyid, -⟩ := hholds'.target x hx
            exact hfresh y hy (hyid.trans (hxid.trans hsame.symm))
        · exact hfresh' e he hsame
      intro hunique
      refine hne (congrArg Employee.id (hunique e ((hstores'.rows e).mpr (.inr ⟨he, hne⟩)) e'
        ((hstores'.rows e').mpr (.inl rfl)) ?_ v hv v' hv' ?_))
      · rw [← hcws, ← hcws', hws]
      · refine (hiff _).mpr (OperatorIdentity.meets_comm.mp ((hiff' _).mpr ?_))
        exact OperatorIdentity.meets_comm.mp hmeets

theorem EmployeePhase.IsRequest.holds {store : EmployeeStore} (h : phase.IsRequest) :
    phase.Holds store := by
  cases phase with
  | authenticating | reading => exact .of_none rfl rfl trivial
  | resolving => exact .of_none rfl rfl h
  | _ => exact absurd h id

/-- A badge or a number matches one employee of a site at most. -/
theorem EmployeeStore.Sound.eq_of_meets {siteId : Uuid} {e' : Employee} (h : db.Sound)
    (he : e ∈ db.activeAt siteId) (he' : e' ∈ db.activeAt siteId)
    (hmeets : ∃ v ∈ e.version, ∃ v' ∈ e'.version, v.identity.Meets v'.identity) : e = e' := by
  -- both have access to the site, and are in its workspace
  have hworkspace : ∀ x ∈ db.activeAt siteId, x ∈ db.employees.rows ∧
      db.sites siteId = some x.workspaceId := by
    intro x hx
    obtain ⟨hmem, hactive⟩ := List.mem_filter.mp hx
    obtain ⟨a, ha, hsite⟩ := List.any_eq_true.mp (Bool.and_eq_true_iff.mp hactive).2
    simp only [Bool.and_eq_true, beq_iff_eq] at hsite
    obtain ⟨y, hy, hid, hws⟩ := h.access a ha
    obtain rfl := db.employees.eq_of_key_eq hy hmem (hid.trans hsite.1.1)
    exact ⟨hmem, hsite.1.2 ▸ hws⟩
  obtain ⟨hmem, hws⟩ := hworkspace e he
  obtain ⟨hmem', hws'⟩ := hworkspace e' he'
  obtain ⟨v, hv, v', hv', hmeets⟩ := hmeets
  exact h.unique e hmem e' hmem' (Option.some_inj.mp (hws.symm.trans hws')) v hv v' hv' hmeets

theorem EmployeeStore.Sound.eq_of_byBadgeNumber {siteId : Uuid} {n : String} {e' : Employee}
    (h : db.Sound) (hn : n ≠ "") (he : e ∈ db.byBadgeNumber siteId n)
    (he' : e' ∈ db.byBadgeNumber siteId n) : e = e' := by
  obtain ⟨he, hbadge⟩ := List.mem_filter.mp he
  obtain ⟨he', hbadge'⟩ := List.mem_filter.mp he'
  obtain ⟨v, hv, hvn⟩ := (Option.any_eq_true _ _).mp hbadge
  obtain ⟨v', hv', hvn'⟩ := (Option.any_eq_true _ _).mp hbadge'
  exact h.eq_of_meets he he' ⟨v, hv, v', hv',
    OperatorIdentity.meets_iff.mpr (.inr ⟨n, hn, eq_of_beq hvn, eq_of_beq hvn'⟩)⟩

theorem EmployeeStore.Sound.eq_of_byEmployeeNumber {siteId : Uuid} {n : String} {e' : Employee}
    (h : db.Sound) (hn : n ≠ "") (he : e ∈ db.byEmployeeNumber siteId n)
    (he' : e' ∈ db.byEmployeeNumber siteId n) : e = e' := by
  obtain ⟨he, hnumber⟩ := List.mem_filter.mp he
  obtain ⟨he', hnumber'⟩ := List.mem_filter.mp he'
  obtain ⟨v, hv, hvn⟩ := (Option.any_eq_true _ _).mp hnumber
  obtain ⟨v', hv', hvn'⟩ := (Option.any_eq_true _ _).mp hnumber'
  exact h.eq_of_meets he he' ⟨v, hv, v', hv',
    OperatorIdentity.meets_iff.mpr (.inl ⟨n, hn, eq_of_beq hvn, eq_of_beq hvn'⟩)⟩

theorem sound_run [DecidableEq ι] {s₀ s : EmployeeCalls ι} {as : List (ι × EmployeeDraw)}
    (hrequests : ∀ i, (s₀.phase i).IsRequest) (hdb : s₀.store.Sound)
    (hrun : Run (Calls.step employeeStatement) StoresAlone s₀ as s) :
    s.store.Sound ∧ ∀ i, (s.phase i).Holds s.store :=
  Calls.invariant (A := fun _ store phase ↦ phase.Holds store) hdb (fun i ↦ (hrequests i).holds)
    (fun _ _ _ _ _ hok hsound hholds h ↦ sound_step hok hsound hholds h) hrun

/-- **Operator identities are unique** in every interleaving in which none is stored while another
request is about to store it, and a badge or a number matches one employee at most. When one is
stored all the same, and then by the other request, two employees have it. -/
theorem identities_unique [DecidableEq ι] {s₀ s : EmployeeCalls ι}
    {as : List (ι × EmployeeDraw)} (hrequests : ∀ i, (s₀.phase i).IsRequest)
    (hdb : s₀.store.Sound) (hrun : Run (Calls.step employeeStatement) StoresAlone s₀ as s) :
    s.store.IdentitiesUnique ∧
    (∀ siteId n, n ≠ "" →
      (∀ e ∈ s.store.byBadgeNumber siteId n, ∀ e' ∈ s.store.byBadgeNumber siteId n, e = e') ∧
      ∀ e ∈ s.store.byEmployeeNumber siteId n,
        ∀ e' ∈ s.store.byEmployeeNumber siteId n, e = e') ∧
    ∀ i j draw draw' s' s'', j ≠ i → (s.phase i).isStoring = true →
      (s.phase j).isStoring = true →
      (∃ c ∈ (s.phase i).claim, ∃ c' ∈ (s.phase j).claim, c.Rivals c') →
      Calls.step employeeStatement (i, draw) s = some s' → s'.phase i ≠ .failed →
      Calls.step employeeStatement (j, draw') s' = some s'' → s''.phase j ≠ .failed →
        ¬s''.store.IdentitiesUnique := by
  obtain ⟨hsound, hholds⟩ := sound_run hrequests hdb hrun
  refine ⟨hsound.unique, fun siteId n hn ↦ ⟨fun e he e' he' ↦ hsound.eq_of_byBadgeNumber hn he he',
    fun e he e' he' ↦ hsound.eq_of_byEmployeeNumber hn he he'⟩, ?_⟩
  intro i j draw draw' s' s'' hne hstoring hstoring' hrivals hstep hstored hstep' hstored'
  obtain ⟨h, hothers⟩ := Calls.of_step hstep
  obtain ⟨h', -⟩ := Calls.of_step hstep'
  rw [hothers j hne] at h'
  exact not_unique_of_rivals (hholds i) (hholds j) hstoring hstoring' hrivals h hstored h' hstored'

end

/-! ## Two badges -/

/-- A site with the role of operators, and no employees. -/
def operatorSite : EmployeeStore where
  employees := .empty _
  versions := .empty _
  siteAccess := .empty _
  sites := Function.update (fun _ ↦ none) 1 (some 2)
  roles := [⟨3, "Operator", 1⟩]

/-- Two displays of the site where a badge is read. -/
def twoLogons (badge badge' : String) : EmployeeCalls Bool where
  store := operatorSite
  phase second :=
    .authenticating 1 .BADGE ⟨none, some (if second then badge' else badge), none⟩ true

/-- One draw for each display. -/
def badgeDraw (second : Bool) : Bool × EmployeeDraw :=
  (second, if second then ⟨0, 12, 22, ""⟩ else ⟨0, 11, 21, ""⟩)

theorem sound_operatorSite : operatorSite.Sound where
  unique _ he := absurd he List.not_mem_nil
  access _ ha := absurd ha List.not_mem_nil

/-- Two badges that are not known, at the same time. -/
theorem identities_unique_twoBadges : ∃ s : EmployeeCalls Bool,
    (s.store.byBadgeNumber 1 "A7").length = 1 ∧ (s.store.byBadgeNumber 1 "B4").length = 1 ∧
      s.store.IdentitiesUnique := by
  have hexecute : (execute (Calls.step employeeStatement) StoresAlone
      ([false, true, false, true, false, true, false, true, false, true].map badgeDraw)
      (twoLogons "A7" "B4")).any (fun s ↦ decide ((s.store.byBadgeNumber 1 "A7").length = 1 ∧
        (s.store.byBadgeNumber 1 "B4").length = 1)) = true := by
    decide +kernel
  obtain ⟨s, hs, hfacts⟩ := (Option.any_eq_true _ _).mp hexecute
  obtain ⟨hfirst, hsecond⟩ := of_decide_eq_true hfacts
  have hrequests : ∀ i, ((twoLogons "A7" "B4").phase i).IsRequest := fun _ ↦ trivial
  exact ⟨s, hfirst, hsecond,
    (identities_unique hrequests sound_operatorSite (run_of_execute hs)).1⟩

/-- **One badge becomes two employees** when it is read at two displays at the same time. -/
theorem not_identities_unique : ∃ s : EmployeeCalls Bool,
    Run (Calls.step employeeStatement) (fun _ _ ↦ True) (twoLogons "A7" "A7")
      ([false, true, false, true, false, true, false, true, false, true].map badgeDraw) s ∧
    (s.store.byBadgeNumber 1 "A7").map Employee.id = [11, 12] ∧ ¬s.store.IdentitiesUnique := by
  have hexecute : (execute (Calls.step employeeStatement) (fun _ _ ↦ True)
      ([false, true, false, true, false, true, false, true, false, true].map badgeDraw)
      (twoLogons "A7" "A7")).any (fun s ↦ decide (
        (s.store.byBadgeNumber 1 "A7").map Employee.id = [11, 12] ∧
        ∃ e ∈ s.store.employees.rows, ∃ e' ∈ s.store.employees.rows,
          e.workspaceId = e'.workspaceId ∧ e.id ≠ e'.id ∧
            ∃ v ∈ e.version, ∃ v' ∈ e'.version, v.identity.Meets v'.identity)) = true := by
    decide +kernel
  obtain ⟨s, hs, hfacts⟩ := (Option.any_eq_true _ _).mp hexecute
  obtain ⟨hids, e, he, e', he', hws, hne, v, hv, v', hv', hmeets⟩ := of_decide_eq_true hfacts
  exact ⟨s, run_of_execute hs, hids, fun hunique ↦
    hne (congrArg Employee.id (hunique e he e' he' hws v hv v' hv' hmeets))⟩

end RwServer
