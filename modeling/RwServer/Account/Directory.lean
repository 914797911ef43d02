import Mathlib
import RwServer.Foundation.Table
import RwServer.Auth.RefreshTokens

/-!
# Users, workspaces and permissions

A user belongs to a workspace by a membership, and what it may do there comes from the roles that
are assigned to the membership, for the whole workspace or for one site. The permissions of internal
staff come from the code. The roles of a workspace and its sites are what they are.
-/

namespace RwServer

open Relational

/-! ## Permissions -/

/-- `RESOURCES`. -/
inductive Resource
  | facility | schedule | job | status | tool | product | dashboard | user | employee | billing
  | settings
deriving DecidableEq, Repr

/-- `ACTIONS`. -/
inductive PermissionAction
  | read | write | admin
deriving DecidableEq, Repr

inductive Permission
  | of (resource : Resource) (action : PermissionAction)
  /-- `OWNER_PERMISSION`. -/
  | owner
deriving DecidableEq, Repr

inductive SystemRole
  | SUPPORT
  | ENGINEER
deriving DecidableEq, Repr

inductive RoleScope
  | WORKSPACE
  | SITE
deriving DecidableEq, Repr

/-- `SYSTEM_ROLE_PERMISSIONS`. -/
def SystemRole.permits : SystemRole → Permission → Bool
  | .SUPPORT, .of resource action => decide (action = .read ∧ resource ≠ .billing)
  | .ENGINEER, .of _ _ => true
  | _, .owner => false

/-! ## The tables -/

structure AccountUser where
  status : UserStatus
  systemRole : Option SystemRole
  lockedUntil : Option Time
deriving DecidableEq, Repr

/-- A role. Strings that are no permission count nowhere, and are left out of the list. -/
structure WorkspaceRole where
  workspaceId : Uuid
  scope : RoleScope
  permissions : List Permission
  isSystem : Bool
deriving DecidableEq, Repr

/-- `hasOwnerPermission`. -/
def WorkspaceRole.hasOwnerPermission (role : WorkspaceRole) : Bool :=
  decide (Permission.owner ∈ role.permissions)

/-- `isOwnerRole`. -/
def WorkspaceRole.isOwnerRole (role : WorkspaceRole) : Bool :=
  role.isSystem && decide (role.scope = .WORKSPACE) && role.hasOwnerPermission

/-- `hasReservedOwnerPermission`. -/
def WorkspaceRole.hasReservedOwnerPermission (role : WorkspaceRole) : Bool :=
  role.hasOwnerPermission && !role.isOwnerRole

theorem WorkspaceRole.scope_of_isOwnerRole {role : WorkspaceRole} (h : role.isOwnerRole = true) :
    role.scope = .WORKSPACE := by
  simp only [isOwnerRole, Bool.and_eq_true, decide_eq_true_eq] at h
  exact h.1.2

structure Membership where
  id : Uuid
  userId : Uuid
  workspaceId : Uuid
deriving DecidableEq, Repr

structure RoleAssignment where
  id : Uuid
  membershipId : Uuid
  roleId : Uuid
  siteId : Option Uuid
deriving DecidableEq, Repr

/-- `@@unique([userId, workspaceId])`. -/
def membershipSchema : Schema Membership Uuid where
  key := Membership.id
  clash a b := decide (a.userId = b.userId ∧ a.workspaceId = b.workspaceId)
  clash_symm a b := by simp [eq_comm]

def assignmentSchema : Schema RoleAssignment Uuid where
  key := RoleAssignment.id
  clash _ _ := false
  clash_symm _ _ := rfl

/-- What the requests read and change. -/
structure Directory where
  users : Uuid → Option AccountUser
  /-- The workspace of a site. -/
  sites : Uuid → Option Uuid
  roles : Uuid → Option WorkspaceRole
  memberships : Table membershipSchema
  assignments : Table assignmentSchema

inductive AccessibleSites
  | all
  | only (siteIds : List Uuid)
deriving DecidableEq, Repr

namespace Directory

variable (d : Directory)

/-- `workspaceMembership.findUnique` by user and workspace. -/
def getUserAccess (workspaceId userId : Uuid) : Option Membership :=
  d.memberships.rows.find? fun m ↦ decide (m.userId = userId ∧ m.workspaceId = workspaceId)

variable {d} in
theorem getUserAccess_eq_some_iff {workspaceId userId : Uuid} {m : Membership} :
    d.getUserAccess workspaceId userId = some m ↔
      m ∈ d.memberships.rows ∧ m.userId = userId ∧ m.workspaceId = workspaceId := by
  constructor
  · intro h
    exact ⟨List.mem_of_find?_eq_some h, by simpa using List.find?_some h⟩
  · rintro ⟨hm, hkey⟩
    rw [getUserAccess]
    cases hfind : d.memberships.rows.find? fun m ↦
        decide (m.userId = userId ∧ m.workspaceId = workspaceId) with
    | none => exact absurd (List.find?_eq_none.mp hfind m hm) (by simpa using hkey)
    | some m' =>
      have hkey' : m'.userId = userId ∧ m'.workspaceId = workspaceId := by
        simpa using List.find?_some hfind
      by_contra hne
      have hclash := d.memberships.clash_eq_false (List.mem_of_find?_eq_some hfind) hm
        fun heq ↦ hne (congrArg some heq)
      exact absurd hclash (by simp [membershipSchema, hkey, hkey'])

/-- The assignments of a user in a workspace. -/
def assignmentsOf (userId workspaceId : Uuid) : List RoleAssignment :=
  d.assignments.rows.filter fun a ↦
    (d.getUserAccess workspaceId userId).any fun m ↦ decide (a.membershipId = m.id)

/-- `getEffectivePermissions` and `hasPermission`. -/
def hasPermission (userId : Uuid) (permission : Permission) (workspaceId : Uuid)
    (siteId : Option Uuid) : Bool :=
  match d.users userId with
  | none => false
  | some user =>
    match user.systemRole with
    | some systemRole => systemRole.permits permission
    | none => (d.assignmentsOf userId workspaceId).any fun a ↦
        (a.siteId.isNone || decide (a.siteId = siteId)) &&
          (d.roles a.roleId).any fun role ↦ decide (permission ∈ role.permissions)

def hasAnyPermission (userId : Uuid) (permissions : List Permission) (workspaceId : Uuid)
    (siteId : Option Uuid) : Bool :=
  permissions.any fun permission ↦ d.hasPermission userId permission workspaceId siteId

def getAccessibleSites (userId : Uuid) (permission : Permission) (workspaceId : Uuid) :
    AccessibleSites :=
  match d.users userId with
  | none => .only []
  | some user =>
    match user.systemRole with
    | some systemRole => if systemRole.permits permission then .all else .only []
    | none =>
      let assignments := (d.assignmentsOf userId workspaceId).filter fun a ↦
        (d.roles a.roleId).any fun role ↦ decide (permission ∈ role.permissions)
      if assignments.any fun a ↦ a.siteId.isNone then .all
      else .only (assignments.filterMap RoleAssignment.siteId)

/-- The site is among those of `listAccessibleSites`. -/
def canAccessSite (userId workspaceId siteId : Uuid) : Bool :=
  decide (d.sites siteId = some workspaceId) &&
    match d.getAccessibleSites userId (.of .facility .read) workspaceId with
    | .all => true
    | .only siteIds => decide (siteId ∈ siteIds)

/-! ## Owners -/

/-- The user can sign in, and is no internal staff. -/
def IsActiveCustomer (userId : Uuid) : Prop :=
  ∃ user, d.users userId = some user ∧ user.status = .ACTIVE ∧ user.systemRole = none

/-- The membership has an owner role for the whole workspace. -/
def HoldsOwnerRole (membershipId : Uuid) : Prop :=
  ∃ a ∈ d.assignments.rows, a.membershipId = membershipId ∧ a.siteId = none ∧
    ∃ role, d.roles a.roleId = some role ∧ role.isOwnerRole = true

/-- The user is an active owner of the workspace. -/
def IsActiveOwner (workspaceId userId : Uuid) : Prop :=
  ∃ m ∈ d.memberships.rows, m.userId = userId ∧ m.workspaceId = workspaceId ∧
    d.IsActiveCustomer userId ∧ d.HoldsOwnerRole m.id

def HasActiveOwner (workspaceId : Uuid) : Prop := ∃ userId, d.IsActiveOwner workspaceId userId

/-- The query of `updateRole` for an owner other than the target. -/
def remainingOwner (workspaceId targetUserId : Uuid) : Option Membership :=
  d.memberships.rows.find? fun m ↦
    decide (m.workspaceId = workspaceId ∧ m.userId ≠ targetUserId) &&
      (d.users m.userId).any (fun user ↦
        decide (user.status = .ACTIVE ∧ user.systemRole = none)) &&
      d.assignments.rows.any fun a ↦ decide (a.membershipId = m.id ∧ a.siteId = none) &&
        (d.roles a.roleId).any WorkspaceRole.isOwnerRole

variable {d}

/-- The query finds an active owner, where there is one other than the target. -/
theorem isSome_remainingOwner_iff {workspaceId targetUserId : Uuid} :
    (d.remainingOwner workspaceId targetUserId).isSome = true ↔
      ∃ userId ≠ targetUserId, d.IsActiveOwner workspaceId userId := by
  rw [remainingOwner, List.find?_isSome]
  simp only [Bool.and_eq_true, decide_eq_true_eq, List.any_eq_true, Option.any_eq_true]
  constructor
  · rintro ⟨m, hm, ⟨⟨hworkspace, hne⟩, user, huser, hactive⟩, a, ha, ⟨hmembership, hsite⟩, hrole⟩
    exact ⟨m.userId, hne, m, hm, rfl, hworkspace, ⟨user, huser, hactive⟩, a, ha, hmembership, hsite,
      hrole⟩
  · rintro ⟨userId, hne, m, hm, rfl, hworkspace, ⟨user, huser, hactive⟩, a, ha, hmembership, hsite,
      hrole⟩
    exact ⟨m, hm, ⟨⟨hworkspace, hne⟩, user, huser, hactive⟩, a, ha, ⟨hmembership, hsite⟩, hrole⟩

/-- An owner that a change leaves alone stays one. -/
theorem IsActiveOwner.of_frame {d' : Directory} {workspaceId userId : Uuid}
    (h : d.IsActiveOwner workspaceId userId)
    (hroles : d'.roles = d.roles) (huser : d'.users userId = d.users userId)
    (hkept : ∀ m ∈ d.memberships.rows, m.userId = userId → m.workspaceId = workspaceId →
      d.HoldsOwnerRole m.id → m ∈ d'.memberships.rows ∧ ∃ a ∈ d'.assignments.rows,
        a.membershipId = m.id ∧ a.siteId = none ∧
          ∃ role, d.roles a.roleId = some role ∧ role.isOwnerRole = true) :
    d'.IsActiveOwner workspaceId userId := by
  obtain ⟨m, hm, hmUser, hworkspace, hactive, hholds⟩ := h
  obtain ⟨hm', a, ha, hmembership, hsite, hrole⟩ := hkept m hm hmUser hworkspace hholds
  refine ⟨m, hm', hmUser, hworkspace, ?_, a, ha, hmembership, hsite, by rwa [hroles]⟩
  rwa [IsActiveCustomer, huser]

end Directory

end RwServer
