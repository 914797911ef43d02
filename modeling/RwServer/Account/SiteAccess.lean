import Mathlib
import RwServer.Foundation.JsValue
import RwServer.Foundation.LastWrite
import RwServer.Foundation.OrderedMap
import RwServer.Account.Directory

/-!
# Who sees which site

The sites a user may use are derived from its role assignments three times over: `hasPermission`
unites the roles that apply to one site, `getAccessibleSites` goes through all roles and stops at
one for the whole workspace, and the access summary of a member groups the permissions by site.

All three say that a site is open to a permission when an assignment for the workspace or for the
site has a role with it (`Grants`), and so they agree (`permissionPaths_agree`). A role has texts
for its permissions. On those that are a permission the functions are those of `Directory`
(`hasPermission_toDirectory`).
-/

namespace RwServer

open Relational LastWrite

/-! ## The catalogue -/

namespace Resource

def text : Resource → String
  | facility => "facility"
  | schedule => "schedule"
  | job => "job"
  | status => "status"
  | tool => "tool"
  | product => "product"
  | dashboard => "dashboard"
  | user => "user"
  | employee => "employee"
  | billing => "billing"
  | settings => "settings"

/-- `RESOURCES`. -/
def all : List Resource :=
  [facility, schedule, job, status, tool, product, dashboard, user, employee, billing, settings]

end Resource

namespace PermissionAction

def text : PermissionAction → String
  | read => "read"
  | write => "write"
  | admin => "admin"

/-- `ACTIONS`. -/
def all : List PermissionAction := [read, write, admin]

end PermissionAction

namespace Permission

def text : Permission → String
  | of resource action => resource.text ++ ":" ++ action.text
  | owner => "owner:all"

/-- `ALL_PERMISSIONS`. -/
def all : List Permission :=
  (Resource.all.flatMap fun resource ↦ PermissionAction.all.map fun action ↦ of resource action) ++
    [owner]

/-- The permission of a text. -/
def ofText (s : String) : Option Permission := all.find? fun p ↦ p.text == s

theorem ofText_text (p : Permission) : ofText p.text = some p := by
  cases p with
  | of resource action => cases resource <;> cases action <;> decide
  | owner => decide

theorem text_of_ofText {s : String} {p : Permission} (h : ofText s = some p) : p.text = s := by
  simpa using List.find?_some h

end Permission

/-- `isPermission`. -/
def isPermission (value : String) : Bool := decide (value ∈ Permission.all.map Permission.text)

theorem isPermission_text (p : Permission) : isPermission p.text = true := by
  cases p with
  | of resource action => cases resource <;> cases action <;> decide
  | owner => decide

/-- `SYSTEM_ROLE_PERMISSIONS`, as the source filters the catalogue. -/
def systemRolePermissions : SystemRole → List Permission
  | .SUPPORT => Permission.all.filter fun p ↦
      decide (":read".toList <:+ p.text.toList) && !JsText.startsWith p.text "billing:"
  | .ENGINEER => Permission.all.filter fun p ↦ decide (p ≠ .owner)

theorem mem_systemRolePermissions (systemRole : SystemRole) (p : Permission) :
    p ∈ systemRolePermissions systemRole ↔ systemRole.permits p = true := by
  cases systemRole <;> cases p with
  | of resource action => cases resource <;> cases action <;> decide
  | owner => decide

/-! ## The tables -/

/-- A role as it is stored, with the texts of its permissions. -/
structure StoredRole where
  workspaceId : Uuid
  name : String
  scope : RoleScope
  permissions : List String
  isSystem : Bool
  deriving DecidableEq

/-- The role with the permissions its texts stand for. -/
def StoredRole.toWorkspaceRole (role : StoredRole) : WorkspaceRole where
  workspaceId := role.workspaceId
  scope := role.scope
  permissions := role.permissions.filterMap Permission.ofText
  isSystem := role.isSystem

structure SiteRow where
  id : Uuid
  workspaceId : Uuid
  name : String
  deriving DecidableEq

def siteSchema : Schema SiteRow Uuid where
  key := SiteRow.id
  clash _ _ := false
  clash_symm _ _ := rfl

/-- What the permission checks read. The assignments stand in the order they were created in. -/
structure AccessTables where
  users : Uuid → Option AccountUser
  sites : Table siteSchema
  roles : Uuid → Option StoredRole
  memberships : Table membershipSchema
  assignments : Table assignmentSchema

structure SiteRef where
  id : Uuid
  name : String
  deriving DecidableEq

/-- An assignment with its role and its site. -/
structure AssignedRole where
  id : Uuid
  siteId : Option Uuid
  site : Option SiteRef
  roleId : Uuid
  role : StoredRole
  deriving DecidableEq

namespace AccessTables

variable (t : AccessTables)

/-- An assignment with what it refers to. -/
def withRole (a : RoleAssignment) : Option AssignedRole :=
  (t.roles a.roleId).map fun role ↦
    { id := a.id
      siteId := a.siteId
      site := a.siteId.bind fun siteId ↦
        (t.sites.rows.find? fun site ↦ site.id == siteId).map fun site ↦ ⟨site.id, site.name⟩
      roleId := a.roleId
      role }

/-- The `roleAssignments` of a membership. -/
def roleAssignments (membershipId : Uuid) : List AssignedRole :=
  (t.assignments.rows.filter fun a ↦ decide (a.membershipId = membershipId)).filterMap t.withRole

/-- `roleAssignment.findMany` where `membership` is that of the user in the workspace. -/
def assignmentsOf (userId workspaceId : Uuid) : List AssignedRole :=
  (t.assignments.rows.filter fun a ↦ t.memberships.rows.any fun m ↦
    decide (m.id = a.membershipId ∧ m.userId = userId ∧ m.workspaceId = workspaceId)).filterMap
      t.withRole

/-! ## Permission checks -/

/-- `getEffectivePermissions`. -/
def getEffectivePermissions (userId workspaceId : Uuid) (siteId : Option Uuid) :
    OrderedMap String Unit :=
  match t.users userId with
  | none => .empty
  | some user =>
    match user.systemRole with
    | some systemRole =>
      OrderedMap.insertAll .empty ((systemRolePermissions systemRole).map Permission.text)
    | none =>
      let assignments := (t.assignmentsOf userId workspaceId).filter fun a ↦
        a.siteId.isNone || siteId.any fun siteId ↦ decide (a.siteId = some siteId)
      assignments.foldl (fun out a ↦ out.insertAll (a.role.permissions.filter isPermission)) .empty

def hasPermission (userId : Uuid) (permission : Permission) (workspaceId : Uuid)
    (siteId : Option Uuid) : Bool :=
  (t.getEffectivePermissions userId workspaceId siteId).has permission.text

/-- The loop of `getAccessibleSites`. -/
def scanAssignments (permission : Permission) :
    List AssignedRole → OrderedMap Uuid Unit → AccessibleSites
  | [], siteIds => .only siteIds.keys
  | assignment :: rest, siteIds =>
    if permission.text ∉ assignment.role.permissions then scanAssignments permission rest siteIds
    else match assignment.siteId with
      | none => .all
      | some siteId => scanAssignments permission rest (siteIds.set siteId ())

def getAccessibleSites (userId : Uuid) (permission : Permission) (workspaceId : Uuid) :
    AccessibleSites :=
  match t.users userId with
  | none => .only []
  | some user =>
    match user.systemRole with
    | some systemRole =>
      if permission ∈ systemRolePermissions systemRole then .all else .only []
    | none => scanAssignments permission (t.assignmentsOf userId workspaceId) .empty

/-- `listAccessibleSites`: the sites as rows, by name. -/
def listAccessibleSites (nameLe : String → String → Bool) (userId workspaceId : Uuid)
    (permission : Permission) : List SiteRow :=
  let access := t.getAccessibleSites userId permission workspaceId
  (t.sites.rows.filter fun site ↦ decide (site.workspaceId = workspaceId) &&
    match access with
    | .all => true
    | .only siteIds => decide (site.id ∈ siteIds)).insertionSort
      fun a b ↦ nameLe a.name b.name = true

end AccessTables

/-! ## The access summary -/

structure RoleRef where
  id : Uuid
  name : String
  isSystem : Bool
  deriving DecidableEq

structure SitePermissionSummary where
  siteId : Uuid
  site : Option SiteRef
  permissions : List String
  deriving DecidableEq

/-- The `access` of a summary. Its `sites` are all, or some. -/
structure SummaryAccess where
  workspacePermissions : List String
  sitePermissions : List SitePermissionSummary
  allSites : Bool
  siteIds : List Uuid
  deriving DecidableEq

structure WorkspaceAccessSummary where
  roles : List RoleRef
  roleAssignments : List AssignedRole
  access : SummaryAccess
  deriving DecidableEq

/-- `sortPermissions`: the texts in the order of their code units. -/
def sortPermissions (permissions : OrderedMap String Unit) : List String :=
  permissions.keys.insertionSort fun a b ↦ JsText.compareUnits a b ≠ .gt

/-- What a site has been given so far. -/
structure SiteSummary where
  site : Option SiteRef
  permissions : OrderedMap String Unit

/-- The variables of the loop of `buildWorkspaceAccessSummary`. -/
structure GatheredPermissions where
  workspacePermissions : OrderedMap String Unit
  sitePermissions : OrderedMap Uuid SiteSummary

/-- One round of the loop. -/
def GatheredPermissions.add (gathered : GatheredPermissions) (assignment : AssignedRole) :
    GatheredPermissions :=
  match assignment.siteId with
  | none => { gathered with
      workspacePermissions := gathered.workspacePermissions.insertAll assignment.role.permissions }
  | some siteId =>
    let summary := (gathered.sitePermissions.get? siteId).getD ⟨assignment.site, .empty⟩
    let permissions := summary.permissions.insertAll assignment.role.permissions
    { gathered with
      sitePermissions := gathered.sitePermissions.set siteId { summary with permissions } }

def gatherPermissions (assignments : List AssignedRole) : GatheredPermissions :=
  assignments.foldl GatheredPermissions.add ⟨.empty, .empty⟩

def facilityRead : Permission := .of .facility .read

def buildWorkspaceAccessSummary (assignments : List AssignedRole) : WorkspaceAccessSummary :=
  let gathered := gatherPermissions assignments
  let sitePermissionSummaries := gathered.sitePermissions.entries.map fun entry ↦
    ⟨entry.1, entry.2.site, sortPermissions entry.2.permissions⟩
  let allSites := gathered.workspacePermissions.has facilityRead.text
  { roles := (assignments.filter fun assignment ↦ assignment.siteId.isNone).map fun assignment ↦
      ⟨assignment.roleId, assignment.role.name, assignment.role.isSystem⟩
    roleAssignments := assignments
    access :=
      { workspacePermissions := sortPermissions gathered.workspacePermissions
        sitePermissions := sitePermissionSummaries
        allSites
        siteIds := if allSites then []
          else (sitePermissionSummaries.filter fun summary ↦
            decide (facilityRead.text ∈ summary.permissions)).map SitePermissionSummary.siteId } }

/-- `getWorkspaceAccessSummaries`: a summary for each of the workspaces, of no assignments where the
user has no membership. -/
def AccessTables.getWorkspaceAccessSummaries (t : AccessTables) (userId : Uuid)
    (workspaceIds : List Uuid) : Uuid → Option WorkspaceAccessSummary :=
  let memberships := if workspaceIds.length ≠ 0 then
    t.memberships.rows.filter fun m ↦ decide (m.userId = userId ∧ m.workspaceId ∈ workspaceIds)
    else []
  let assignmentsByWorkspace : Uuid → Option (List AssignedRole) := memberships.foldl
    (fun byWorkspace m ↦ Function.update byWorkspace m.workspaceId (some (t.roleAssignments m.id)))
    fun _ ↦ none
  fun workspaceId ↦ if workspaceId ∈ workspaceIds then
    some (buildWorkspaceAccessSummary ((assignmentsByWorkspace workspaceId).getD [])) else none

/-! ## What is granted -/

/-- The assignments open the site to the permission: one of them is for the workspace or for the
site, and its role has the text of the permission. -/
def Grants (assignments : List AssignedRole) (permission : Permission) (siteId : Uuid) : Prop :=
  ∃ a ∈ assignments, (a.siteId = none ∨ a.siteId = some siteId) ∧
    permission.text ∈ a.role.permissions

/-- The access is to all sites, or the site is among those named. -/
def AccessibleSites.Includes (access : AccessibleSites) (siteId : Uuid) : Prop :=
  match access with
  | all => True
  | only siteIds => siteId ∈ siteIds

def SummaryAccess.Includes (access : SummaryAccess) (siteId : Uuid) : Prop :=
  access.allSites = true ∨ siteId ∈ access.siteIds

section Grants

variable {assignments : List AssignedRole} {permission : Permission} {siteId : Uuid}

theorem grants_cons {a : AssignedRole} : Grants (a :: assignments) permission siteId ↔
    (a.siteId = none ∨ a.siteId = some siteId) ∧ permission.text ∈ a.role.permissions ∨
      Grants assignments permission siteId := by
  simp [Grants]

/-! ### The union -/

theorem has_foldl_insertAll (permission : Permission) (assignments : List AssignedRole)
    (out : OrderedMap String Unit) :
    (assignments.foldl (fun out a ↦ out.insertAll (a.role.permissions.filter isPermission))
        out).has permission.text = true ↔
      out.has permission.text = true ∨
        ∃ a ∈ assignments, permission.text ∈ a.role.permissions := by
  induction assignments generalizing out with
  | nil => simp
  | cons a assignments ih =>
    rw [List.foldl_cons, ih, OrderedMap.has_insertAll, List.mem_filter, isPermission_text,
      List.exists_mem_cons_iff]
    simp [or_assoc]

/-! ### The scan -/

/-- The scan may stop early: then nothing that follows could open more. -/
theorem includes_scanAssignments (siteIds : OrderedMap Uuid Unit) :
    (AccessTables.scanAssignments permission assignments siteIds).Includes siteId ↔
      siteIds.has siteId = true ∨ Grants assignments permission siteId := by
  induction assignments generalizing siteIds with
  | nil => simp [AccessTables.scanAssignments, AccessibleSites.Includes, Grants,
      OrderedMap.mem_keys_iff]
  | cons a assignments ih =>
    rw [AccessTables.scanAssignments, grants_cons]
    split_ifs with hlisted
    · cases hsite : a.siteId with
      | none => simp [AccessibleSites.Includes, hlisted]
      | some s =>
        rw [ih, OrderedMap.has_set, eq_comm (a := siteId)]
        simp [hlisted, or_assoc]
    · rw [ih]
      simp [hlisted]

/-! ### The summary -/

/-- What a site has been given. -/
def GatheredPermissions.SiteHas (gathered : GatheredPermissions) (siteId : Uuid) (p : String) :
    Prop :=
  ∃ summary, gathered.sitePermissions.get? siteId = some summary ∧ summary.permissions.has p = true

/-- One round gives what the assignment has, where the assignment is for. -/
theorem GatheredPermissions.add_spec (gathered : GatheredPermissions) (a : AssignedRole)
    (siteId : Uuid) (p : String) :
    ((gathered.add a).workspacePermissions.has p = true ↔
      gathered.workspacePermissions.has p = true ∨ a.siteId = none ∧ p ∈ a.role.permissions) ∧
    ((gathered.add a).SiteHas siteId p ↔
      gathered.SiteHas siteId p ∨ a.siteId = some siteId ∧ p ∈ a.role.permissions) := by
  rw [add]
  cases hsite : a.siteId with
  | none =>
    refine ⟨?_, ?_⟩
    · rw [OrderedMap.has_insertAll]
      simp
    · simp [SiteHas]
  | some s =>
    refine ⟨by simp, ?_⟩
    rw [SiteHas, SiteHas, OrderedMap.get?_set]
    split_ifs with hs
    · subst hs
      cases hget : gathered.sitePermissions.get? siteId with
      | none => simp [OrderedMap.has_insertAll]
      | some summary => simp [OrderedMap.has_insertAll]
    · simp [Ne.symm hs]

theorem foldl_add_spec (assignments : List AssignedRole) (gathered : GatheredPermissions)
    (siteId : Uuid) (p : String) :
    ((assignments.foldl .add gathered).workspacePermissions.has p = true ↔
      gathered.workspacePermissions.has p = true ∨
        ∃ a ∈ assignments, a.siteId = none ∧ p ∈ a.role.permissions) ∧
    ((assignments.foldl .add gathered).SiteHas siteId p ↔ gathered.SiteHas siteId p ∨
      ∃ a ∈ assignments, a.siteId = some siteId ∧ p ∈ a.role.permissions) := by
  induction assignments generalizing gathered with
  | nil => simp
  | cons a assignments ih =>
    obtain ⟨hworkspace, hsite⟩ := gathered.add_spec a siteId p
    rw [List.foldl_cons, (ih _).1, (ih _).2, hworkspace, hsite]
    simp only [List.exists_mem_cons_iff, or_assoc]
    exact ⟨trivial, trivial⟩

theorem mem_sortPermissions {permissions : OrderedMap String Unit} {p : String} :
    p ∈ sortPermissions permissions ↔ permissions.has p = true := by
  rw [sortPermissions, List.mem_insertionSort, OrderedMap.mem_keys_iff]

/-- A site is in the summary when the loop has given it the permission. -/
theorem mem_siteIds_iff (gathered : GatheredPermissions) (p : String) :
    siteId ∈ ((gathered.sitePermissions.entries.map fun entry ↦
      (⟨entry.1, entry.2.site, sortPermissions entry.2.permissions⟩ :
        SitePermissionSummary)).filter fun summary ↦
          decide (p ∈ summary.permissions)).map SitePermissionSummary.siteId ↔
      gathered.SiteHas siteId p := by
  simp only [List.mem_map, List.mem_filter, decide_eq_true_eq, GatheredPermissions.SiteHas,
    OrderedMap.get?_eq_some_iff]
  constructor
  · rintro ⟨_, ⟨⟨⟨s, summary⟩, hentry, rfl⟩, hp⟩, rfl⟩
    exact ⟨summary, hentry, mem_sortPermissions.mp hp⟩
  · rintro ⟨summary, hentry, hp⟩
    exact ⟨_, ⟨⟨_, hentry, rfl⟩, mem_sortPermissions.mpr hp⟩, rfl⟩

theorem includes_buildWorkspaceAccessSummary (assignments : List AssignedRole) (siteId : Uuid) :
    (buildWorkspaceAccessSummary assignments).access.Includes siteId ↔
      Grants assignments facilityRead siteId := by
  obtain ⟨hworkspace, hsite⟩ :=
    foldl_add_spec assignments ⟨.empty, .empty⟩ siteId facilityRead.text
  simp only [GatheredPermissions.SiteHas, OrderedMap.has_empty, OrderedMap.get?_empty,
    Bool.false_eq_true, reduceCtorEq, false_and, exists_false, false_or] at hworkspace hsite
  have hgrants : Grants assignments facilityRead siteId ↔
      (∃ a ∈ assignments, a.siteId = none ∧ facilityRead.text ∈ a.role.permissions) ∨
        ∃ a ∈ assignments, a.siteId = some siteId ∧ facilityRead.text ∈ a.role.permissions := by
    simp only [Grants, or_and_right, and_or_left, exists_or]
  rw [hgrants, ← hworkspace, ← hsite, SummaryAccess.Includes, buildWorkspaceAccessSummary]
  dsimp only
  split_ifs with hall
  · exact iff_of_true (.inl hall) (.inl hall)
  · rw [mem_siteIds_iff]
    rfl

end Grants

/-! ## The paths -/

namespace Permission

theorem text_injective : Function.Injective text := fun p q h ↦ by
  have hp := ofText_text p
  rw [h, ofText_text] at hp
  exact (Option.some.inj hp).symm

end Permission

namespace AccessTables

variable {t : AccessTables} {userId workspaceId : Uuid} {permission : Permission}

/-- The assignments of a customer. -/
theorem mem_assignmentsOf {a : AssignedRole} : a ∈ t.assignmentsOf userId workspaceId ↔
    ∃ row ∈ t.assignments.rows, (∃ m ∈ t.memberships.rows, m.id = row.membershipId ∧
      m.userId = userId ∧ m.workspaceId = workspaceId) ∧ t.withRole row = some a := by
  simp [assignmentsOf, and_assoc]

/-- The permission of a customer at a site or without one. -/
theorem hasPermission_customer_iff {user : AccountUser} (huser : t.users userId = some user)
    (hcustomer : user.systemRole = none) (siteId : Option Uuid) :
    t.hasPermission userId permission workspaceId siteId = true ↔
      ∃ a ∈ t.assignmentsOf userId workspaceId, (a.siteId = none ∨ a.siteId = siteId) ∧
        permission.text ∈ a.role.permissions := by
  rw [hasPermission, getEffectivePermissions, huser]
  dsimp only
  rw [hcustomer]
  dsimp only
  rw [has_foldl_insertAll]
  simp only [OrderedMap.has_empty, Bool.false_eq_true, false_or, List.mem_filter, Bool.or_eq_true,
    Option.isNone_iff_eq_none, Option.any_eq_true, decide_eq_true_eq, and_assoc]
  refine exists_congr fun a ↦ and_congr_right fun _ ↦ and_congr_left fun _ ↦ ?_
  cases siteId <;> simp

theorem hasPermission_system_iff {user : AccountUser} (huser : t.users userId = some user)
    {systemRole : SystemRole} (hsystem : user.systemRole = some systemRole)
    (siteId : Option Uuid) :
    t.hasPermission userId permission workspaceId siteId = true ↔
      permission ∈ systemRolePermissions systemRole := by
  rw [hasPermission, getEffectivePermissions, huser]
  dsimp only
  rw [hsystem]
  dsimp only
  rw [OrderedMap.has_insertAll, List.mem_map_of_injective Permission.text_injective]
  simp

/-- **The union and the scan agree.** -/
theorem hasPermission_iff_includes (siteId : Uuid) :
    t.hasPermission userId permission workspaceId (some siteId) = true ↔
      (t.getAccessibleSites userId permission workspaceId).Includes siteId := by
  cases huser : t.users userId with
  | none => simp [hasPermission, getEffectivePermissions, getAccessibleSites, huser,
      AccessibleSites.Includes]
  | some user =>
    cases hsystem : user.systemRole with
    | some systemRole =>
      rw [hasPermission_system_iff huser hsystem, getAccessibleSites, huser]
      dsimp only
      rw [hsystem]
      dsimp only
      split_ifs with hpermits <;> simp [AccessibleSites.Includes, hpermits]
    | none =>
      rw [hasPermission_customer_iff huser hsystem, getAccessibleSites, huser]
      dsimp only
      rw [hsystem]
      dsimp only
      rw [includes_scanAssignments]
      simp [Grants]

/-- The list has the sites that the permission is held at. -/
theorem perm_listAccessibleSites (nameLe : String → String → Bool) :
    (t.listAccessibleSites nameLe userId workspaceId permission).Perm
      (t.sites.rows.filter fun site ↦ decide (site.workspaceId = workspaceId) &&
        t.hasPermission userId permission workspaceId (some site.id)) := by
  rw [listAccessibleSites]
  refine (List.perm_insertionSort _ _).trans (List.Perm.of_eq (List.filter_congr fun site _ ↦ ?_))
  congr 1
  rw [Bool.eq_iff_iff, hasPermission_iff_includes]
  cases t.getAccessibleSites userId permission workspaceId <;> simp [AccessibleSites.Includes]

/-- The assignments of a user in a workspace are those of its one membership there. -/
theorem assignmentsOf_eq {m : Membership} (hm : m ∈ t.memberships.rows) (huser : m.userId = userId)
    (hworkspace : m.workspaceId = workspaceId) :
    t.assignmentsOf userId workspaceId = t.roleAssignments m.id := by
  rw [assignmentsOf, roleAssignments]
  refine congrArg _ (List.filter_congr fun a _ ↦ ?_)
  rw [Bool.eq_iff_iff, List.any_eq_true, decide_eq_true_eq]
  constructor
  · rintro ⟨m', hm', hkey⟩
    obtain ⟨hid, huser', hworkspace'⟩ := of_decide_eq_true hkey
    have hsame : m' = m := by
      by_contra hne
      have hclash := t.memberships.clash_eq_false hm' hm hne
      exact absurd hclash (by simp [membershipSchema, huser, huser', hworkspace, hworkspace'])
    rw [← hid, hsame]
  · exact fun hid ↦ ⟨m, hm, decide_eq_true ⟨hid.symm, huser, hworkspace⟩⟩

/-- The loop that sorts memberships by workspace. -/
theorem writesUnder_workspace : WritesUnder id
    (fun (byWorkspace : Uuid → Option (List AssignedRole)) (m : Membership) ↦
      Function.update byWorkspace m.workspaceId (some (t.roleAssignments m.id)))
    Membership.workspaceId fun m ↦ t.roleAssignments m.id where
  self s m := Function.update_self m.workspaceId _ s
  of_ne s _ _ hk := Function.update_of_ne hk _ s

theorem getWorkspaceAccessSummaries_eq {workspaceIds : List Uuid} (h : workspaceId ∈ workspaceIds) :
    t.getWorkspaceAccessSummaries userId workspaceIds workspaceId =
      some (buildWorkspaceAccessSummary (t.assignmentsOf userId workspaceId)) := by
  have hlength : workspaceIds.length ≠ 0 := List.length_pos_of_mem h |>.ne'
  rw [getWorkspaceAccessSummaries]
  dsimp only
  rw [if_pos h, if_pos hlength]
  have hlast := writesUnder_workspace (t := t).view_foldl (t.memberships.rows.filter fun m ↦
    decide (m.userId = userId ∧ m.workspaceId ∈ workspaceIds)) (fun _ ↦ none) workspaceId
  rw [id, id, Option.or_none] at hlast
  rw [hlast]
  cases hfound : lastUnder Membership.workspaceId (t.memberships.rows.filter fun m ↦
      decide (m.userId = userId ∧ m.workspaceId ∈ workspaceIds)) workspaceId with
  | some m =>
    obtain ⟨hm, hkey⟩ := List.mem_filter.mp (List.mem_of_getLast? hfound)
    obtain ⟨hm, huser⟩ := List.mem_filter.mp hm
    rw [assignmentsOf_eq hm (of_decide_eq_true huser).1 (of_decide_eq_true hkey)]
    rfl
  | none =>
    have hnone : t.assignmentsOf userId workspaceId = [] := by
      refine List.eq_nil_iff_forall_not_mem.mpr fun a ha ↦ ?_
      obtain ⟨row, -, ⟨m, hm, -, huser, hworkspace⟩, -⟩ := mem_assignmentsOf.mp ha
      have hmem : m ∈ (t.memberships.rows.filter fun m ↦
          decide (m.userId = userId ∧ m.workspaceId ∈ workspaceIds)).filter fun m ↦
            decide (m.workspaceId = workspaceId) := by
        simp [hm, huser, hworkspace, h]
      exact absurd hmem (List.getLast?_eq_none_iff.mp hfound ▸ List.not_mem_nil)
    rw [hnone]
    rfl

/-! ### The permissions of a directory -/

/-- The directory with the permissions the texts of the roles stand for. -/
def toDirectory (t : AccessTables) : Directory where
  users := t.users
  sites siteId := (t.sites.rows.find? fun site ↦ site.id == siteId).map SiteRow.workspaceId
  roles roleId := (t.roles roleId).map StoredRole.toWorkspaceRole
  memberships := t.memberships
  assignments := t.assignments

/-- A text is that of a permission when the permission is the one it stands for. -/
theorem mem_filterMap_ofText {texts : List String} :
    permission ∈ texts.filterMap Permission.ofText ↔ permission.text ∈ texts := by
  rw [List.mem_filterMap]
  constructor
  · rintro ⟨s, hs, hp⟩
    rwa [Permission.text_of_ofText hp]
  · exact fun h ↦ ⟨_, h, Permission.ofText_text permission⟩

/-- The customer's part of the check in the directory. -/
theorem any_assignmentsOf_toDirectory_iff (siteId : Option Uuid) :
    ((t.toDirectory.assignmentsOf userId workspaceId).any fun a ↦
      (a.siteId.isNone || decide (a.siteId = siteId)) &&
        (t.toDirectory.roles a.roleId).any fun role ↦ decide (permission ∈ role.permissions)) =
          true ↔
      ∃ a ∈ t.assignmentsOf userId workspaceId, (a.siteId = none ∨ a.siteId = siteId) ∧
        permission.text ∈ a.role.permissions := by
  have hroles (roleId : Uuid) (role : WorkspaceRole) : t.toDirectory.roles roleId = some role ↔
      ∃ stored, t.roles roleId = some stored ∧ stored.toWorkspaceRole = role :=
    Option.map_eq_some_iff
  simp only [hroles, List.any_eq_true, Directory.assignmentsOf, List.mem_filter, Bool.and_eq_true,
    Bool.or_eq_true, Option.isNone_iff_eq_none, decide_eq_true_eq, Option.any_eq_true,
    mem_assignmentsOf, Directory.getUserAccess_eq_some_iff, withRole, Option.map_eq_some_iff]
  constructor
  · rintro ⟨row, ⟨hrow, m, ⟨hm, huser, hworkspace⟩, hid⟩, hsite, _, ⟨role, hrole, rfl⟩, hp⟩
    exact ⟨_, ⟨row, hrow, ⟨m, hm, hid.symm, huser, hworkspace⟩, role, hrole, rfl⟩, hsite,
      mem_filterMap_ofText.mp hp⟩
  · rintro ⟨_, ⟨row, hrow, ⟨m, hm, hid, huser, hworkspace⟩, role, hrole, rfl⟩, hsite, hp⟩
    exact ⟨row, ⟨hrow, m, ⟨hm, huser, hworkspace⟩, hid.symm⟩, hsite, _, ⟨role, hrole, rfl⟩,
      mem_filterMap_ofText.mpr hp⟩

/-- A permission is held as it is in the directory. -/
theorem hasPermission_toDirectory (siteId : Option Uuid) :
    t.toDirectory.hasPermission userId permission workspaceId siteId =
      t.hasPermission userId permission workspaceId siteId := by
  have husers : t.toDirectory.users userId = t.users userId := rfl
  rw [Directory.hasPermission, husers]
  cases huser : t.users userId with
  | none => simp [hasPermission, getEffectivePermissions, huser]
  | some user =>
    dsimp only
    rw [Bool.eq_iff_iff]
    cases hsystem : user.systemRole with
    | some systemRole => rw [hasPermission_system_iff huser hsystem, mem_systemRolePermissions]
    | none =>
      rw [hasPermission_customer_iff huser hsystem]
      exact any_assignmentsOf_toDirectory_iff siteId

end AccessTables

/-- **The three paths open the same sites.** The check of a permission at a site agrees with the
sites that are accessible, for every user; the list of sites has each site of the workspace where
the check succeeds once; and the summary of a customer has the sites of `facility:read`. -/
theorem permissionPaths_agree (t : AccessTables) (nameLe : String → String → Bool) :
    (∀ (userId workspaceId : Uuid) (permission : Permission) (siteId : Uuid),
      t.hasPermission userId permission workspaceId (some siteId) = true ↔
        (t.getAccessibleSites userId permission workspaceId).Includes siteId) ∧
    (∀ (userId workspaceId : Uuid) (permission : Permission),
      (t.listAccessibleSites nameLe userId workspaceId permission).Perm
        (t.sites.rows.filter fun site ↦ decide (site.workspaceId = workspaceId) &&
          t.hasPermission userId permission workspaceId (some site.id))) ∧
    ∀ (userId : Uuid) (user : AccountUser), t.users userId = some user →
      user.systemRole = none → ∀ workspaceIds : List Uuid, ∀ workspaceId ∈ workspaceIds,
        ∃ summary, t.getWorkspaceAccessSummaries userId workspaceIds workspaceId = some summary ∧
          ∀ siteId, (summary.access.Includes siteId ↔
              t.hasPermission userId facilityRead workspaceId (some siteId) = true) ∧
            (summary.access.Includes siteId ↔
              (t.getAccessibleSites userId facilityRead workspaceId).Includes siteId) := by
  refine ⟨fun _ _ _ siteId ↦ AccessTables.hasPermission_iff_includes siteId,
    fun _ _ _ ↦ AccessTables.perm_listAccessibleSites nameLe, ?_⟩
  intro userId user huser hcustomer workspaceIds workspaceId hworkspace
  refine ⟨_, AccessTables.getWorkspaceAccessSummaries_eq hworkspace, fun siteId ↦ ?_⟩
  rw [← AccessTables.hasPermission_iff_includes, and_self,
    AccessTables.hasPermission_customer_iff huser hcustomer]
  exact includes_buildWorkspaceAccessSummary _ siteId

/-! ### A customer with a role for one site -/

/-- A workspace of two sites, and a user that may read the facility of one. -/
def oneSiteReader : AccessTables where
  users userId := if userId = 1 then some ⟨.ACTIVE, none, none⟩ else none
  sites := ⟨[⟨20, 50, "Plant"⟩, ⟨21, 50, "Warehouse"⟩], by decide, by decide⟩
  roles roleId :=
    if roleId = 9 then some ⟨50, "Reader", .SITE, ["facility:read", "facility"], false⟩ else none
  memberships := ⟨[⟨7, 1, 50⟩], by decide, by decide⟩
  assignments := ⟨[⟨30, 7, 9, some 20⟩], by decide, by decide⟩

/-- The user may read the one site and not the other, by all three paths. -/
theorem permissionPaths_agree_oneSite :
    ∃ summary, oneSiteReader.getWorkspaceAccessSummaries 1 [50] 50 = some summary ∧
      summary.access.Includes 20 ∧ ¬ summary.access.Includes 21 ∧
      (oneSiteReader.getAccessibleSites 1 facilityRead 50).Includes 20 ∧
      oneSiteReader.hasPermission 1 facilityRead 50 (some 20) = true ∧
      oneSiteReader.hasPermission 1 facilityRead 50 (some 21) = false := by
  obtain ⟨summary, hsummary, hincludes⟩ := (permissionPaths_agree oneSiteReader fun _ _ ↦ true).2.2
    1 ⟨.ACTIVE, none, none⟩ rfl rfl [50] 50 (by decide)
  have hheld : oneSiteReader.hasPermission 1 facilityRead 50 (some 20) = true := by decide
  have hother : oneSiteReader.hasPermission 1 facilityRead 50 (some 21) = false := by decide
  have hsite := (hincludes 20).1.mpr hheld
  refine ⟨summary, hsummary, hsite, fun h ↦ ?_, (hincludes 20).2.mp hsite, hheld, hother⟩
  exact absurd ((hincludes 21).1.mp h) (by simp [hother])

end RwServer
