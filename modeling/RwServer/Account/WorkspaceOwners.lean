import Mathlib
import RwServer.Foundation.Run
import RwServer.Account.Directory

/-!
# The last owner of a workspace

Members are added to a workspace, get another role and are removed, and users are disabled. Each
request passes the checks of its route first: the actor's token, a permission, and that the actor
does not remove or disable itself. That a workspace keeps an active owner is looked at when a role
is replaced, and only then.

`workspaces_keep_an_owner` says what holds when the other requests leave one too.
-/

namespace RwServer

open Relational Transition

/-! ## The actor -/

/-- An access token of a user, as it has been issued. -/
structure AccessToken where
  id : Uuid
  workspaceId : Option Uuid
  siteId : Option Uuid
deriving DecidableEq, Repr

/-- `IAMContext` of a user. -/
structure UserIAM where
  id : Uuid
  workspaceId : Uuid
  siteId : Option Uuid
deriving DecidableEq, Repr

/-- What a request is refused with. -/
inductive Refusal
  | http (status : ℕ) (error : String)
  /-- `{ error: "forbidden", required }`. -/
  | forbidden (required : Permission)
  /-- The database has rolled the transaction back. -/
  | database
deriving DecidableEq, Repr

inductive UpdateRoleErrorCode
  | FORBIDDEN
  | ROLE_NOT_FOUND
  | ROLE_WORKSPACE_MISMATCH
  | MEMBER_NOT_FOUND
  | SITE_CONTEXT_REQUIRED
  | SITE_NOT_FOUND
  | SITE_WORKSPACE_MISMATCH
  | OWNER_PERMISSION_RESERVED
  | OWNER_PERMISSION_REQUIRED
  | LAST_OWNER
deriving DecidableEq, Repr

/-- The status of `PUT /:id/members/:userId` for an error of `updateRole`. -/
def UpdateRoleErrorCode.refuse (code : UpdateRoleErrorCode) (error : String) : Refusal :=
  match code with
  | .FORBIDDEN | .OWNER_PERMISSION_REQUIRED => .http 403 error
  | .MEMBER_NOT_FOUND | .ROLE_NOT_FOUND | .SITE_NOT_FOUND => .http 404 error
  | _ => .http 400 error

/-- A request goes on when a check is passed. -/
theorem exists_ok_of_bind {ε α β : Type*} {x : Except ε α} {f : α → Except ε β} {b : β}
    (h : x.bind f = .ok b) : ∃ a, x = .ok a ∧ f a = .ok b := by
  cases x with
  | error => cases h
  | ok a => exact ⟨a, rfl, h⟩

namespace Directory

variable (d : Directory)

/-- `resolveUserIAM`. -/
def resolveUserIAM (now : Time) (token : AccessToken) : Option UserIAM :=
  match d.users token.id with
  | none => none
  | some user =>
    if user.status ≠ .ACTIVE then none
    else if user.lockedUntil.any fun until_ ↦ decide (now < until_) then none
    else match token.workspaceId with
      | none => none
      | some workspaceId =>
        if d.getUserAccess workspaceId token.id = none then none
        else if token.siteId.any fun siteId ↦ !d.canAccessSite token.id workspaceId siteId then none
        else some ⟨token.id, workspaceId, token.siteId⟩

/-- `verifyAccessToken`. -/
def verifyAccessToken (now : Time) (token : AccessToken) : Except Refusal UserIAM :=
  match d.resolveUserIAM now token with
  | none => .error (.http 401 "Unauthorized")
  | some iam => .ok iam

/-- `requirePermission`, in a workspace and at a site, where there is one. -/
def requirePermission (iam : UserIAM) (permission : Permission) (workspaceId : Uuid)
    (siteId : Option Uuid) : Except Refusal Unit :=
  if d.hasPermission iam.id permission workspaceId siteId then .ok ()
  else .error (.forbidden permission)

/-- Who acts with a token that is accepted: its user, who is active. -/
theorem of_verifyAccessToken {d : Directory} {now : Time} {token : AccessToken} {iam : UserIAM}
    (h : d.verifyAccessToken now token = .ok iam) :
    iam.id = token.id ∧ ∃ user, d.users token.id = some user ∧ user.status = .ACTIVE := by
  rw [verifyAccessToken] at h
  split at h
  · cases h
  rename_i iam' hresolve
  cases h
  rw [resolveUserIAM] at hresolve
  split at hresolve
  · cases hresolve
  rename_i user huser
  split_ifs at hresolve with hactive hlocked
  split at hresolve
  · cases hresolve
  split_ifs at hresolve
  cases hresolve
  exact ⟨rfl, user, huser, not_ne_iff.mp hactive⟩

theorem id_of_verifyAccessToken {d : Directory} {now : Time} {token : AccessToken} {iam : UserIAM}
    (h : d.verifyAccessToken now token = .ok iam) : iam.id = token.id :=
  (of_verifyAccessToken h).1

/-- An actor whose token is accepted is an active user. -/
theorem active_of_verifyAccessToken {d : Directory} {now : Time} {token : AccessToken}
    {iam : UserIAM} (h : d.verifyAccessToken now token = .ok iam) :
    ∃ user, d.users iam.id = some user ∧ user.status = .ACTIVE := by
  rw [id_of_verifyAccessToken h]
  exact (of_verifyAccessToken h).2

/-! ## The services -/

/-- `resolveWorkspaceRole`. -/
def resolveWorkspaceRole (workspaceId roleId : Uuid) : Except Refusal WorkspaceRole :=
  match d.roles roleId with
  | none => .error (.http 400 ("Role " ++ toString roleId ++ " not found"))
  | some role =>
    if role.workspaceId ≠ workspaceId then
      .error (.http 400 ("Role " ++ toString roleId ++ " does not belong to workspace " ++
        toString workspaceId))
    else if role.scope ≠ .WORKSPACE then
      .error (.http 400 ("Role " ++ toString roleId ++
        " is site-scoped; cannot be assigned as workspace membership"))
    else .ok role

/-- `roleAssignment.create`. -/
def createAssignment (assignment : RoleAssignment) : Except Refusal Directory :=
  match d.assignments.insert assignment with
  | none => .error .database
  | some assignments => .ok { d with assignments }

/-- `addMember`; the keys of the new rows are fresh. -/
def addMember (workspaceId userId roleId membershipId assignmentId : Uuid) :
    Except Refusal Directory :=
  (d.resolveWorkspaceRole workspaceId roleId).bind fun _ ↦
    if d.users userId = none then .error .database
    else match d.memberships.insert ⟨membershipId, userId, workspaceId⟩ with
      | none => .error .database
      | some memberships =>
        { d with memberships }.createAssignment ⟨assignmentId, membershipId, roleId, none⟩

/-- `removeMember`; the assignments go with the membership. -/
def removeMember (workspaceId userId : Uuid) : Except Refusal Directory :=
  match d.getUserAccess workspaceId userId with
  | none => .error .database
  | some member =>
    let memberships := d.memberships.delete fun m ↦ decide (m.id = member.id)
    let assignments := d.assignments.delete fun a ↦ decide (a.membershipId = member.id)
    .ok { d with memberships, assignments }

/-- `disable`, of a user that exists. -/
def disable (userId : Uuid) : Directory :=
  { d with
    users := Function.update d.users userId
      ((d.users userId).map fun user ↦ { user with status := .DISABLED }) }

/-- The check of the site of a site role. -/
def checkSite (role : WorkspaceRole) (workspaceId : Uuid) (siteId : Option Uuid) :
    Except Refusal Unit :=
  match role.scope, siteId with
  | .WORKSPACE, _ => .ok ()
  | .SITE, none => .error .database
  | .SITE, some siteId =>
    match d.sites siteId with
    | none => .error (UpdateRoleErrorCode.SITE_NOT_FOUND.refuse "Site not found")
    | some owner =>
      if owner ≠ workspaceId then .error (UpdateRoleErrorCode.SITE_WORKSPACE_MISMATCH.refuse
        "Site does not belong to this workspace")
      else .ok ()

/-- The assignments of a member that a role of its scope replaces. -/
def currentAssignments (member : Membership) (siteId : Option Uuid) : List RoleAssignment :=
  d.assignments.rows.filter fun a ↦ decide (a.membershipId = member.id ∧ a.siteId = siteId)

/-- The transaction of `updateRole`. -/
def replaceRole (actorHasOwnerPermission : Bool) (targetUserId workspaceId : Uuid)
    (siteId : Option Uuid) (roleId : Uuid) (role : WorkspaceRole) (assignmentId : Uuid) :
    Except Refusal Directory :=
  (d.checkSite role workspaceId siteId).bind fun _ ↦
    match d.getUserAccess workspaceId targetUserId with
    | none => .error (UpdateRoleErrorCode.MEMBER_NOT_FOUND.refuse "Member not found")
    | some member =>
      let assignmentSiteId := if role.scope = .SITE then siteId else none
      let currentHasOwnerRole := (d.currentAssignments member assignmentSiteId).any fun a ↦
        (d.roles a.roleId).any WorkspaceRole.isOwnerRole
      if currentHasOwnerRole && !actorHasOwnerPermission then
        .error (UpdateRoleErrorCode.OWNER_PERMISSION_REQUIRED.refuse
          "Missing permission: owner:all")
      else if currentHasOwnerRole && !role.isOwnerRole &&
          (d.remainingOwner workspaceId targetUserId).isNone then
        .error (UpdateRoleErrorCode.LAST_OWNER.refuse "Cannot remove the last workspace owner")
      else
        let assignments := d.assignments.delete fun a ↦
          decide (a.membershipId = member.id ∧ a.siteId = assignmentSiteId)
        { d with assignments }.createAssignment ⟨assignmentId, member.id, roleId, assignmentSiteId⟩

def updateRole (actorUserId targetUserId workspaceId : Uuid) (siteId : Option Uuid)
    (roleId assignmentId : Uuid) : Except Refusal Directory :=
  match d.roles roleId with
  | none => .error (UpdateRoleErrorCode.ROLE_NOT_FOUND.refuse
      ("Role " ++ toString roleId ++ " not found"))
  | some role =>
    let actorHasOwnerPermission := d.hasPermission actorUserId .owner workspaceId none
    if role.workspaceId ≠ workspaceId then
      .error (UpdateRoleErrorCode.ROLE_WORKSPACE_MISMATCH.refuse
        ("Role " ++ toString roleId ++ " does not belong to this workspace"))
    else if role.hasReservedOwnerPermission then
      .error (UpdateRoleErrorCode.OWNER_PERMISSION_RESERVED.refuse
        "owner:all is reserved for workspace system roles")
    else if role.scope = .SITE ∧ siteId = none then
      .error (UpdateRoleErrorCode.SITE_CONTEXT_REQUIRED.refuse
        "Site context is required to assign a site role")
    else if !d.hasAnyPermission actorUserId [.of .user .write, .of .user .admin] workspaceId
        (if role.scope = .SITE then siteId else none) then
      .error (UpdateRoleErrorCode.FORBIDDEN.refuse "Missing user-management permission")
    else if role.isOwnerRole && !actorHasOwnerPermission then
      .error (UpdateRoleErrorCode.OWNER_PERMISSION_REQUIRED.refuse "Missing permission: owner:all")
    else d.replaceRole actorHasOwnerPermission targetUserId workspaceId siteId roleId role
      assignmentId

end Directory

/-! ## The requests -/

/-- A request; the keys of new rows are fresh. -/
inductive MemberRequest
  | addMember (workspaceId userId roleId membershipId assignmentId : Uuid)
  | updateRole (workspaceId targetUserId roleId assignmentId : Uuid)
  | removeMember (workspaceId targetUserId : Uuid)
  | disable (targetUserId : Uuid)
deriving DecidableEq, Repr

structure MemberCall where
  token : AccessToken
  now : Time
  request : MemberRequest
deriving DecidableEq, Repr

namespace Directory

variable (d : Directory)

/-- What the route looks at before it calls the service. -/
def checkRequest (iam : UserIAM) : MemberRequest → Except Refusal Unit
  | .addMember workspaceId userId _ _ _ =>
    (d.requirePermission iam (.of .user .write) workspaceId iam.siteId).bind fun _ ↦
      if (d.getUserAccess workspaceId userId).isSome then
        .error (.http 400 "User is already a member")
      else .ok ()
  | .updateRole workspaceId _ _ _ =>
    if workspaceId ≠ iam.workspaceId then .error (.http 403 "Not in requested workspace context")
    else .ok ()
  | .removeMember workspaceId targetUserId =>
    (d.requirePermission iam (.of .user .admin) workspaceId iam.siteId).bind fun _ ↦
      if (d.getUserAccess workspaceId targetUserId).isNone then
        .error (.http 404 "Member not found")
      else if targetUserId = iam.id then .error (.http 400 "Cannot remove yourself")
      else .ok ()
  | .disable targetUserId =>
    (d.requirePermission iam (.of .user .admin) iam.workspaceId none).bind fun _ ↦
      if (d.users targetUserId).isNone then .error (.http 404 "User not found")
      else if targetUserId = iam.id then .error (.http 400 "Cannot disable yourself")
      else .ok ()

/-- The service that the route calls. -/
def perform (iam : UserIAM) : MemberRequest → Except Refusal Directory
  | .addMember workspaceId userId roleId membershipId assignmentId =>
    d.addMember workspaceId userId roleId membershipId assignmentId
  | .updateRole workspaceId targetUserId roleId assignmentId =>
    d.updateRole iam.id targetUserId workspaceId iam.siteId roleId assignmentId
  | .removeMember workspaceId targetUserId => d.removeMember workspaceId targetUserId
  | .disable targetUserId => .ok (d.disable targetUserId)

/-- The checks of the route, the token's among them. -/
def checkRoute (call : MemberCall) : Except Refusal UserIAM :=
  (d.verifyAccessToken call.now call.token).bind fun iam ↦
    (d.checkRequest iam call.request).bind fun _ ↦ .ok iam

def handle (call : MemberCall) : Except Refusal Directory :=
  (d.checkRoute call).bind fun iam ↦ d.perform iam call.request

end Directory

/-- One request after the other; a refused one changes nothing. -/
def memberStep (call : MemberCall) (d : Directory) : Option Directory :=
  match d.handle call with
  | .ok d' => some d'
  | .error _ => some d

/-- A removal of a member of the workspace, and a disabling of a user, that pass the checks of their
routes come while the workspace has another active owner. -/
def LeavesOwner (workspaceId : Uuid) (d : Directory) (call : MemberCall) : Prop :=
  match call.request with
  | .addMember _ _ _ _ _ | .updateRole _ _ _ _ => True
  | .removeMember from_ targetUserId => from_ = workspaceId → (d.checkRoute call).isOk = true →
      (d.remainingOwner workspaceId targetUserId).isSome = true
  | .disable targetUserId => (d.checkRoute call).isOk = true →
      (d.remainingOwner workspaceId targetUserId).isSome = true

/-! ## What a request does to the owners -/

section

variable {d d' : Directory} {workspaceId : Uuid}

theorem Directory.of_createAssignment {assignment : RoleAssignment}
    (h : d.createAssignment assignment = .ok d') :
    d'.users = d.users ∧ d'.roles = d.roles ∧ d'.memberships = d.memberships ∧
      d'.assignments.rows = d.assignments.rows ++ [assignment] := by
  rw [createAssignment] at h
  split at h
  · cases h
  · rename_i assignments hinsert
    cases h
    exact ⟨rfl, rfl, rfl, Table.rows_of_insert hinsert⟩

/-- A new member takes no owner away. -/
theorem hasActiveOwner_addMember {toWorkspace userId roleId membershipId assignmentId : Uuid}
    (h : d.addMember toWorkspace userId roleId membershipId assignmentId = .ok d')
    (howner : d.HasActiveOwner workspaceId) : d'.HasActiveOwner workspaceId := by
  obtain ⟨-, -, h⟩ := exists_ok_of_bind h
  split_ifs at h
  split at h
  · cases h
  rename_i memberships hinsert
  obtain ⟨husers, hroles, hmemberships, hassignments⟩ := Directory.of_createAssignment h
  obtain ⟨owner, howner⟩ := howner
  refine ⟨owner, howner.of_frame hroles (congrFun husers _) fun m hm _ _ hholds ↦ ⟨?_, ?_⟩⟩
  · rw [hmemberships, Table.rows_of_insert hinsert]
    exact List.mem_append_left _ hm
  · obtain ⟨a, ha, hrest⟩ := hholds
    exact ⟨a, by rw [hassignments]; exact List.mem_append_left _ ha, hrest⟩

/-- What the transaction of `updateRole` has done: the assignments of the scope are replaced by one
of the new role, and an owner role goes only where another owner remains. -/
structure RoleReplaced (d d' : Directory) (targetUserId workspaceId roleId : Uuid)
    (role : WorkspaceRole) (member : Membership) (assignment : RoleAssignment) : Prop where
  role_eq : d.roles roleId = some role
  member_eq : d.getUserAccess workspaceId targetUserId = some member
  membershipId_eq : assignment.membershipId = member.id
  roleId_eq : assignment.roleId = roleId
  siteId_eq : role.scope = .WORKSPACE → assignment.siteId = none
  keeps : (d.currentAssignments member assignment.siteId).any (fun a ↦
      (d.roles a.roleId).any WorkspaceRole.isOwnerRole) = true → role.isOwnerRole = false →
    (d.remainingOwner workspaceId targetUserId).isSome = true
  users_eq : d'.users = d.users
  roles_eq : d'.roles = d.roles
  memberships_eq : d'.memberships = d.memberships
  assignments_eq : d'.assignments.rows = (d.assignments.rows.filter fun a ↦
    !decide (a.membershipId = member.id ∧ a.siteId = assignment.siteId)) ++ [assignment]

/-- The transaction of `updateRole` replaces the assignments of the scope by one of the new role,
where its guards let it. -/
theorem Directory.of_replaceRole {actorHasOwnerPermission : Bool}
    {targetUserId inWorkspace roleId assignmentId : Uuid} {role : WorkspaceRole}
    {siteId assignmentSiteId : Option Uuid}
    (hsite : (if role.scope = .SITE then siteId else none) = assignmentSiteId)
    (h : d.replaceRole actorHasOwnerPermission targetUserId inWorkspace siteId roleId role
      assignmentId = .ok d') :
    ∃ member, d.getUserAccess inWorkspace targetUserId = some member ∧
      ((d.currentAssignments member assignmentSiteId).any (fun a ↦
          (d.roles a.roleId).any WorkspaceRole.isOwnerRole) = true →
        actorHasOwnerPermission = true ∧ (role.isOwnerRole = false →
          (d.remainingOwner inWorkspace targetUserId).isSome = true)) ∧
      d'.users = d.users ∧ d'.roles = d.roles ∧ d'.memberships = d.memberships ∧
      d'.assignments.rows = (d.assignments.rows.filter fun a ↦
          !decide (a.membershipId = member.id ∧ a.siteId = assignmentSiteId)) ++
        [⟨assignmentId, member.id, roleId, assignmentSiteId⟩] := by
  obtain ⟨-, -, h⟩ := exists_ok_of_bind h
  split at h
  · cases h
  rename_i member hmember
  dsimp only at h
  rw [hsite] at h
  split_ifs at h with hpermission hlast
  obtain ⟨husers, hroles, hmemberships, hassignments⟩ := Directory.of_createAssignment h
  refine ⟨member, hmember, fun howner ↦ ⟨?_, fun hnot ↦ ?_⟩, husers, hroles, hmemberships,
    hassignments⟩
  · simpa [howner] using hpermission
  · simpa [howner, hnot, Option.isSome_iff_ne_none] using hlast

theorem roleReplaced_of_replaceRole {actorHasOwnerPermission : Bool}
    {targetUserId inWorkspace roleId assignmentId : Uuid} {role : WorkspaceRole}
    {siteId : Option Uuid} (hrole : d.roles roleId = some role)
    (h : d.replaceRole actorHasOwnerPermission targetUserId inWorkspace siteId roleId role
      assignmentId = .ok d') :
    ∃ member assignment,
      RoleReplaced d d' targetUserId inWorkspace roleId role member assignment := by
  obtain ⟨member, hmember, hkeeps, husers, hroles, hmemberships, hassignments⟩ :=
    Directory.of_replaceRole rfl h
  refine ⟨member, ⟨assignmentId, member.id, roleId, if role.scope = .SITE then siteId else none⟩,
    hrole, hmember, rfl, rfl, fun hworkspace ↦ ?_, fun howner ↦ (hkeeps howner).2, husers, hroles,
    hmemberships, hassignments⟩
  rw [hworkspace]
  rfl

theorem roleReplaced_of_updateRole {actorUserId targetUserId inWorkspace roleId assignmentId : Uuid}
    {siteId : Option Uuid}
    (h : d.updateRole actorUserId targetUserId inWorkspace siteId roleId assignmentId = .ok d') :
    ∃ role member assignment,
      RoleReplaced d d' targetUserId inWorkspace roleId role member assignment := by
  rw [Directory.updateRole] at h
  split at h
  · cases h
  rename_i role hrole
  dsimp only at h
  split_ifs at h
  all_goals exact ⟨role, roleReplaced_of_replaceRole hrole h⟩

section

variable {targetUserId inWorkspace roleId userId : Uuid} {role : WorkspaceRole}
  {member : Membership} {assignment : RoleAssignment}

/-- The assignment is not among those that are replaced. -/
theorem RoleReplaced.mem_assignments
    (h : RoleReplaced d d' targetUserId inWorkspace roleId role member assignment)
    {a : RoleAssignment} (ha : a ∈ d.assignments.rows)
    (hkept : ¬(a.membershipId = member.id ∧ a.siteId = assignment.siteId)) :
    a ∈ d'.assignments.rows := by
  rw [h.assignments_eq, List.mem_append, List.mem_filter]
  exact .inl ⟨ha, by rwa [Bool.not_eq_true', decide_eq_false_iff_not]⟩

theorem RoleReplaced.eq_member
    (h : RoleReplaced d d' targetUserId inWorkspace roleId role member assignment)
    {m : Membership} (hm : m ∈ d.memberships.rows) (hmUser : m.userId = targetUserId)
    (hmWorkspace : m.workspaceId = inWorkspace) : m = member :=
  Option.some.inj
    ((Directory.getUserAccess_eq_some_iff.mpr ⟨hm, hmUser, hmWorkspace⟩).symm.trans h.member_eq)

/-- An owner that is not the target, or is one of another workspace, stays one. -/
theorem RoleReplaced.isActiveOwner_of_ne
    (h : RoleReplaced d d' targetUserId inWorkspace roleId role member assignment)
    (howner : d.IsActiveOwner workspaceId userId)
    (hne : ¬(userId = targetUserId ∧ workspaceId = inWorkspace)) :
    d'.IsActiveOwner workspaceId userId := by
  refine howner.of_frame h.roles_eq (congrFun h.users_eq _) fun m hm hmUser hmWorkspace hholds ↦ ?_
  obtain ⟨a, ha, hmembership, hrest⟩ := hholds
  refine ⟨by rwa [h.memberships_eq], a, h.mem_assignments ha ?_, hmembership, hrest⟩
  rintro ⟨hid, -⟩
  obtain ⟨hmem, hmemberUser, hmemberWorkspace⟩ :=
    Directory.getUserAccess_eq_some_iff.mp h.member_eq
  have heq : m = member := d.memberships.eq_of_key_eq hm hmem (hmembership.symm.trans hid)
  subst heq
  exact hne ⟨hmUser.symm.trans hmemberUser, hmWorkspace.symm.trans hmemberWorkspace⟩

/-- A target that gets an owner role stays an owner. -/
theorem RoleReplaced.isActiveOwner_of_new
    (h : RoleReplaced d d' targetUserId inWorkspace roleId role member assignment)
    (howner : d.IsActiveOwner inWorkspace targetUserId) (hnew : role.isOwnerRole = true) :
    d'.IsActiveOwner inWorkspace targetUserId := by
  refine howner.of_frame h.roles_eq (congrFun h.users_eq _) fun m hm hmUser hmWorkspace _ ↦ ?_
  have heq := h.eq_member hm hmUser hmWorkspace
  refine ⟨by rwa [h.memberships_eq], assignment, ?_, h.membershipId_eq.trans (heq ▸ rfl),
    h.siteId_eq (WorkspaceRole.scope_of_isOwnerRole hnew), role, h.roleId_eq ▸ h.role_eq, hnew⟩
  rw [h.assignments_eq]
  exact List.mem_append_right _ (List.mem_singleton_self _)

/-- A target whose owner role is not replaced stays an owner. -/
theorem RoleReplaced.isActiveOwner_of_kept
    (h : RoleReplaced d d' targetUserId inWorkspace roleId role member assignment)
    (howner : d.IsActiveOwner inWorkspace targetUserId)
    (hnot : (d.currentAssignments member assignment.siteId).any (fun a ↦
      (d.roles a.roleId).any WorkspaceRole.isOwnerRole) = false) :
    d'.IsActiveOwner inWorkspace targetUserId := by
  refine howner.of_frame h.roles_eq (congrFun h.users_eq _) fun m hm hmUser hmWorkspace hholds ↦ ?_
  obtain ⟨a, ha, hmembership, hnone, role', hrole', howns⟩ := hholds
  refine ⟨by rwa [h.memberships_eq], a, h.mem_assignments ha ?_, hmembership, hnone, role', hrole',
    howns⟩
  rintro ⟨hid, hsame⟩
  refine Bool.eq_false_iff.mp hnot (List.any_eq_true.mpr ⟨a, ?_, ?_⟩)
  · exact List.mem_filter.mpr ⟨ha, decide_eq_true ⟨hid, hsame⟩⟩
  · rw [hrole']
    exact howns

end

/-- Another role for a member leaves an owner. -/
theorem hasActiveOwner_updateRole {actorUserId targetUserId inWorkspace roleId assignmentId : Uuid}
    {siteId : Option Uuid}
    (h : d.updateRole actorUserId targetUserId inWorkspace siteId roleId assignmentId = .ok d')
    (howner : d.HasActiveOwner workspaceId) : d'.HasActiveOwner workspaceId := by
  obtain ⟨role, member, assignment, hreplaced⟩ := roleReplaced_of_updateRole h
  obtain ⟨userId, howner⟩ := howner
  by_cases hne : userId = targetUserId ∧ workspaceId = inWorkspace
  · obtain ⟨rfl, rfl⟩ := hne
    by_cases hnew : role.isOwnerRole = true
    · exact ⟨userId, hreplaced.isActiveOwner_of_new howner hnew⟩
    rw [Bool.not_eq_true] at hnew
    by_cases hcurrent : (d.currentAssignments member assignment.siteId).any (fun a ↦
        (d.roles a.roleId).any WorkspaceRole.isOwnerRole) = true
    · obtain ⟨other, hother, howner'⟩ := Directory.isSome_remainingOwner_iff.mp
        (hreplaced.keeps hcurrent hnew)
      exact ⟨other, hreplaced.isActiveOwner_of_ne howner' fun heq ↦ hother heq.1⟩
    · rw [Bool.not_eq_true] at hcurrent
      exact ⟨userId, hreplaced.isActiveOwner_of_kept howner hcurrent⟩
  · exact ⟨userId, hreplaced.isActiveOwner_of_ne howner hne⟩

/-- A removal takes the membership of the member away, and the assignments of no other one. -/
theorem Directory.mem_removeMember {fromWorkspace targetUserId : Uuid}
    (h : d.removeMember fromWorkspace targetUserId = .ok d') :
    (∀ m, m ∈ d'.memberships.rows ↔ m ∈ d.memberships.rows ∧
      ¬(m.userId = targetUserId ∧ m.workspaceId = fromWorkspace)) ∧
    ∀ m ∈ d'.memberships.rows, ∀ a, a.membershipId = m.id →
      (a ∈ d'.assignments.rows ↔ a ∈ d.assignments.rows) := by
  rw [Directory.removeMember] at h
  split at h
  · cases h
  rename_i member hmember
  cases h
  obtain ⟨hmem, hmemberUser, hmemberWorkspace⟩ := Directory.getUserAccess_eq_some_iff.mp hmember
  have hid : ∀ m ∈ d.memberships.rows, (m.id = member.id ↔
      m.userId = targetUserId ∧ m.workspaceId = fromWorkspace) := by
    intro m hm
    constructor
    · intro hid
      rw [d.memberships.eq_of_key_eq hm hmem hid]
      exact ⟨hmemberUser, hmemberWorkspace⟩
    · rintro ⟨hmUser, hmWorkspace⟩
      exact congrArg Membership.id (Option.some.inj
        ((Directory.getUserAccess_eq_some_iff.mpr ⟨hm, hmUser, hmWorkspace⟩).symm.trans hmember))
  have hmemberships : ∀ m, m ∈ (d.memberships.delete fun m ↦ decide (m.id = member.id)).rows ↔
      m ∈ d.memberships.rows ∧ ¬m.id = member.id := by
    intro m
    rw [Table.delete, List.mem_filter, Bool.not_eq_true', decide_eq_false_iff_not]
  refine ⟨fun m ↦ (hmemberships m).trans (and_congr_right fun hm ↦ not_congr (hid m hm)), ?_⟩
  intro m hm a ha
  change a ∈ (d.assignments.delete fun a ↦ decide (a.membershipId = member.id)).rows ↔ _
  rw [Table.delete, List.mem_filter, Bool.not_eq_true', decide_eq_false_iff_not, ha]
  exact and_iff_left ((hmemberships m).mp hm).2

theorem Directory.of_removeMember {fromWorkspace targetUserId : Uuid}
    (h : d.removeMember fromWorkspace targetUserId = .ok d') :
    d'.users = d.users ∧ d'.roles = d.roles := by
  rw [Directory.removeMember] at h
  split at h
  · cases h
  · cases h
    exact ⟨rfl, rfl⟩

/-- After a removal the owners are those that are not the removed member. -/
theorem isActiveOwner_removeMember {fromWorkspace targetUserId userId : Uuid}
    (h : d.removeMember fromWorkspace targetUserId = .ok d') :
    d'.IsActiveOwner workspaceId userId ↔ d.IsActiveOwner workspaceId userId ∧
      ¬(userId = targetUserId ∧ workspaceId = fromWorkspace) := by
  obtain ⟨hmemberships, hassignments⟩ := Directory.mem_removeMember h
  obtain ⟨husers, hroles⟩ := Directory.of_removeMember h
  rw [Directory.IsActiveOwner, Directory.IsActiveOwner, Directory.IsActiveCustomer, husers]
  constructor
  · rintro ⟨m, hm, hmUser, hmWorkspace, hactive, a, ha, hmembership, hsite, hrole⟩
    obtain ⟨hold, hkept⟩ := (hmemberships m).mp hm
    rw [hmUser, hmWorkspace] at hkept
    rw [hroles] at hrole
    exact ⟨⟨m, hold, hmUser, hmWorkspace, hactive, a, (hassignments m hm a hmembership).mp ha,
      hmembership, hsite, hrole⟩, hkept⟩
  · rintro ⟨⟨m, hm, hmUser, hmWorkspace, hactive, a, ha, hmembership, hsite, hrole⟩, hkept⟩
    have hm' : m ∈ d'.memberships.rows := (hmemberships m).mpr ⟨hm, by rwa [hmUser, hmWorkspace]⟩
    rw [← hroles] at hrole
    exact ⟨m, hm', hmUser, hmWorkspace, hactive, a, (hassignments m hm' a hmembership).mpr ha,
      hmembership, hsite, hrole⟩

/-- After a disabling the owners are those that are not the disabled user. -/
theorem isActiveOwner_disable {targetUserId userId : Uuid} :
    (d.disable targetUserId).IsActiveOwner workspaceId userId ↔
      d.IsActiveOwner workspaceId userId ∧ userId ≠ targetUserId := by
  have hactive : (d.disable targetUserId).IsActiveCustomer userId ↔
      d.IsActiveCustomer userId ∧ userId ≠ targetUserId := by
    rw [Directory.IsActiveCustomer, Directory.disable]
    by_cases heq : userId = targetUserId
    · subst heq
      simp
    · simp [heq, Directory.IsActiveCustomer]
  constructor
  · rintro ⟨m, hm, hmUser, hmWorkspace, hcustomer, hholds⟩
    obtain ⟨hcustomer, hne⟩ := hactive.mp hcustomer
    exact ⟨⟨m, hm, hmUser, hmWorkspace, hcustomer, hholds⟩, hne⟩
  · rintro ⟨⟨m, hm, hmUser, hmWorkspace, hcustomer, hholds⟩, hne⟩
    exact ⟨m, hm, hmUser, hmWorkspace, hactive.mpr ⟨hcustomer, hne⟩, hholds⟩

/-! ## Requests in a row -/

/-- What a request that is carried out has passed. -/
theorem Directory.of_handle {call : MemberCall} (h : d.handle call = .ok d') :
    ∃ iam, d.checkRoute call = .ok iam ∧ d.perform iam call.request = .ok d' :=
  exists_ok_of_bind h

theorem memberStep_of_ok {call : MemberCall} (h : d.handle call = .ok d') :
    memberStep call d = some d' := by
  rw [memberStep, h]

/-- A refused request changes nothing. -/
theorem memberStep_cases {call : MemberCall} (h : memberStep call d = some d') :
    d.handle call = .ok d' ∨ (∃ refusal, d.handle call = .error refusal) ∧ d' = d := by
  rw [memberStep] at h
  split at h
  · rename_i hok
    cases h
    exact .inl hok
  · rename_i refusal herror
    cases h
    exact .inr ⟨⟨refusal, herror⟩, rfl⟩

/-- A removal that passes the checks of its route is carried out. -/
theorem handle_removeMember_ne_error {call : MemberCall} {fromWorkspace targetUserId : Uuid}
    {refusal : Refusal} (hrequest : call.request = .removeMember fromWorkspace targetUserId)
    (h : (d.checkRoute call).isOk = true) : d.handle call ≠ .error refusal := by
  rw [Directory.handle]
  cases hroute : d.checkRoute call with
  | error => exact absurd h (by rw [hroute]; exact Bool.false_ne_true)
  | ok iam =>
    obtain ⟨iam', -, hcheck⟩ := exists_ok_of_bind hroute
    obtain ⟨_, hcheck, _⟩ := exists_ok_of_bind hcheck
    rw [hrequest] at hcheck ⊢
    obtain ⟨_, -, hcheck⟩ := exists_ok_of_bind hcheck
    split_ifs at hcheck with hmember
    change d.removeMember fromWorkspace targetUserId ≠ _
    rw [Directory.removeMember]
    split
    · rename_i hnone
      exact absurd (by rw [hnone]; rfl) hmember
    · exact fun heq ↦ (by cases heq)

/-- So is a disabling. -/
theorem handle_disable_ne_error {call : MemberCall} {targetUserId : Uuid} {refusal : Refusal}
    (hrequest : call.request = .disable targetUserId) (h : (d.checkRoute call).isOk = true) :
    d.handle call ≠ .error refusal := by
  rw [Directory.handle]
  cases hroute : d.checkRoute call with
  | error => exact absurd h (by rw [hroute]; exact Bool.false_ne_true)
  | ok iam =>
    rw [hrequest]
    exact fun heq ↦ (by cases heq)

/-- **One request leaves an owner** exactly when it meets the condition. -/
theorem hasActiveOwner_step_iff {call : MemberCall} (howner : d.HasActiveOwner workspaceId)
    (hstep : memberStep call d = some d') :
    d'.HasActiveOwner workspaceId ↔ LeavesOwner workspaceId d call := by
  rcases memberStep_cases hstep with h | ⟨⟨refusal, herror⟩, rfl⟩
  · obtain ⟨iam, hroute, hperform⟩ := Directory.of_handle h
    have haccepted : (d.checkRoute call).isOk = true := by rw [hroute]; rfl
    rw [LeavesOwner]
    cases hrequest : call.request with
    | addMember =>
      rw [hrequest] at hperform
      exact iff_of_true (hasActiveOwner_addMember hperform howner) trivial
    | updateRole =>
      rw [hrequest] at hperform
      exact iff_of_true (hasActiveOwner_updateRole hperform howner) trivial
    | removeMember fromWorkspace targetUserId =>
      rw [hrequest] at hperform
      simp only [haccepted, forall_const, Directory.isSome_remainingOwner_iff,
        Directory.HasActiveOwner, isActiveOwner_removeMember hperform]
      by_cases heq : workspaceId = fromWorkspace
      · simp only [heq, and_true, forall_const]
        exact exists_congr fun userId ↦ and_comm
      · simp only [heq, and_false, not_false_eq_true, and_true]
        exact iff_of_true howner fun heq' ↦ absurd heq'.symm heq
    | disable targetUserId =>
      rw [hrequest] at hperform
      cases hperform
      simp only [haccepted, forall_const, Directory.isSome_remainingOwner_iff,
        Directory.HasActiveOwner, isActiveOwner_disable]
      exact exists_congr fun userId ↦ and_comm
  · refine iff_of_true howner ?_
    rw [LeavesOwner]
    cases hrequest : call.request with
    | addMember | updateRole => trivial
    | removeMember =>
      intro _ haccepted
      exact absurd herror (handle_removeMember_ne_error hrequest haccepted)
    | disable =>
      intro haccepted
      exact absurd herror (handle_disable_ne_error hrequest haccepted)

/-- A customer with an owner role that removes or disables someone is left itself: its token is
accepted only while it is active. -/
theorem leavesOwner_of_owner {call : MemberCall}
    (howner : ∀ iam, d.checkRoute call = .ok iam →
      (∀ user, d.users iam.id = some user → user.systemRole = none) ∧
        ∃ m ∈ d.memberships.rows, m.userId = iam.id ∧ m.workspaceId = workspaceId ∧
          d.HoldsOwnerRole m.id) :
    LeavesOwner workspaceId d call := by
  have hother : ∀ {targetUserId}, (∀ iam, d.checkRequest iam call.request = .ok () →
      targetUserId ≠ iam.id) → (d.checkRoute call).isOk = true →
        (d.remainingOwner workspaceId targetUserId).isSome = true := by
    intro targetUserId hself haccepted
    cases hroute : d.checkRoute call with
    | error => exact absurd haccepted (by rw [hroute]; exact Bool.false_ne_true)
    | ok iam =>
      obtain ⟨iam', htoken, hcheck⟩ := exists_ok_of_bind hroute
      obtain ⟨_, hcheck, heq⟩ := exists_ok_of_bind hcheck
      cases heq
      obtain ⟨user, huser, hactive⟩ := Directory.active_of_verifyAccessToken htoken
      obtain ⟨hcustomer, m, hm, hmUser, hmWorkspace, hholds⟩ := howner iam hroute
      exact Directory.isSome_remainingOwner_iff.mpr ⟨iam.id, (hself iam hcheck).symm,
        m, hm, hmUser, hmWorkspace, ⟨user, huser, hactive, hcustomer user huser⟩, hholds⟩
  rw [LeavesOwner]
  cases hrequest : call.request with
  | addMember | updateRole => trivial
  | removeMember fromWorkspace targetUserId =>
    refine fun _ ↦ hother fun iam hcheck ↦ ?_
    rw [hrequest] at hcheck
    obtain ⟨_, -, hcheck⟩ := exists_ok_of_bind hcheck
    split_ifs at hcheck with _ hself
    exact hself
  | disable targetUserId =>
    refine hother fun iam hcheck ↦ ?_
    rw [hrequest] at hcheck
    obtain ⟨_, -, hcheck⟩ := exists_ok_of_bind hcheck
    split_ifs at hcheck with _ hself
    exact hself

/-- **A workspace keeps an active owner** through any sequence of requests in which every removal
and every disabling that is accepted leaves one. -/
theorem workspaces_keep_an_owner {calls : List MemberCall} (howner : d.HasActiveOwner workspaceId)
    (hrun : Run memberStep (LeavesOwner workspaceId) d calls d') :
    d'.HasActiveOwner workspaceId := by
  induction hrun with
  | nil => exact howner
  | snoc _ hok hstep ih => exact (hasActiveOwner_step_iff ih hstep).mpr hok

end

/-! ## Two workspaces -/

instance decidableLeavesOwner (workspaceId : Uuid) (d : Directory) :
    ∀ call, Decidable (LeavesOwner workspaceId d call)
  | ⟨_, _, .addMember _ _ _ _ _⟩ => isTrue trivial
  | ⟨_, _, .updateRole _ _ _ _⟩ => isTrue trivial
  | ⟨token, now, .removeMember from_ targetUserId⟩ =>
    inferInstanceAs (Decidable (from_ = workspaceId →
      (d.checkRoute ⟨token, now, .removeMember from_ targetUserId⟩).isOk = true →
        (d.remainingOwner workspaceId targetUserId).isSome = true))
  | ⟨token, now, .disable targetUserId⟩ =>
    inferInstanceAs (Decidable ((d.checkRoute ⟨token, now, .disable targetUserId⟩).isOk = true →
      (d.remainingOwner workspaceId targetUserId).isSome = true))

/-- Users 10 and 20 own the workspaces 1 and 2, and user 11 administers the users of the first. -/
def twoWorkspaces : Directory where
  users id := if id = 10 ∨ id = 11 ∨ id = 20 then some ⟨.ACTIVE, none, none⟩ else none
  sites _ := none
  roles
    | 1 => some ⟨1, .WORKSPACE, [.of .user .read, .of .user .write, .of .user .admin, .owner], true⟩
    | 2 => some ⟨2, .WORKSPACE, [.of .user .read, .of .user .write, .of .user .admin, .owner], true⟩
    | 3 => some ⟨1, .WORKSPACE, [.of .user .admin], false⟩
    | _ => none
  memberships := (Table.empty membershipSchema).insertMissingAll
    [⟨100, 10, 1⟩, ⟨101, 11, 1⟩, ⟨200, 20, 2⟩]
  assignments := (Table.empty assignmentSchema).insertMissingAll
    [⟨1000, 100, 1, none⟩, ⟨1001, 101, 3, none⟩, ⟨2000, 200, 2, none⟩]

/-- The first workspace is owned at the start. -/
theorem hasActiveOwner_twoWorkspaces : twoWorkspaces.HasActiveOwner 1 := by
  obtain ⟨userId, -, howner⟩ := Directory.isSome_remainingOwner_iff.mp
    (show (twoWorkspaces.remainingOwner 1 11).isSome = true by decide +kernel)
  exact ⟨userId, howner⟩

/-- The owner removes the other member, and does not get rid of its own role. -/
theorem workspaces_keep_an_owner_alone : ∃ d : Directory,
    Run memberStep (LeavesOwner 1) twoWorkspaces
      [⟨⟨10, some 1, none⟩, 0, .removeMember 1 11⟩,
        ⟨⟨10, some 1, none⟩, 1, .updateRole 1 10 3 1002⟩]
      d ∧ d.HasActiveOwner 1 := by
  obtain ⟨d, hd⟩ := Option.isSome_iff_exists.mp (show (execute memberStep (LeavesOwner 1)
    [⟨⟨10, some 1, none⟩, 0, .removeMember 1 11⟩, ⟨⟨10, some 1, none⟩, 1, .updateRole 1 10 3 1002⟩]
    twoWorkspaces).isSome = true by decide +kernel)
  exact ⟨d, run_of_execute hd,
    workspaces_keep_an_owner hasActiveOwner_twoWorkspaces (run_of_execute hd)⟩

/-- The only owner of a workspace is disabled by the owner of another one, or removed by a member
that is no owner. -/
theorem not_workspaces_keep_an_owner : twoWorkspaces.HasActiveOwner 1 ∧
    ∀ call ∈ [(⟨⟨20, some 2, none⟩, 0, .disable 10⟩ : MemberCall),
        ⟨⟨11, some 1, none⟩, 0, .removeMember 1 10⟩],
      ∃ d : Directory, twoWorkspaces.handle call = .ok d ∧
        Run memberStep (fun _ _ ↦ True) twoWorkspaces [call] d ∧ ¬d.HasActiveOwner 1 := by
  refine ⟨hasActiveOwner_twoWorkspaces, ?_⟩
  have hall : ∀ call ∈ [(⟨⟨20, some 2, none⟩, 0, .disable 10⟩ : MemberCall),
      ⟨⟨11, some 1, none⟩, 0, .removeMember 1 10⟩],
      (twoWorkspaces.handle call).isOk = true ∧ ¬LeavesOwner 1 twoWorkspaces call := by
    decide +kernel
  intro call hcall
  obtain ⟨hisOk, hnot⟩ := hall call hcall
  cases hhandle : twoWorkspaces.handle call with
  | error => exact absurd hisOk (by rw [hhandle]; exact Bool.false_ne_true)
  | ok d =>
    have hstep := memberStep_of_ok hhandle
    exact ⟨d, rfl, Run.snoc .nil trivial hstep,
      fun howner ↦ hnot ((hasActiveOwner_step_iff hasActiveOwner_twoWorkspaces hstep).mp howner)⟩

end RwServer
