import Mathlib
import RwServer.Foundation.Run
import RwServer.Account.WorkspaceOwners

/-!
# Who makes an owner

A user holds `owner:all` in a workspace by a role that is assigned to it for the whole workspace.
An invitation and a new role for a member look whether the actor holds it, too, where the role that
is given or taken has it. Adding a member and removing one ask for a permission to manage users, and
for nothing else.

`only_owners_change_owners` says which requests by others leave the owners of a workspace as they
are.
-/

namespace RwServer

open Relational Transition

/-! ## Invitations -/

/-- The columns of an invitation in the row of its user. -/
structure Invitation where
  inviteTokenHash : String
  inviteTokenExpiry : Time
  inviteAttempts : ℕ
  invitedBy : Uuid
  invitedAt : Time
deriving DecidableEq, Repr

/-- The directory, with the emails of the users and their invitations. -/
structure InviteDirectory extends Directory where
  byEmail : String → Option Uuid
  invitations : Uuid → Option Invitation

/-- The body of `POST /users/invite`. -/
structure InviteBody where
  email : String
  roleId : Option Uuid
  siteId : Option Uuid
deriving DecidableEq, Repr

/-- What is drawn for an invitation: the hash of the token, and the keys of new rows. -/
structure InviteDraw where
  inviteTokenHash : String
  userId : Uuid
  membershipId : Uuid
  assignmentId : Uuid
deriving DecidableEq, Repr

structure InviteAssignment where
  roleId : Uuid
  siteId : Option Uuid
  scope : RoleScope
  isOwner : Bool
deriving DecidableEq, Repr

/-- `inviteTokenExpiryMs`. -/
def inviteTokenExpiryMs : Time := 7 * 24 * 60 * 60 * 1000

namespace Directory

variable (d : Directory)

/-- `resolveInviteAssignment`. -/
def resolveInviteAssignment (workspaceId : Uuid) (roleId siteId fallbackSiteId : Option Uuid) :
    Except Refusal InviteAssignment :=
  match roleId with
  | none => .error (.http 400 "roleId is required")
  | some roleId =>
    match d.roles roleId with
    | none => .error (.http 400 "Role not found")
    | some role =>
      if role.workspaceId ≠ workspaceId then
        .error (.http 400 "Role does not belong to this workspace")
      else if role.hasOwnerPermission && (!role.isSystem || decide (role.scope ≠ .WORKSPACE)) then
        .error (.http 400 "owner:all is reserved for workspace system roles")
      else if role.scope = .WORKSPACE then
        if siteId.isSome then
          .error (.http 400 "siteId cannot be used with a workspace-scoped role")
        else .ok ⟨roleId, none, .WORKSPACE, role.hasOwnerPermission⟩
      else match siteId.or fallbackSiteId with
        | none => .error (.http 400 "siteId is required for site-scoped invite roles")
        | some siteId =>
          match d.sites siteId with
          | none => .error (.http 400 "Site not found")
          | some owner =>
            if owner ≠ workspaceId then
              .error (.http 400 "Site does not belong to this workspace")
            else .ok ⟨roleId, some siteId, .SITE, false⟩

/-- `canInviteAssignment`. -/
def canInviteAssignment (inviterId workspaceId : Uuid) (assignment : InviteAssignment) : Bool :=
  if assignment.isOwner then d.hasPermission inviterId .owner workspaceId none
  else d.hasPermission inviterId (.of .user .write) workspaceId assignment.siteId

/-- `canResendPendingInvite`. -/
def canResendPendingInvite (inviterId workspaceId pendingUserId : Uuid) : Bool :=
  let assignments := d.assignmentsOf pendingUserId workspaceId
  if assignments.isEmpty then false
  else if assignments.any fun a ↦ (d.roles a.roleId).any WorkspaceRole.hasOwnerPermission then
    d.hasPermission inviterId .owner workspaceId none
  else assignments.any fun a ↦ d.hasPermission inviterId (.of .user .write) workspaceId a.siteId

end Directory

namespace InviteDirectory

variable (toLowerCase : String → String) (s : InviteDirectory)

/-- The transaction for a new user. -/
def insertInvited (email : String) (workspaceId : Uuid) (assignment : InviteAssignment)
    (draw : InviteDraw) (invitation : Invitation) : Except Refusal InviteDirectory :=
  if (s.users draw.userId).isSome then .error .database
  else match s.memberships.insert ⟨draw.membershipId, draw.userId, workspaceId⟩ with
    | none => .error .database
    | some memberships =>
      let users := Function.update s.users draw.userId (some ⟨.PENDING, none, none⟩)
      ({ s.toDirectory with users, memberships }.createAssignment
        ⟨draw.assignmentId, draw.membershipId, assignment.roleId, assignment.siteId⟩).map fun d ↦
          { toDirectory := d
            byEmail := Function.update s.byEmail email (some draw.userId)
            invitations := Function.update s.invitations draw.userId (some invitation) }

/-- `createInvite`. -/
def createInvite (now : Time) (iam : UserIAM) (body : InviteBody) (draw : InviteDraw) :
    Except Refusal InviteDirectory :=
  let email := toLowerCase body.email
  let invitation : Invitation :=
    ⟨draw.inviteTokenHash, now + inviteTokenExpiryMs, 0, iam.id, now⟩
  match (s.byEmail email).bind fun userId ↦ (s.users userId).map fun user ↦ (userId, user) with
  | some (userId, user) =>
    if user.systemRole.isSome then
      .error (.http 400 "Cannot invite a system user to a workspace")
    else if user.status = .ACTIVE then
      .error (.http 400 "User with this email already exists")
    else if !s.canResendPendingInvite iam.id iam.workspaceId userId then
      .error (.http 403 "Forbidden")
    else .ok { s with invitations := Function.update s.invitations userId (some invitation) }
  | none =>
    (s.resolveInviteAssignment iam.workspaceId body.roleId body.siteId iam.siteId).bind
      fun assignment ↦
        if !s.canInviteAssignment iam.id iam.workspaceId assignment then
          .error (.http 403 "Forbidden")
        else s.insertInvited email iam.workspaceId assignment draw invitation

end InviteDirectory

/-! ## The requests -/

inductive TeamRequest
  | member (request : MemberRequest)
  | invite (body : InviteBody) (draw : InviteDraw)
deriving DecidableEq, Repr

structure TeamCall where
  token : AccessToken
  now : Time
  request : TeamRequest
deriving DecidableEq, Repr

namespace InviteDirectory

variable (toLowerCase : String → String) (s : InviteDirectory)

def handleTeam (call : TeamCall) : Except Refusal InviteDirectory :=
  match call.request with
  | .member request => (s.handle ⟨call.token, call.now, request⟩).map fun d ↦
      { s with toDirectory := d }
  | .invite body draw => (s.verifyAccessToken call.now call.token).bind fun iam ↦
      s.createInvite toLowerCase call.now iam body draw

end InviteDirectory

/-- One request after the other; a refused one changes nothing. -/
def teamStep (toLowerCase : String → String) (call : TeamCall) (s : InviteDirectory) :
    Option InviteDirectory :=
  match s.handleTeam toLowerCase call with
  | .ok s' => some s'
  | .error _ => some s

/-! ## Who holds `owner:all` -/

namespace Directory

variable (d : Directory)

/-- The user holds `owner:all` in the workspace. -/
def HoldsOwner (workspaceId userId : Uuid) : Prop :=
  d.hasPermission userId .owner workspaceId none = true

instance decidableHoldsOwner (workspaceId userId : Uuid) :
    Decidable (d.HoldsOwner workspaceId userId) :=
  inferInstanceAs (Decidable (_ = true))

/-- The user is there, and is no internal staff. -/
def IsCustomer (userId : Uuid) : Prop := ∃ user, d.users userId = some user ∧ user.systemRole = none

instance decidableIsCustomer (userId : Uuid) : Decidable (d.IsCustomer userId) :=
  decidable_of_iff ((d.users userId).any (fun user ↦ decide (user.systemRole = none)) = true)
    (by simp [IsCustomer, Option.any_eq_true])

/-- The membership has a role with `owner:all` for the whole workspace. -/
def GrantsOwner (membershipId : Uuid) : Prop :=
  ∃ a ∈ d.assignments.rows, a.membershipId = membershipId ∧ a.siteId = none ∧
    ∃ role, d.roles a.roleId = some role ∧ role.hasOwnerPermission = true

/-- The foreign keys of the database. -/
structure Linked : Prop where
  users : ∀ m ∈ d.memberships.rows, (d.users m.userId).isSome = true
  memberships : ∀ a ∈ d.assignments.rows, ∃ m ∈ d.memberships.rows, m.id = a.membershipId

variable {d}

theorem holdsOwner_iff {workspaceId userId : Uuid} : d.HoldsOwner workspaceId userId ↔
    d.IsCustomer userId ∧ ∃ m ∈ d.memberships.rows, m.userId = userId ∧
      m.workspaceId = workspaceId ∧ d.GrantsOwner m.id := by
  rw [HoldsOwner, hasPermission]
  cases huser : d.users userId with
  | none => simp [IsCustomer, huser]
  | some user =>
    cases hsystem : user.systemRole with
    | some systemRole => cases systemRole <;> simp [IsCustomer, huser, hsystem, SystemRole.permits]
    | none =>
      have hcustomer : d.IsCustomer userId := ⟨user, huser, hsystem⟩
      simp only [hsystem, hcustomer, true_and, assignmentsOf, List.any_eq_true, List.mem_filter,
        Option.any_eq_true, decide_eq_true_eq, Bool.and_eq_true, Option.isNone_iff_eq_none,
        Bool.or_eq_true, or_self]
      constructor
      · rintro ⟨a, ⟨ha, m, hm, hmembership⟩, hsite, role, hrole, howns⟩
        obtain ⟨hmem, hmUser, hmWorkspace⟩ := getUserAccess_eq_some_iff.mp hm
        exact ⟨m, hmem, hmUser, hmWorkspace, a, ha, hmembership, hsite, role, hrole,
          decide_eq_true howns⟩
      · rintro ⟨m, hmem, hmUser, hmWorkspace, a, ha, hmembership, hsite, role, hrole, howns⟩
        exact ⟨a, ⟨ha, m, getUserAccess_eq_some_iff.mpr ⟨hmem, hmUser, hmWorkspace⟩, hmembership⟩,
          hsite, role, hrole, of_decide_eq_true howns⟩

/-- The user has an owner role for the whole workspace. -/
def holdsOwnerRole (d : Directory) (workspaceId userId : Uuid) : Bool :=
  (d.getUserAccess workspaceId userId).any fun m ↦ (d.currentAssignments m none).any fun a ↦
    (d.roles a.roleId).any WorkspaceRole.isOwnerRole

variable {d' : Directory} {workspaceId userId : Uuid}

/-- The owners depend on the memberships of the workspace and their roles only. -/
theorem holdsOwner_congr (hcustomer : d'.IsCustomer userId ↔ d.IsCustomer userId)
    (hgrants : ∀ m : Membership, m.userId = userId → m.workspaceId = workspaceId →
      (m ∈ d'.memberships.rows ∧ d'.GrantsOwner m.id ↔
        m ∈ d.memberships.rows ∧ d.GrantsOwner m.id)) :
    d'.HoldsOwner workspaceId userId ↔ d.HoldsOwner workspaceId userId := by
  rw [holdsOwner_iff, holdsOwner_iff, hcustomer]
  refine and_congr_right fun _ ↦ ⟨?_, ?_⟩
  · rintro ⟨m, hm, hmUser, hmWorkspace, hgrant⟩
    obtain ⟨hm, hgrant⟩ := (hgrants m hmUser hmWorkspace).mp ⟨hm, hgrant⟩
    exact ⟨m, hm, hmUser, hmWorkspace, hgrant⟩
  · rintro ⟨m, hm, hmUser, hmWorkspace, hgrant⟩
    obtain ⟨hm, hgrant⟩ := (hgrants m hmUser hmWorkspace).mpr ⟨hm, hgrant⟩
    exact ⟨m, hm, hmUser, hmWorkspace, hgrant⟩

/-- The same users hold `owner:all`. -/
def SameOwners (workspaceId : Uuid) (d d' : Directory) : Prop :=
  ∀ userId, d'.HoldsOwner workspaceId userId ↔ d.HoldsOwner workspaceId userId

/-- What a request has done that makes one member, with one role. -/
structure MemberAdded (d d' : Directory) (member : Membership) (a : RoleAssignment)
    (role : WorkspaceRole) : Prop where
  id_fresh : ∀ m ∈ d.memberships.rows, m.id ≠ member.id
  not_member : ∀ m ∈ d.memberships.rows,
    ¬(m.userId = member.userId ∧ m.workspaceId = member.workspaceId)
  role_eq : d.roles a.roleId = some role
  membershipId_eq : a.membershipId = member.id
  exists_user : (d'.users member.userId).isSome = true
  /-- The users that were there before are there, and staff is staff. -/
  users_kept : ∀ id user, d.users id = some user →
    ∃ user', d'.users id = some user' ∧ user'.systemRole = user.systemRole
  roles_eq : d'.roles = d.roles
  memberships_eq : d'.memberships.rows = d.memberships.rows ++ [member]
  assignments_eq : d'.assignments.rows = d.assignments.rows ++ [a]

section

variable {member : Membership} {a : RoleAssignment} {role : WorkspaceRole}

theorem MemberAdded.linked (h : MemberAdded d d' member a role) (hlinked : d.Linked) :
    d'.Linked where
  users m hm := by
    rw [h.memberships_eq, List.mem_append, List.mem_singleton] at hm
    rcases hm with hm | rfl
    · obtain ⟨user, huser⟩ := Option.isSome_iff_exists.mp (hlinked.users m hm)
      obtain ⟨user', huser', -⟩ := h.users_kept m.userId user huser
      rw [huser']
      rfl
    · exact h.exists_user
  memberships b hb := by
    rw [h.assignments_eq, List.mem_append, List.mem_singleton] at hb
    rw [h.memberships_eq]
    rcases hb with hb | rfl
    · obtain ⟨m, hm, hid⟩ := hlinked.memberships b hb
      exact ⟨m, List.mem_append_left _ hm, hid⟩
    · exact ⟨member, List.mem_append_right _ (List.mem_singleton_self _), h.membershipId_eq.symm⟩

theorem MemberAdded.isCustomer_iff (h : MemberAdded d d' member a role)
    (huser : (d.users userId).isSome = true) : d'.IsCustomer userId ↔ d.IsCustomer userId := by
  obtain ⟨user, huser⟩ := Option.isSome_iff_exists.mp huser
  obtain ⟨user', huser', hsystem⟩ := h.users_kept userId user huser
  simp only [IsCustomer, huser, huser', Option.some.injEq, exists_eq_left', hsystem]

/-- The roles of the other memberships stay. -/
theorem MemberAdded.grantsOwner_iff (h : MemberAdded d d' member a role) {membershipId : Uuid}
    (hne : membershipId ≠ member.id) :
    d'.GrantsOwner membershipId ↔ d.GrantsOwner membershipId := by
  rw [GrantsOwner, GrantsOwner, h.roles_eq, h.assignments_eq]
  constructor
  · rintro ⟨b, hb, hmembership, hrest⟩
    rcases List.mem_append.mp hb with hb | hb
    · exact ⟨b, hb, hmembership, hrest⟩
    · rw [List.mem_singleton.mp hb, h.membershipId_eq] at hmembership
      exact absurd hmembership.symm hne
  · rintro ⟨b, hb, hrest⟩
    exact ⟨b, List.mem_append_left _ hb, hrest⟩

/-- The new membership has no role but the new one. -/
theorem MemberAdded.grantsOwner_self (h : MemberAdded d d' member a role) (hlinked : d.Linked) :
    d'.GrantsOwner member.id ↔ a.siteId = none ∧ role.hasOwnerPermission = true := by
  rw [GrantsOwner, h.roles_eq, h.assignments_eq]
  constructor
  · rintro ⟨b, hb, hmembership, hsite, role', hrole', howns⟩
    rcases List.mem_append.mp hb with hb | hb
    · obtain ⟨m, hm, hid⟩ := hlinked.memberships b hb
      exact absurd (hid.trans hmembership) (h.id_fresh m hm)
    · rw [List.mem_singleton.mp hb] at hsite hrole'
      cases Option.some.inj (hrole'.symm.trans h.role_eq)
      exact ⟨hsite, howns⟩
  · rintro ⟨hsite, howns⟩
    exact ⟨a, List.mem_append_right _ (List.mem_singleton_self _), h.membershipId_eq, hsite, role,
      h.role_eq, howns⟩

/-- **A new member is an owner** if its role has `owner:all`, and the others are owners as
before. -/
theorem MemberAdded.holdsOwner_iff (h : MemberAdded d d' member a role) (hlinked : d.Linked) :
    d'.HoldsOwner workspaceId userId ↔ d.HoldsOwner workspaceId userId ∨
      ((userId = member.userId ∧ workspaceId = member.workspaceId) ∧ d'.IsCustomer userId ∧
        a.siteId = none ∧ role.hasOwnerPermission = true) := by
  rw [Directory.holdsOwner_iff, Directory.holdsOwner_iff]
  constructor
  · rintro ⟨hcustomer, m, hm, hmUser, hmWorkspace, hgrant⟩
    rw [h.memberships_eq, List.mem_append, List.mem_singleton] at hm
    rcases hm with hm | rfl
    · rw [h.isCustomer_iff (hmUser ▸ hlinked.users m hm)] at hcustomer
      exact .inl ⟨hcustomer, m, hm, hmUser, hmWorkspace,
        (h.grantsOwner_iff (h.id_fresh m hm)).mp hgrant⟩
    · exact .inr ⟨⟨hmUser.symm, hmWorkspace.symm⟩, hcustomer,
        (h.grantsOwner_self hlinked).mp hgrant⟩
  · rintro (⟨hcustomer, m, hm, hmUser, hmWorkspace, hgrant⟩ | ⟨⟨rfl, rfl⟩, hcustomer, howner⟩)
    · rw [← h.isCustomer_iff (hmUser ▸ hlinked.users m hm)] at hcustomer
      exact ⟨hcustomer, m, by rw [h.memberships_eq]; exact List.mem_append_left _ hm, hmUser,
        hmWorkspace, (h.grantsOwner_iff (h.id_fresh m hm)).mpr hgrant⟩
    · exact ⟨hcustomer, member,
        by rw [h.memberships_eq]; exact List.mem_append_right _ (List.mem_singleton_self _),
        rfl, rfl, (h.grantsOwner_self hlinked).mpr howner⟩

theorem MemberAdded.sameOwners_iff (h : MemberAdded d d' member a role) (hlinked : d.Linked) :
    SameOwners workspaceId d d' ↔ ¬(member.workspaceId = workspaceId ∧
      d'.IsCustomer member.userId ∧ a.siteId = none ∧ role.hasOwnerPermission = true) := by
  constructor
  · rintro hsame ⟨rfl, hcustomer, howner⟩
    have hnew := (hsame member.userId).mp
      ((h.holdsOwner_iff hlinked).mpr (.inr ⟨⟨rfl, rfl⟩, hcustomer, howner⟩))
    obtain ⟨-, m, hm, hmUser, hmWorkspace, -⟩ := Directory.holdsOwner_iff.mp hnew
    exact h.not_member m hm ⟨hmUser, hmWorkspace⟩
  · intro hnot userId
    rw [h.holdsOwner_iff hlinked]
    refine or_iff_left ?_
    rintro ⟨⟨rfl, rfl⟩, howner⟩
    exact hnot ⟨rfl, howner⟩

end

/-! ### Adding a member -/

theorem roles_of_resolveWorkspaceRole {roleId : Uuid} {role : WorkspaceRole}
    (h : d.resolveWorkspaceRole workspaceId roleId = .ok role) : d.roles roleId = some role := by
  rw [resolveWorkspaceRole] at h
  split at h
  · cases h
  · rename_i found hfound
    split_ifs at h
    cases h
    exact hfound

theorem memberAdded_of_addMember {roleId membershipId assignmentId : Uuid}
    (h : d.addMember workspaceId userId roleId membershipId assignmentId = .ok d') :
    ∃ role, MemberAdded d d' ⟨membershipId, userId, workspaceId⟩
      ⟨assignmentId, membershipId, roleId, none⟩ role ∧ d'.users = d.users := by
  obtain ⟨role, hrole, h⟩ := exists_ok_of_bind h
  split_ifs at h with hnone
  split at h
  · cases h
  rename_i memberships hinsert
  obtain ⟨husers, hroles, hmemberships, hassignments⟩ := of_createAssignment h
  obtain ⟨hkey, hclash, hrows⟩ := Table.insert_eq_some_iff.mp hinsert
  refine ⟨role, ⟨fun m hm hid ↦ hkey (List.mem_map.mpr ⟨m, hm, hid⟩), fun m hm hsame ↦ ?_,
    roles_of_resolveWorkspaceRole hrole, rfl, ?_, fun id user huser ↦ ⟨user, ?_, rfl⟩, hroles, ?_,
    hassignments⟩, husers⟩
  · exact of_decide_eq_false (hclash m hm) hsame
  · rw [husers]
    exact Option.isSome_iff_ne_none.mpr hnone
  · rwa [husers]
  · rw [hmemberships, hrows]

/-! ### Inviting a user -/

/-- An invitation for a role knows whether it has `owner:all`. -/
theorem role_of_resolveInviteAssignment {roleId siteId fallbackSiteId : Option Uuid}
    {assignment : InviteAssignment}
    (h : d.resolveInviteAssignment workspaceId roleId siteId fallbackSiteId = .ok assignment) :
    ∃ role, d.roles assignment.roleId = some role ∧
      assignment.isOwner = role.hasOwnerPermission := by
  unfold resolveInviteAssignment at h
  split at h
  · cases h
  rename_i roleId
  split at h
  · cases h
  rename_i role hrole
  split_ifs at h with _ hreserved hscope hsite
  · cases h
    exact ⟨role, hrole, rfl⟩
  · split at h
    · cases h
    split at h
    · cases h
    split_ifs at h
    cases h
    refine ⟨role, hrole, ?_⟩
    simpa [hscope] using hreserved

end Directory

theorem InviteDirectory.memberAdded_of_insertInvited {s s' : InviteDirectory} {email : String}
    {workspaceId : Uuid} {assignment : InviteAssignment} {draw : InviteDraw}
    {invitation : Invitation} {role : WorkspaceRole}
    (hrole : s.roles assignment.roleId = some role)
    (h : s.insertInvited email workspaceId assignment draw invitation = .ok s') :
    Directory.MemberAdded s.toDirectory s'.toDirectory
      ⟨draw.membershipId, draw.userId, workspaceId⟩
      ⟨draw.assignmentId, draw.membershipId, assignment.roleId, assignment.siteId⟩ role := by
  rw [insertInvited] at h
  split_ifs at h with hnew
  split at h
  · cases h
  rename_i memberships hinsert
  dsimp only at h
  generalize hcreate : Directory.createAssignment _ _ = created at h
  cases created with
  | error => cases h
  | ok d' =>
    cases h
    obtain ⟨husers, hroles, hmemberships, hassignments⟩ := Directory.of_createAssignment hcreate
    obtain ⟨hkey, hclash, hrows⟩ := Table.insert_eq_some_iff.mp hinsert
    refine ⟨fun m hm hid ↦ hkey (List.mem_map.mpr ⟨m, hm, hid⟩), fun m hm hsame ↦ ?_, hrole, rfl,
      ?_, fun id user huser ↦ ⟨user, ?_, rfl⟩, hroles, ?_, hassignments⟩
    · exact of_decide_eq_false (hclash m hm) hsame
    · simp [husers]
    · rw [husers]
      refine (Function.update_of_ne ?_ ..).trans huser
      rintro rfl
      rw [huser] at hnew
      exact hnew rfl
    · rw [hmemberships, hrows]

namespace Directory

variable {d d' : Directory} {workspaceId userId : Uuid}

/-! ### Another role for a member -/

/-- The guards of `updateRole`. -/
theorem of_updateRole {actorUserId targetUserId roleId assignmentId : Uuid} {siteId : Option Uuid}
    (h : d.updateRole actorUserId targetUserId workspaceId siteId roleId assignmentId = .ok d') :
    ∃ role, d.roles roleId = some role ∧ role.hasReservedOwnerPermission = false ∧
      ¬(role.scope = .SITE ∧ siteId = none) ∧
      (role.isOwnerRole = true → d.HoldsOwner workspaceId actorUserId) ∧
      d.replaceRole (d.hasPermission actorUserId .owner workspaceId none) targetUserId workspaceId
        siteId roleId role assignmentId = .ok d' := by
  rw [updateRole] at h
  split at h
  · cases h
  rename_i role hrole
  dsimp only at h
  generalize (if role.scope = .SITE then siteId else none) = permissionSite at h
  split_ifs at h with _ hreserved hsite _ howner
  refine ⟨role, hrole, Bool.eq_false_iff.mpr hreserved, hsite, fun hnew ↦ ?_, h⟩
  rw [HoldsOwner]
  simpa [hnew] using howner

section

variable {member : Membership} {a : RoleAssignment} {role : WorkspaceRole}

/-- The roles of the other memberships stay, and those for the whole workspace do where a role for
a site is replaced. -/
theorem grantsOwner_replaced_iff (hroles : d'.roles = d.roles)
    (hassignments : d'.assignments.rows = (d.assignments.rows.filter fun b ↦
      !decide (b.membershipId = member.id ∧ b.siteId = a.siteId)) ++ [a])
    (ha : a.membershipId = member.id) {membershipId : Uuid}
    (hother : ¬(membershipId = member.id ∧ a.siteId = none)) :
    d'.GrantsOwner membershipId ↔ d.GrantsOwner membershipId := by
  rw [GrantsOwner, GrantsOwner, hroles, hassignments]
  constructor
  · rintro ⟨b, hb, hmembership, hsite, hrole⟩
    rcases List.mem_append.mp hb with hb | hb
    · exact ⟨b, (List.mem_filter.mp hb).1, hmembership, hsite, hrole⟩
    · obtain rfl := List.mem_singleton.mp hb
      exact absurd ⟨hmembership.symm.trans ha, hsite⟩ hother
  · rintro ⟨b, hb, hmembership, hsite, hrole⟩
    refine ⟨b, List.mem_append_left _ (List.mem_filter.mpr ⟨hb, ?_⟩), hmembership, hsite, hrole⟩
    rw [Bool.not_eq_true', decide_eq_false_iff_not]
    rintro ⟨hmember, hsame⟩
    exact hother ⟨hmembership.symm.trans hmember, hsame.symm.trans hsite⟩

/-- A role for the whole workspace is the only one that a member has for it. -/
theorem not_grantsOwner_replaced (hroles : d'.roles = d.roles)
    (hassignments : d'.assignments.rows = (d.assignments.rows.filter fun b ↦
      !decide (b.membershipId = member.id ∧ b.siteId = a.siteId)) ++ [a])
    (hnone : a.siteId = none) (hrole : d.roles a.roleId = some role)
    (hnot : role.hasOwnerPermission = false) : ¬d'.GrantsOwner member.id := by
  rw [GrantsOwner, hroles, hassignments, hnone]
  rintro ⟨b, hb, hmembership, hsite, role', hrole', howns⟩
  rcases List.mem_append.mp hb with hb | hb
  · have hkept := (List.mem_filter.mp hb).2
    rw [Bool.not_eq_true', decide_eq_false_iff_not] at hkept
    exact hkept ⟨hmembership, hsite⟩
  · rw [List.mem_singleton.mp hb] at hrole'
    cases Option.some.inj (hrole'.symm.trans hrole)
    rw [hnot] at howns
    cases howns

end

/-- What `updateRole` does to the owners, when the actor is none: a target that gets a role for the
whole workspace is no owner after it, and all others are owners as before. -/
theorem holdsOwner_updateRole {actorUserId targetUserId inWorkspace roleId assignmentId : Uuid}
    {siteId : Option Uuid} (hactor : ¬d.HoldsOwner workspaceId actorUserId)
    (h : d.updateRole actorUserId targetUserId inWorkspace siteId roleId assignmentId = .ok d') :
    ∃ role, d.roles roleId = some role ∧
      (inWorkspace = workspaceId → role.scope = .WORKSPACE →
        d.holdsOwnerRole workspaceId targetUserId = false) ∧
      ∀ userId, d'.HoldsOwner workspaceId userId ↔ d.HoldsOwner workspaceId userId ∧
        ¬(userId = targetUserId ∧ workspaceId = inWorkspace ∧ role.scope = .WORKSPACE) := by
  obtain ⟨role, hrole, hreserved, hsite, hnew, h⟩ := of_updateRole h
  obtain ⟨member, hmember, hcurrent, husers, hroles, hmemberships, hrows⟩ := of_replaceRole rfl h
  obtain ⟨a, ha, hroleId, hsiteId, hassignments⟩ : ∃ a : RoleAssignment,
      a.membershipId = member.id ∧ a.roleId = roleId ∧
      a.siteId = (if role.scope = .SITE then siteId else none) ∧
      d'.assignments.rows = (d.assignments.rows.filter fun b ↦
        !decide (b.membershipId = member.id ∧ b.siteId = a.siteId)) ++ [a] :=
    ⟨⟨assignmentId, member.id, roleId, _⟩, rfl, rfl, rfl, hrows⟩
  obtain ⟨hmem, hmemberUser, hmemberWorkspace⟩ := getUserAccess_eq_some_iff.mp hmember
  refine ⟨role, hrole, fun heq hscope ↦ ?_, fun userId ↦ ?_⟩
  · subst heq
    refine Bool.eq_false_iff.mpr fun howns ↦ hactor ?_
    rw [holdsOwnerRole, hmember] at howns
    simp only [hscope, reduceCtorEq, if_false] at hcurrent
    exact (hcurrent howns).1
  have hcustomer : d'.IsCustomer userId ↔ d.IsCustomer userId := by
    rw [IsCustomer, IsCustomer, husers]
  by_cases htarget : userId = targetUserId ∧ workspaceId = inWorkspace ∧ role.scope = .WORKSPACE
  · -- the new role of the target has no `owner:all`, or the actor would hold it
    have hnot : role.hasOwnerPermission = false := by
      rw [← htarget.2.1] at hnew
      have hno : role.isOwnerRole = false := Bool.eq_false_iff.mpr fun howner ↦
        hactor (hnew howner)
      rwa [WorkspaceRole.hasReservedOwnerPermission, hno, Bool.not_false, Bool.and_true]
        at hreserved
    have hnone : a.siteId = none := by
      rw [hsiteId, htarget.2.2]
      rfl
    refine iff_of_false (fun howner ↦ ?_) fun howner ↦ howner.2 htarget
    obtain ⟨-, m, hm, hmUser, hmWorkspace, hgrant⟩ := Directory.holdsOwner_iff.mp howner
    rw [hmemberships] at hm
    have hget := getUserAccess_eq_some_iff.mpr
      ⟨hm, hmUser.trans htarget.1, hmWorkspace.trans htarget.2.1⟩
    cases Option.some.inj (hget.symm.trans hmember)
    exact not_grantsOwner_replaced hroles hassignments hnone (hroleId ▸ hrole) hnot hgrant
  · rw [and_iff_left htarget]
    refine holdsOwner_congr hcustomer fun m hmUser hmWorkspace ↦ ?_
    rw [hmemberships]
    refine and_congr_right fun hm ↦ grantsOwner_replaced_iff hroles hassignments ha ?_
    rintro ⟨hid, hnone⟩
    cases d.memberships.eq_of_key_eq hm hmem hid
    refine htarget ⟨hmUser.symm.trans hmemberUser, hmWorkspace.symm.trans hmemberWorkspace, ?_⟩
    cases hscope : role.scope with
    | WORKSPACE => rfl
    | SITE =>
      rw [hsiteId, if_pos hscope] at hnone
      exact absurd ⟨hscope, hnone⟩ hsite

/-! ### Removing and disabling -/

theorem holdsOwner_removeMember {fromWorkspace targetUserId : Uuid}
    (h : d.removeMember fromWorkspace targetUserId = .ok d') :
    d'.HoldsOwner workspaceId userId ↔ d.HoldsOwner workspaceId userId ∧
      ¬(userId = targetUserId ∧ workspaceId = fromWorkspace) := by
  obtain ⟨hmemberships, hassignments⟩ := mem_removeMember h
  obtain ⟨husers, hroles⟩ := of_removeMember h
  have hgrants : ∀ m ∈ d'.memberships.rows, d'.GrantsOwner m.id ↔ d.GrantsOwner m.id := by
    intro m hm
    rw [GrantsOwner, GrantsOwner, hroles]
    constructor
    · rintro ⟨a, ha, hid, hrest⟩
      exact ⟨a, (hassignments m hm a hid).mp ha, hid, hrest⟩
    · rintro ⟨a, ha, hid, hrest⟩
      exact ⟨a, (hassignments m hm a hid).mpr ha, hid, hrest⟩
  rw [Directory.holdsOwner_iff, Directory.holdsOwner_iff, IsCustomer, husers]
  constructor
  · rintro ⟨hcustomer, m, hm, hmUser, hmWorkspace, hgrant⟩
    obtain ⟨hold, hkept⟩ := (hmemberships m).mp hm
    rw [hmUser, hmWorkspace] at hkept
    exact ⟨⟨hcustomer, m, hold, hmUser, hmWorkspace, (hgrants m hm).mp hgrant⟩, hkept⟩
  · rintro ⟨⟨hcustomer, m, hm, hmUser, hmWorkspace, hgrant⟩, hkept⟩
    have hm' : m ∈ d'.memberships.rows := (hmemberships m).mpr ⟨hm, by rwa [hmUser, hmWorkspace]⟩
    exact ⟨hcustomer, m, hm', hmUser, hmWorkspace, (hgrants m hm').mpr hgrant⟩

/-- A disabled user keeps its roles. -/
theorem holdsOwner_disable {targetUserId : Uuid} :
    (d.disable targetUserId).HoldsOwner workspaceId userId ↔ d.HoldsOwner workspaceId userId := by
  refine holdsOwner_congr ?_ fun _ _ _ ↦ Iff.rfl
  simp only [IsCustomer, disable]
  by_cases heq : userId = targetUserId
  · subst heq
    cases d.users userId with
    | none => simp
    | some user => simp
  · rw [Function.update_of_ne heq]

/-! ### Foreign keys -/

theorem linked_of_removeMember {fromWorkspace targetUserId : Uuid} (hlinked : d.Linked)
    (h : d.removeMember fromWorkspace targetUserId = .ok d') : d'.Linked := by
  obtain ⟨hmemberships, -⟩ := mem_removeMember h
  refine ⟨fun m hm ↦ ?_, ?_⟩
  · rw [(of_removeMember h).1]
    exact hlinked.users m ((hmemberships m).mp hm).1
  · rw [removeMember] at h
    split at h
    · cases h
    rename_i member hmember
    cases h
    intro a ha
    obtain ⟨ha, hkept⟩ := List.mem_filter.mp ha
    obtain ⟨m, hm, hid⟩ := hlinked.memberships a ha
    refine ⟨m, List.mem_filter.mpr ⟨hm, ?_⟩, hid⟩
    dsimp only at hkept ⊢
    rwa [hid]

theorem linked_of_updateRole {actorUserId targetUserId inWorkspace roleId assignmentId : Uuid}
    {siteId : Option Uuid} (hlinked : d.Linked)
    (h : d.updateRole actorUserId targetUserId inWorkspace siteId roleId assignmentId = .ok d') :
    d'.Linked := by
  obtain ⟨role, -, -, -, -, h⟩ := of_updateRole h
  obtain ⟨member, hmember, -, husers, -, hmemberships, hassignments⟩ := of_replaceRole rfl h
  refine ⟨?_, fun a ha ↦ ?_⟩
  · rw [husers, hmemberships]
    exact hlinked.users
  rw [hassignments, List.mem_append, List.mem_filter, List.mem_singleton] at ha
  rw [hmemberships]
  rcases ha with ⟨ha, -⟩ | rfl
  · exact hlinked.memberships a ha
  · exact ⟨member, (getUserAccess_eq_some_iff.mp hmember).1, rfl⟩

theorem linked_disable {targetUserId : Uuid} (hlinked : d.Linked) :
    (d.disable targetUserId).Linked where
  users m hm := by
    rw [disable]
    dsimp only
    by_cases heq : m.userId = targetUserId
    · rw [heq, Function.update_self, Option.isSome_map]
      exact heq ▸ hlinked.users m hm
    · rw [Function.update_of_ne heq]
      exact hlinked.users m hm
  memberships := hlinked.memberships

/-! ## What a request does to the owners -/

/-- The condition on a request that passes the checks of its route: a user that is added gets no
role with `owner:all`, one that is removed does not hold it, and one that gets another role for the
whole workspace holds it, if at all, by an owner role. -/
def KeepsOwners (d : Directory) (workspaceId : Uuid) : MemberRequest → Prop
  | .addMember toWorkspace userId roleId _ _ => toWorkspace = workspaceId →
      ∀ role ∈ d.roles roleId, role.hasOwnerPermission = true → ¬d.IsCustomer userId
  | .updateRole inWorkspace targetUserId roleId _ => inWorkspace = workspaceId →
      ∀ role ∈ d.roles roleId, role.scope = .WORKSPACE → d.HoldsOwner workspaceId targetUserId →
        d.holdsOwnerRole workspaceId targetUserId = true
  | .removeMember fromWorkspace targetUserId => fromWorkspace = workspaceId →
      ¬d.HoldsOwner workspaceId targetUserId
  | .disable _ => True

instance decidableKeepsOwners (d : Directory) (workspaceId : Uuid) :
    ∀ request, Decidable (d.KeepsOwners workspaceId request)
  | .addMember toWorkspace userId roleId _ _ =>
    inferInstanceAs (Decidable (toWorkspace = workspaceId → ∀ role ∈ d.roles roleId,
      role.hasOwnerPermission = true → ¬d.IsCustomer userId))
  | .updateRole inWorkspace targetUserId roleId _ =>
    inferInstanceAs (Decidable (inWorkspace = workspaceId → ∀ role ∈ d.roles roleId,
      role.scope = .WORKSPACE → d.HoldsOwner workspaceId targetUserId →
        d.holdsOwnerRole workspaceId targetUserId = true))
  | .removeMember fromWorkspace targetUserId =>
    inferInstanceAs (Decidable (fromWorkspace = workspaceId →
      ¬d.HoldsOwner workspaceId targetUserId))
  | .disable _ => isTrue trivial

/-- **One request by another than an owner keeps the owners** exactly when it meets the
condition. -/
theorem sameOwners_of_perform_iff {iam : UserIAM} {request : MemberRequest} (hlinked : d.Linked)
    (hactor : ¬d.HoldsOwner workspaceId iam.id) (h : d.perform iam request = .ok d') :
    SameOwners workspaceId d d' ↔ d.KeepsOwners workspaceId request := by
  cases request with
  | addMember toWorkspace userId roleId membershipId assignmentId =>
    obtain ⟨role, hadded, husers⟩ := memberAdded_of_addMember h
    rw [hadded.sameOwners_iff hlinked, IsCustomer, husers, KeepsOwners]
    constructor
    · rintro hnot hto role' hrole' howns hcustomer
      cases Option.some.inj (hrole'.symm.trans hadded.role_eq)
      exact hnot ⟨hto, hcustomer, rfl, howns⟩
    · rintro hkeeps ⟨hto, hcustomer, -, howns⟩
      exact hkeeps hto role hadded.role_eq howns hcustomer
  | updateRole inWorkspace targetUserId roleId assignmentId =>
    obtain ⟨role, hrole, hcurrent, howners⟩ := holdsOwner_updateRole hactor h
    rw [KeepsOwners]
    constructor
    · intro hsame hin role' hrole' hscope hholds
      cases Option.some.inj (hrole'.symm.trans hrole)
      exact absurd ⟨rfl, hin.symm, hscope⟩ ((howners targetUserId).mp ((hsame _).mpr hholds)).2
    · intro hkeeps userId
      rw [howners userId]
      refine and_iff_left_of_imp ?_
      rintro hholds ⟨rfl, rfl, hscope⟩
      have howns := hkeeps rfl role hrole hscope hholds
      rw [hcurrent rfl hscope] at howns
      cases howns
  | removeMember fromWorkspace targetUserId =>
    have howners : ∀ userId, d'.HoldsOwner workspaceId userId ↔
        d.HoldsOwner workspaceId userId ∧ ¬(userId = targetUserId ∧ workspaceId = fromWorkspace) :=
      fun _ ↦ holdsOwner_removeMember h
    rw [KeepsOwners]
    constructor
    · intro hsame hfrom hholds
      exact absurd ⟨rfl, hfrom.symm⟩ ((howners targetUserId).mp ((hsame _).mpr hholds)).2
    · intro hkeeps userId
      rw [howners userId]
      refine and_iff_left_of_imp ?_
      rintro hholds ⟨rfl, rfl⟩
      exact hkeeps rfl hholds
  | disable targetUserId =>
    cases h
    exact iff_of_true (fun userId ↦ holdsOwner_disable) trivial

theorem linked_of_perform {iam : UserIAM} {request : MemberRequest} (hlinked : d.Linked)
    (h : d.perform iam request = .ok d') : d'.Linked := by
  cases request with
  | addMember =>
    obtain ⟨role, hadded, -⟩ := memberAdded_of_addMember h
    exact hadded.linked hlinked
  | updateRole => exact linked_of_updateRole hlinked h
  | removeMember => exact linked_of_removeMember hlinked h
  | disable =>
    cases h
    exact linked_disable hlinked

end Directory

section

variable {toLowerCase : String → String} {s s' : InviteDirectory} {workspaceId : Uuid}

/-- **An invitation keeps the owners** of a workspace that the actor does not own. -/
theorem sameOwners_of_createInvite {now : Time} {iam : UserIAM} {body : InviteBody}
    {draw : InviteDraw} (hlinked : s.Linked) (hactor : ¬s.HoldsOwner workspaceId iam.id)
    (h : s.createInvite toLowerCase now iam body draw = .ok s') :
    Directory.SameOwners workspaceId s.toDirectory s'.toDirectory ∧ s'.Linked := by
  rw [InviteDirectory.createInvite] at h
  split at h
  · split_ifs at h
    cases h
    exact ⟨fun _ ↦ Iff.rfl, hlinked⟩
  · obtain ⟨assignment, hassignment, h⟩ := exists_ok_of_bind h
    obtain ⟨role, hrole, howner⟩ := Directory.role_of_resolveInviteAssignment hassignment
    split_ifs at h with hcan
    have hadded := InviteDirectory.memberAdded_of_insertInvited hrole h
    refine ⟨(hadded.sameOwners_iff hlinked).mpr ?_, hadded.linked hlinked⟩
    rintro ⟨rfl, -, -, howns⟩
    rw [Bool.not_eq_true', Bool.not_eq_false, Directory.canInviteAssignment, howner, howns,
      if_pos rfl] at hcan
    exact hactor hcan

/-- The condition on a request: one to manage a member meets its own, where it passes the checks of
its route. -/
def TeamCall.KeepsOwners (workspaceId : Uuid) (s : InviteDirectory) (call : TeamCall) : Prop :=
  match call.request with
  | .member request => (s.checkRoute ⟨call.token, call.now, request⟩).isOk = true →
      s.toDirectory.KeepsOwners workspaceId request
  | .invite _ _ => True

instance decidableTeamKeepsOwners (workspaceId : Uuid) (s : InviteDirectory) :
    ∀ call : TeamCall, Decidable (call.KeepsOwners workspaceId s)
  | ⟨token, now, .member request⟩ =>
    inferInstanceAs (Decidable ((s.checkRoute ⟨token, now, request⟩).isOk = true →
      s.toDirectory.KeepsOwners workspaceId request))
  | ⟨_, _, .invite _ _⟩ => isTrue trivial

/-- The actor does not hold `owner:all` in the workspace. -/
def TeamCall.ByOther (workspaceId : Uuid) (s : InviteDirectory) (call : TeamCall) : Prop :=
  ¬s.HoldsOwner workspaceId call.token.id

instance decidableByOther (workspaceId : Uuid) (s : InviteDirectory) (call : TeamCall) :
    Decidable (call.ByOther workspaceId s) :=
  inferInstanceAs (Decidable ¬_)

/-- **One request by another than an owner keeps the owners** exactly when it meets the
condition. -/
theorem sameOwners_of_handleTeam_iff {call : TeamCall} (hlinked : s.Linked)
    (hactor : call.ByOther workspaceId s) (h : s.handleTeam toLowerCase call = .ok s') :
    s'.Linked ∧ (Directory.SameOwners workspaceId s.toDirectory s'.toDirectory ↔
      call.KeepsOwners workspaceId s) := by
  rw [InviteDirectory.handleTeam] at h
  rw [TeamCall.ByOther] at hactor
  rw [TeamCall.KeepsOwners]
  cases hrequest : call.request with
  | member request =>
    rw [hrequest] at h
    dsimp only at h
    cases hhandle : s.handle ⟨call.token, call.now, request⟩ with
    | error =>
      rw [hhandle] at h
      cases h
    | ok d' =>
      rw [hhandle] at h
      cases h
      obtain ⟨iam, hroute, hperform⟩ := Directory.of_handle hhandle
      obtain ⟨iam', htoken, hcheck⟩ := exists_ok_of_bind hroute
      obtain ⟨-, -, heq⟩ := exists_ok_of_bind hcheck
      cases heq
      rw [← Directory.id_of_verifyAccessToken htoken] at hactor
      refine ⟨Directory.linked_of_perform hlinked hperform, ?_⟩
      rw [Directory.sameOwners_of_perform_iff hlinked hactor hperform]
      dsimp only
      rw [hroute]
      exact ⟨fun hkeeps _ ↦ hkeeps, fun hkeeps ↦ hkeeps rfl⟩
  | invite body draw =>
    rw [hrequest] at h
    obtain ⟨iam, htoken, h⟩ := exists_ok_of_bind h
    rw [← Directory.id_of_verifyAccessToken htoken] at hactor
    obtain ⟨hsame, hlinked⟩ := sameOwners_of_createInvite hlinked hactor h
    exact ⟨hlinked, iff_of_true hsame trivial⟩

/-- **Only owners change ownership**, in any sequence of requests by others in which no member that
is added gets `owner:all`, none that is removed has it, and none loses it by a new role. -/
theorem only_owners_change_owners {calls : List TeamCall} (hlinked : s.Linked)
    (hrun : Run (teamStep toLowerCase)
      (fun s call ↦ call.ByOther workspaceId s ∧ call.KeepsOwners workspaceId s) s calls s') :
    ∀ userId, s'.HoldsOwner workspaceId userId ↔ s.HoldsOwner workspaceId userId := by
  suffices hkept : s'.Linked ∧
      Directory.SameOwners workspaceId s.toDirectory s'.toDirectory from hkept.2
  induction hrun with
  | nil => exact ⟨hlinked, fun _ ↦ Iff.rfl⟩
  | snoc _ hok hstep hinv =>
    rw [teamStep] at hstep
    split at hstep
    · rename_i hhandle
      cases hstep
      obtain ⟨hlinked', hiff⟩ := sameOwners_of_handleTeam_iff hinv.1 hok.1 hhandle
      exact ⟨hlinked', fun userId ↦ (hiff.mpr hok.2 userId).trans (hinv.2 userId)⟩
    · cases hstep
      exact hinv

end

/-! ## A workspace with a site -/

/-- User 10 owns the workspace 1. User 11 manages the users of its site 5, user 12 those of the
workspace, and user 30 is no member. -/
def workspaceWithSite : InviteDirectory where
  users id :=
    if id = 10 ∨ id = 11 ∨ id = 12 ∨ id = 30 then some ⟨.ACTIVE, none, none⟩ else none
  sites id := if id = 5 then some 1 else none
  roles
    | 1 => some ⟨1, .WORKSPACE, [.of .user .write, .of .user .admin, .owner], true⟩
    | 2 => some ⟨1, .SITE, [.of .facility .read, .of .user .write], false⟩
    | 3 => some ⟨1, .WORKSPACE, [.of .user .read, .of .user .write, .of .user .admin], false⟩
    | _ => none
  memberships := (Table.empty membershipSchema).insertMissingAll
    [⟨100, 10, 1⟩, ⟨101, 11, 1⟩, ⟨102, 12, 1⟩]
  assignments := (Table.empty assignmentSchema).insertMissingAll
    [⟨1000, 100, 1, none⟩, ⟨1001, 101, 2, some 5⟩, ⟨1002, 102, 3, none⟩]
  byEmail email := if email = "owner@example.com" then some 10 else none
  invitations _ := none

theorem linked_workspaceWithSite : workspaceWithSite.Linked :=
  ⟨by decide +kernel, by decide +kernel⟩

/-- The manager of the site invites a user to it, and the one of the workspace adds a member, gives
it another role and removes the first manager: the owner stays the only one. -/
theorem only_owners_change_owners_managers : ∃ s : InviteDirectory,
    (s.getUserAccess 1 30).isSome = true ∧ (s.getUserAccess 1 40).isSome = true ∧
      s.getUserAccess 1 11 = none ∧
      ∀ userId, s.HoldsOwner 1 userId ↔ workspaceWithSite.HoldsOwner 1 userId := by
  have hexecute : (execute (teamStep id)
      (fun s call ↦ call.ByOther 1 s ∧ call.KeepsOwners 1 s)
      [⟨⟨11, some 1, some 5⟩, 0, .invite ⟨"new@example.com", some 2, none⟩ ⟨"hash", 40, 103, 1003⟩⟩,
        ⟨⟨12, some 1, none⟩, 0, .member (.addMember 1 30 3 104 1004)⟩,
        ⟨⟨12, some 1, none⟩, 0, .member (.updateRole 1 30 3 1005)⟩,
        ⟨⟨12, some 1, none⟩, 0, .member (.removeMember 1 11)⟩] workspaceWithSite).any (fun s ↦
        decide ((s.getUserAccess 1 30).isSome = true ∧ (s.getUserAccess 1 40).isSome = true ∧
          s.getUserAccess 1 11 = none)) = true := by
    decide +kernel
  obtain ⟨s, hs, hfacts⟩ := (Option.any_eq_true _ _).mp hexecute
  obtain ⟨hadded, hinvited, hremoved⟩ := of_decide_eq_true hfacts
  exact ⟨s, hadded, hinvited, hremoved,
    only_owners_change_owners linked_workspaceWithSite (run_of_execute hs)⟩

/-- **Others change the owners.** The manager of the site adds a member with the role of an owner,
and the manager of the workspace removes the owner. -/
theorem not_only_owners_change_owners :
    (workspaceWithSite.HoldsOwner 1 10 ∧ ¬workspaceWithSite.HoldsOwner 1 30) ∧
      (∃ s, Run (teamStep id) (fun s call ↦ call.ByOther 1 s) workspaceWithSite
        [⟨⟨11, some 1, some 5⟩, 0, .member (.addMember 1 30 1 103 1003)⟩] s ∧
          s.HoldsOwner 1 30) ∧
      ∃ s, Run (teamStep id) (fun s call ↦ call.ByOther 1 s) workspaceWithSite
        [⟨⟨12, some 1, none⟩, 0, .member (.removeMember 1 10)⟩] s ∧ ¬s.HoldsOwner 1 10 := by
  refine ⟨by decide +kernel, ?_, ?_⟩
  · have hexecute : (execute (teamStep id) (fun s call ↦ call.ByOther 1 s)
        [⟨⟨11, some 1, some 5⟩, 0, .member (.addMember 1 30 1 103 1003)⟩] workspaceWithSite).any
          (fun s ↦ decide (s.HoldsOwner 1 30)) = true := by
      decide +kernel
    obtain ⟨s, hs, howner⟩ := (Option.any_eq_true _ _).mp hexecute
    exact ⟨s, run_of_execute hs, of_decide_eq_true howner⟩
  · have hexecute : (execute (teamStep id) (fun s call ↦ call.ByOther 1 s)
        [⟨⟨12, some 1, none⟩, 0, .member (.removeMember 1 10)⟩] workspaceWithSite).any
          (fun s ↦ decide (¬s.HoldsOwner 1 10)) = true := by
      decide +kernel
    obtain ⟨s, hs, hnot⟩ := (Option.any_eq_true _ _).mp hexecute
    exact ⟨s, run_of_execute hs, of_decide_eq_true hnot⟩

end RwServer
