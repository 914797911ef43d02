import Mathlib
import RwServer.Foundation.TokenUse
import RwServer.Account.Directory
import RwServer.Employee.Identities

/-!
# Invitations and password resets

An invitation and a password reset are completed with a token. The user is looked up by it, then the
password is hashed, which takes time, and then a transaction sets the password and clears the token,
by the id of the user; for an invitation it also creates an employee for each membership without
one. The transaction does not look at the token again, which another call may have used meanwhile,
or a new invitation replaced.

`password_tokens_used_once` says when a token is used once, and each membership gets one employee.
-/

namespace RwServer

open Relational Transition

/-! ## The user -/

inductive TokenKind
  | invite
  | reset
deriving DecidableEq, Repr

instance fintypeTokenKind : Fintype TokenKind where
  elems := {.invite, .reset}
  complete kind := by cases kind <;> decide

/-- The columns of a token, with its hash. -/
structure TokenColumns (Token : Type*) where
  hash : Option Token
  expiry : Option Time
  attempts : ℕ
deriving DecidableEq, Repr

/-- The user that the calls are about. -/
structure PasswordUser (Token : Type*) where
  email : String
  systemRole : Option SystemRole
  status : UserStatus
  passwordHash : Option String
  firstName : String
  lastName : String
  columns : TokenKind → TokenColumns Token

/-- A row of `WorkspaceMembership` of the user. -/
structure UserMembership where
  id : Uuid
  workspaceId : Uuid
  employeeId : Option Uuid
deriving DecidableEq, Repr

/-- `@@unique([userId, workspaceId])`. -/
def userMembershipSchema : Schema UserMembership Uuid where
  key := UserMembership.id
  clash a b := decide (a.workspaceId = b.workspaceId)
  clash_symm a b := by simp [eq_comm]

structure PasswordStore (Token : Type*) where
  user : PasswordUser Token
  memberships : Table userMembershipSchema
  /-- The tokens of the user's sessions. -/
  refreshTokens : List RefreshToken
  staff : EmployeeStore
  /-- The tokens that have been drawn for the user, by their hashes. -/
  issued : List Token

/-! ## Requests -/

/-- The profile that completes an invitation, with trimmed names. -/
structure InviteProfile where
  firstName : Option String
  lastName : Option String
  employeeNumber : Option String
  badgeNumber : Option String
  pin : Option String
deriving DecidableEq, Repr

/-- A password that is strong enough comes with a token. -/
inductive PasswordRequest (Token : Type*)
  | completeInvite (token : Token) (input : InviteProfile)
  | resetPassword (token : Token)
deriving DecidableEq

namespace PasswordRequest

variable {Token : Type*}

def kind : PasswordRequest Token → TokenKind
  | .completeInvite _ _ => .invite
  | .resetPassword _ => .reset

def token : PasswordRequest Token → Token
  | .completeInvite token _ | .resetPassword token => token

end PasswordRequest

namespace TokenKind

/-- `inviteTokenExpiryMs` and `resetTokenExpiryMs`. -/
def expiryMs : TokenKind → Time
  | .invite => 7 * 24 * 60 * 60 * 1000
  | .reset => 60 * 60 * 1000

/-- The status of a user that may use the token. -/
def status : TokenKind → UserStatus
  | .invite => .PENDING
  | .reset => .ACTIVE

def invalid : TokenKind → String
  | .invite => "Invalid or expired invite token"
  | .reset => "Invalid or expired reset token"

def exhausted : TokenKind → String
  | .invite => "Invite token has been invalidated due to too many failed attempts"
  | .reset => "Reset token has been invalidated due to too many failed attempts"

def wrongStatus : TokenKind → String
  | .invite => "Invalid or expired invite token"
  | .reset => "Account is not active"

def expired : TokenKind → String
  | .invite => "Invite token has expired"
  | .reset => "Reset token has expired"

end TokenKind

def maxTokenAttempts : ℕ := 5

/-- What a statement gets from outside: the time, 32 random bytes, a hash of the password, and what
is drawn for an employee. -/
structure PasswordDraw (Token : Type*) where
  now : Time
  random : Token
  passwordHash : String
  employee : EmployeeDraw

/-- An invitation whose transaction is open. -/
structure OpenInvite (Token : Type*) where
  token : Token
  input : InviteProfile
  email : String
  passwordHash : String
  /-- The token of the user when the transaction began. -/
  atBegin : Option Token
deriving DecidableEq

namespace OpenInvite

variable {Token : Type*} (call : OpenInvite Token)

/-- `profileFirstName`. -/
def firstName : String :=
  (nonEmpty call.input.firstName).getD ((call.email.splitOn "@").headD "")

/-- `profileLastName`. -/
def lastName : String := call.input.lastName.getD ""

/-- What the employee of a membership is created from. -/
def employeeInput (workspaceId : Uuid) : CreateEmployeeInput where
  workspaceId := some workspaceId
  siteId := none
  employeeNumber := call.input.employeeNumber
  firstName := call.firstName
  lastName := call.lastName
  roleId := none
  pin := call.input.pin
  badgeNumber := call.input.badgeNumber

end OpenInvite

/-- Which statement of a call comes next. -/
inductive PasswordPhase (Token : Type*)
  /-- `createInvite` for a user that there is, and `initiateReset`; whether
  `canResendPendingInvite` says yes. -/
  | requesting (kind : TokenKind) (canResend : Bool)
  | issuing (kind : TokenKind)
  | sent (kind : TokenKind) (token : Option Token)
  /-- `completeInvite` and `resetPassword`. -/
  | completing (request : PasswordRequest Token)
  | counting (kind : TokenKind) (error : String)
  | hashing (request : PasswordRequest Token) (email : String)
  /-- The transaction comes next. -/
  | beginning (request : PasswordRequest Token) (email : String) (passwordHash : String)
  /-- The memberships still to come, and the employees that have been created. -/
  | creating (call : OpenInvite Token) (rest : List UserMembership)
    (created : List (UserMembership × EmployeeDraw))
  | setting (token : Token) (passwordHash : String) (atBegin : Option Token)
  | succeeded (kind : TokenKind) (token : Token) (atBegin : Option Token)
  | refused (error : String)
  | failed
deriving DecidableEq

/-! ## The calls, statement by statement -/

namespace PasswordStore

variable {Token : Type*} (store : PasswordStore Token)

def setColumns (kind : TokenKind) (columns : TokenColumns Token) : PasswordStore Token :=
  { store with
    user := { store.user with columns := Function.update store.user.columns kind columns } }

/-- The memberships without an employee. -/
def unlinked : List UserMembership := store.memberships.rows.filter fun m ↦ m.employeeId.isNone

/-- The update of a membership. -/
def link (membershipId employeeId : Uuid) : Table userMembershipSchema :=
  store.memberships.modify (fun m ↦ decide (m.id = membershipId))
    (fun m ↦ { m with employeeId := some employeeId }) ⟨fun _ ↦ rfl, fun _ _ h ↦ h⟩

/-- The employee of a membership is created, and linked. All are created before the first is
linked, which makes no difference. -/
def createEmployee (call : OpenInvite Token) (p : UserMembership × EmployeeDraw) :
    Option (PasswordStore Token) :=
  (store.staff.insertEmployee (call.employeeInput p.1.workspaceId) p.1.workspaceId none p.2).map
    fun staff ↦ { store with staff, memberships := store.link p.1.id p.2.employeeId }

/-- What the transaction of `completeInvite` leaves. -/
def storeInvite (call : OpenInvite Token) (created : List (UserMembership × EmployeeDraw)) :
    Option (PasswordStore Token) :=
  (created.foldlM (fun store p ↦ createEmployee store call p) store).map fun store ↦
    { store with
      user := { store.user with
        passwordHash := some call.passwordHash
        firstName := call.firstName
        lastName := call.lastName
        status := .ACTIVE
        columns := Function.update store.user.columns .invite ⟨none, none, 0⟩ } }

/-- What the transaction of `resetPassword` leaves. -/
def storeReset (passwordHash : String) (now : Time) : PasswordStore Token :=
  { store with
    user := { store.user with
      passwordHash := some passwordHash
      columns := Function.update store.user.columns .reset ⟨none, none, 0⟩ }
    refreshTokens := store.refreshTokens.map fun r ↦
      if r.revokedAt.isNone then { r with revokedAt := some now } else r }

end PasswordStore

section

variable {Token : Type*} [DecidableEq Token]

/-- What becomes of a request for a token. A reset says nothing where it issues none. -/
def afterRequest (kind : TokenKind) (canResend : Bool) (user : PasswordUser Token) :
    PasswordPhase Token :=
  match kind with
  | .invite =>
    if user.systemRole.isSome then .refused "Cannot invite a system user to a workspace"
    else if user.status = .ACTIVE then .refused "User with this email already exists"
    else if !canResend then .refused "Forbidden"
    else .issuing .invite
  | .reset => if user.status ≠ .ACTIVE then .sent .reset none else .issuing .reset

/-- The checks on the user with the token. -/
def afterLookUp (request : PasswordRequest Token) (now : Time) (user : PasswordUser Token) :
    PasswordPhase Token :=
  let columns := user.columns request.kind
  if columns.hash ≠ some request.token then .refused request.kind.invalid
  else if maxTokenAttempts ≤ columns.attempts then .refused request.kind.exhausted
  else if user.status ≠ request.kind.status then .counting request.kind request.kind.wrongStatus
  else if columns.expiry.any fun expiry ↦ decide (expiry < now) then
    .counting request.kind request.kind.expired
  else .hashing request user.email

/-- The first statement of a transaction. -/
def afterBegin (store : PasswordStore Token) (request : PasswordRequest Token) (email : String)
    (passwordHash : String) : PasswordPhase Token :=
  match request with
  | .completeInvite token input =>
    if store.memberships.rows = [] then .refused "User is not assigned to a workspace"
    else .creating ⟨token, input, email, passwordHash, (store.user.columns .invite).hash⟩
      store.unlinked []
  | .resetPassword token => .setting token passwordHash (store.user.columns .reset).hash

/-- The next statement of a call. What a transaction writes is seen by the others when it commits,
and its writes are one statement. A token that is drawn is a new one. -/
def passwordStatement {ι : Type*} (_ : ι) (draw : PasswordDraw Token)
    (store : PasswordStore Token) :
    PasswordPhase Token → Option (PasswordStore Token × PasswordPhase Token)
  | .requesting kind canResend => some (store, afterRequest kind canResend store.user)
  | .issuing kind =>
    if draw.random ∈ store.issued then none
    else some ({ store.setColumns kind ⟨some draw.random, some (draw.now + kind.expiryMs), 0⟩ with
      issued := draw.random :: store.issued }, .sent kind (some draw.random))
  | .completing request => some (store, afterLookUp request draw.now store.user)
  | .counting kind error =>
    let columns := store.user.columns kind
    some (store.setColumns kind { columns with attempts := columns.attempts + 1 }, .refused error)
  | .hashing request email => some (store, .beginning request email draw.passwordHash)
  | .beginning request email passwordHash =>
    some (store, afterBegin store request email passwordHash)
  | .creating call (m :: rest) created =>
    some (store, match store.staff.ensureIdentityAvailable m.workspaceId none
        ⟨call.input.employeeNumber, call.input.badgeNumber⟩ with
      | .error message => .refused message
      | .ok () => .creating call rest (created ++ [(m, draw.employee)]))
  | .creating call [] created =>
    match store.storeInvite call created with
    | none => some (store, .failed)
    | some store => some (store, .succeeded .invite call.token call.atBegin)
  | .setting token passwordHash atBegin =>
    some (store.storeReset passwordHash draw.now, .succeeded .reset token atBegin)
  | _ => none

end

abbrev PasswordCalls (ι Token : Type*) := Calls ι (PasswordStore Token) (PasswordPhase Token)

/-! ## The condition -/

namespace PasswordPhase

variable {Token : Type*} (kind : TokenKind)

/-- The token of a call that has looked the user up by it, and whose transaction has not begun. -/
def checked : PasswordPhase Token → Option Token
  | .hashing request _ | .beginning request _ _ =>
    if request.kind = kind then some request.token else none
  | _ => none

def opened : PasswordPhase Token → Option Token
  | .creating call _ _ => if kind = .invite then some call.token else none
  | .setting token _ _ => if kind = .reset then some token else none
  | _ => none

def used : PasswordPhase Token → Option Token
  | .succeeded k token _ => if k = kind then some token else none
  | _ => none

def replaces : PasswordPhase Token → Bool
  | .issuing k => decide (k = kind)
  | _ => false

/-- The transaction commits next. -/
def finishes : PasswordPhase Token → Bool
  | .creating _ [] _ => decide (kind = .invite)
  | .setting _ _ _ => decide (kind = .reset)
  | _ => false

def IsRequest : PasswordPhase Token → Prop
  | .requesting _ _ | .completing _ => True
  | _ => False

end PasswordPhase

/-- The tokens of a kind. -/
def passwordTokens (Token : Type*) (kind : TokenKind) :
    TokenUse (PasswordStore Token) (PasswordPhase Token) Token where
  current store := (store.user.columns kind).hash
  issued := PasswordStore.issued
  checked := PasswordPhase.checked kind
  opened := PasswordPhase.opened kind
  used := PasswordPhase.used kind
  replaces := PasswordPhase.replaces kind
  finishes := PasswordPhase.finishes kind

/-- The condition on a step: it takes the token of the user from no call that has found it there,
or has begun with it, and commits an invitation while no other one has begun. -/
def TakesNoToken {ι Token : Type*} (s : PasswordCalls ι Token) (a : ι × PasswordDraw Token) :
    Prop :=
  (∀ kind, (passwordTokens Token kind).Admits s a.1) ∧
  ((s.phase a.1).finishes .invite = true → ∀ j ≠ a.1, (s.phase j).opened .invite = none)

instance decidableTakesNoToken {ι Token : Type*} [Fintype ι] [DecidableEq ι] [DecidableEq Token]
    (s : PasswordCalls ι Token) (a : ι × PasswordDraw Token) : Decidable (TakesNoToken s a) :=
  inferInstanceAs (Decidable ((∀ _ : TokenKind, _) ∧ (_ → ∀ _ : ι, _)))

/-! ## Employees and memberships -/

namespace PasswordStore

variable {Token : Type*}

/-- An employee that there was not at the start. -/
def IsNew (start : PasswordStore Token) (e : Employee) : Prop :=
  ∀ x ∈ start.staff.employees.rows, x.id ≠ e.id

/-- A membership is as it was, or it had no employee and has one that is new; a new employee is that
of a membership. -/
structure Linked (start store : PasswordStore Token) : Prop where
  memberships : ∀ m ∈ store.memberships.rows, m ∈ start.memberships.rows ∨
    { m with employeeId := none } ∈ start.memberships.rows ∧
      ∃ e ∈ store.staff.employees.rows, start.IsNew e ∧ m.employeeId = some e.id ∧
        e.workspaceId = m.workspaceId
  employees : ∀ e ∈ store.staff.employees.rows, start.IsNew e →
    ∃ m ∈ store.memberships.rows, m.employeeId = some e.id ∧ e.workspaceId = m.workspaceId
  kept : ∀ x ∈ start.staff.employees.rows, ∃ y ∈ store.staff.employees.rows, y.id = x.id

variable {start store store' : PasswordStore Token} {call : OpenInvite Token}
  {p : UserMembership × EmployeeDraw}

theorem linked_refl : store.Linked store where
  memberships _ hm := .inl hm
  employees e he hnew := absurd rfl (hnew e he)
  kept x hx := ⟨x, hx, rfl⟩

theorem mem_unlinked {m : UserMembership} :
    m ∈ store.unlinked ↔ m ∈ store.memberships.rows ∧ m.employeeId = none := by
  rw [unlinked, List.mem_filter, Option.isNone_iff_eq_none]

theorem createEmployee_eq_some (h : store.createEmployee call p = some store') :
    ∃ staff version, store' = { store with
        staff, memberships := store.link p.1.id p.2.employeeId } ∧
      store.staff.Stores ⟨p.2.employeeId, p.1.workspaceId, .ACTIVE, version⟩ none staff ∧
      ∀ x ∈ store.staff.employees.rows, x.id ≠ p.2.employeeId := by
  obtain ⟨staff, hstaff, rfl⟩ := Option.map_eq_some_iff.mp h
  obtain ⟨hstores, hfresh⟩ := stores_of_insertEmployee hstaff
  exact ⟨staff, _, rfl, hstores, hfresh⟩

/-- **One employee** is created for the first membership without one, and is linked to it. -/
theorem Linked.createEmployee {rest : List UserMembership} (hlinked : start.Linked store)
    (hfirst : store.unlinked = p.1 :: rest) (h : store.createEmployee call p = some store') :
    start.Linked store' ∧ store'.unlinked = rest := by
  obtain ⟨staff, version, rfl, hstores, hfresh⟩ := createEmployee_eq_some h
  obtain ⟨hmem, hnone⟩ := mem_unlinked.mp (hfirst ▸ List.mem_cons_self)
  have hmild : Table.Mild userMembershipSchema fun m ↦
      { m with employeeId := some p.2.employeeId } := ⟨fun _ ↦ rfl, fun _ _ h ↦ h⟩
  have hrows : ∀ m, m ∈ (store.link p.1.id p.2.employeeId).rows ↔
      m = { p.1 with employeeId := some p.2.employeeId } ∨
        m ∈ store.memberships.rows ∧ m.id ≠ p.1.id := fun m ↦
    Table.mem_modify_key store.memberships hmild hmem
  have hrest :
      (store.link p.1.id p.2.employeeId).rows.filter (fun m ↦ m.employeeId.isNone) = rest :=
    Table.filter_modify_head store.memberships hmild hfirst rfl
  have hold : ∀ x ∈ store.staff.employees.rows, x ∈ staff.employees.rows := fun x hx ↦
    (hstores.rows x).mpr (.inr ⟨hx, hfresh x hx⟩)
  have hnew : start.IsNew ⟨p.2.employeeId, p.1.workspaceId, .ACTIVE, version⟩ := by
    intro x hx hid
    obtain ⟨y, hy, hyx⟩ := hlinked.kept x hx
    exact hfresh y hy (hyx.trans hid)
  refine ⟨⟨fun m hm ↦ ?_, fun e he henew ↦ ?_, fun x hx ↦ ?_⟩, hrest⟩
  · rcases (hrows m).mp hm with rfl | ⟨hm, -⟩
    · refine .inr ⟨?_, _, (hstores.rows _).mpr (.inl rfl), hnew, rfl, rfl⟩
      -- the membership had no employee at the start, either
      rcases hlinked.memberships p.1 hmem with hstart | ⟨-, e, -, -, hsome, -⟩
      · exact hnone ▸ hstart
      · cases hnone.symm.trans hsome
    · rcases hlinked.memberships m hm with hstart | ⟨hstart, e, he, henew, hid, hws⟩
      · exact .inl hstart
      · exact .inr ⟨hstart, e, hold e he, henew, hid, hws⟩
  · rcases (hstores.rows e).mp he with rfl | ⟨he, -⟩
    · exact ⟨_, (hrows _).mpr (.inl rfl), rfl, rfl⟩
    · obtain ⟨m, hm, hid, hws⟩ := hlinked.employees e he henew
      refine ⟨m, (hrows m).mpr (.inr ⟨hm, fun hsame ↦ ?_⟩), hid, hws⟩
      obtain rfl := store.memberships.eq_of_key_eq hm hmem hsame
      cases hnone.symm.trans hid
  · obtain ⟨y, hy, hyx⟩ := hlinked.kept x hx
    exact ⟨y, hold y hy, hyx⟩

/-- What the transaction of an invitation leaves. -/
structure InviteStored (store : PasswordStore Token) (store' : PasswordStore Token) : Prop where
  hash : (store'.user.columns .invite).hash = none
  reset : store'.user.columns .reset = store.user.columns .reset
  issued : store'.issued = store.issued

/-- **An invitation** leaves an employee for each membership. -/
theorem Linked.storeInvite {created : List (UserMembership × EmployeeDraw)}
    (hlinked : start.Linked store) (hall : created.map Prod.fst = store.unlinked)
    (h : store.storeInvite call created = some store') :
    start.Linked store' ∧ store'.unlinked = [] := by
  obtain ⟨last, hfold, rfl⟩ := Option.map_eq_some_iff.mp h
  suffices hlast : start.Linked last ∧ last.unlinked = [] from
    ⟨⟨hlast.1.memberships, hlast.1.employees, hlast.1.kept⟩, hlast.2⟩
  clear h
  induction created generalizing store with
  | nil =>
    cases hfold
    exact ⟨hlinked, hall.symm⟩
  | cons p created ih =>
    obtain ⟨next, hnext, hfold⟩ := Option.bind_eq_some_iff.mp hfold
    obtain ⟨hlinked, hrest⟩ := hlinked.createEmployee hall.symm hnext
    exact ih hlinked hrest.symm hfold

theorem inviteStored {created : List (UserMembership × EmployeeDraw)}
    (h : store.storeInvite call created = some store') : store.InviteStored store' := by
  obtain ⟨last, hfold, rfl⟩ := Option.map_eq_some_iff.mp h
  obtain ⟨huser, hissued⟩ : last.user = store.user ∧ last.issued = store.issued := by
    clear h
    induction created generalizing store with
    | nil =>
      cases hfold
      exact ⟨rfl, rfl⟩
    | cons p created ih =>
      obtain ⟨next, hnext, hfold⟩ := Option.bind_eq_some_iff.mp hfold
      obtain ⟨staff, version, rfl, -, -⟩ := createEmployee_eq_some hnext
      have hlast := ih hfold
      exact hlast
  refine ⟨?_, ?_, hissued⟩
  · simp only [Function.update_self]
  · simp only [Function.update_of_ne (show TokenKind.reset ≠ TokenKind.invite by decide), huser]

end PasswordStore

/-! ## What a statement does with the tokens -/

section

variable {ι Token : Type*} {i : ι} {draw : PasswordDraw Token}
  {store store' : PasswordStore Token} {phase phase' : PasswordPhase Token} {kind k : TokenKind}

/-- The phase says nothing about a token of the kind. -/
structure PasswordPhase.Quiet (kind : TokenKind) (phase : PasswordPhase Token) : Prop where
  checked : phase.checked kind = none
  opened : phase.opened kind = none
  used : phase.used kind = none

theorem moves_of_quiet (hcurrent : (store'.user.columns kind).hash = (store.user.columns kind).hash)
    (hissued : store.issued ⊆ store'.issued) (hquiet : phase'.Quiet kind) :
    (passwordTokens Token kind).Moves store phase store' phase' :=
  .stays hcurrent hissued (fun _ ht ↦ absurd (ht.symm.trans hquiet.checked) nofun)
    (fun _ ht ↦ absurd (ht.symm.trans hquiet.opened) nofun)
    fun _ ht ↦ absurd (ht.symm.trans hquiet.used) nofun

theorem quiet_refused {error : String} : (.refused error : PasswordPhase Token).Quiet kind :=
  ⟨rfl, rfl, rfl⟩

theorem quiet_afterRequest {canResend : Bool} {user : PasswordUser Token} :
    (afterRequest k canResend user).Quiet kind := by
  cases k with
  | invite =>
    rw [afterRequest]
    split_ifs <;> exact ⟨rfl, rfl, rfl⟩
  | reset =>
    rw [afterRequest]
    split_ifs <;> exact ⟨rfl, rfl, rfl⟩

/-- A call that passes the checks has found its token. -/
theorem afterLookUp_cases [DecidableEq Token] (request : PasswordRequest Token) (now : Time)
    (user : PasswordUser Token) :
    (∀ kind, (afterLookUp request now user).Quiet kind) ∨
      afterLookUp request now user = .hashing request user.email ∧
        (user.columns request.kind).hash = some request.token := by
  rw [afterLookUp]
  by_cases hhash : (user.columns request.kind).hash = some request.token
  · rw [if_neg (not_not.mpr hhash)]
    split_ifs
    · exact .inl fun _ ↦ quiet_refused
    · exact .inl fun _ ↦ ⟨rfl, rfl, rfl⟩
    · exact .inl fun _ ↦ ⟨rfl, rfl, rfl⟩
    · exact .inr ⟨rfl, hhash⟩
  · rw [if_pos hhash]
    exact .inl fun _ ↦ quiet_refused

/-- A transaction that begins, if it is not given up, has the token of its call. -/
theorem afterBegin_cases (store : PasswordStore Token) (request : PasswordRequest Token)
    (email passwordHash : String) :
    (∀ kind, (afterBegin store request email passwordHash).Quiet kind) ∨
      (afterBegin store request email passwordHash).opened request.kind = some request.token ∧
        (∀ kind, (afterBegin store request email passwordHash).checked kind = none ∧
          (afterBegin store request email passwordHash).used kind = none) ∧
        ∀ kind ≠ request.kind,
          (afterBegin store request email passwordHash).opened kind = none := by
  cases request with
  | completeInvite token input =>
    rw [afterBegin]
    split_ifs
    · exact .inl fun _ ↦ quiet_refused
    · exact .inr ⟨rfl, fun _ ↦ ⟨rfl, rfl⟩, fun _ hne ↦ if_neg hne⟩
  | resetPassword token => exact .inr ⟨rfl, fun _ ↦ ⟨rfl, rfl⟩, fun _ hne ↦ if_neg hne⟩

theorem hash_setColumns {columns : TokenColumns Token} :
    ((store.setColumns k columns).user.columns kind).hash
      = if kind = k then columns.hash else (store.user.columns kind).hash := by
  rw [PasswordStore.setColumns]
  dsimp only
  by_cases hkind : kind = k
  · subst hkind
    rw [if_pos rfl, Function.update_self]
  · rw [if_neg hkind, Function.update_of_ne hkind]

theorem hash_storeReset {passwordHash : String} {now : Time} :
    ((store.storeReset passwordHash now).user.columns kind).hash
      = if kind = .reset then none else (store.user.columns kind).hash := by
  rw [PasswordStore.storeReset]
  dsimp only
  by_cases hkind : kind = .reset
  · subst hkind
    rw [if_pos rfl, Function.update_self]
  · rw [if_neg hkind, Function.update_of_ne hkind]

/-- A statement of an invitation in its transaction: the next membership gets an employee, or its
numbers are taken; after the last one everything is stored, or the store refuses. -/
theorem creating_cases [DecidableEq Token] {call : OpenInvite Token} {rest : List UserMembership}
    {created : List (UserMembership × EmployeeDraw)}
    (h : passwordStatement i draw store (.creating call rest created) = some (store', phase')) :
    (∃ m rest', rest = m :: rest' ∧ store' = store ∧
      ((∃ message, phase' = .refused message) ∨
        phase' = .creating call rest' (created ++ [(m, draw.employee)]))) ∨
    (rest = [] ∧
      ((store' = store ∧ phase' = .failed) ∨
        (store.storeInvite call created = some store' ∧
          phase' = .succeeded .invite call.token call.atBegin))) := by
  cases rest with
  | cons m rest =>
    rw [passwordStatement] at h
    cases havailable : store.staff.ensureIdentityAvailable m.workspaceId none
        ⟨call.input.employeeNumber, call.input.badgeNumber⟩ with
    | error message =>
      rw [havailable] at h
      cases h
      exact .inl ⟨m, rest, rfl, rfl, .inl ⟨message, rfl⟩⟩
    | ok _ =>
      rw [havailable] at h
      cases h
      exact .inl ⟨m, rest, rfl, rfl, .inr rfl⟩
  | nil =>
    rw [passwordStatement] at h
    cases hstored : store.storeInvite call created with
    | none =>
      rw [hstored] at h
      cases h
      exact .inr ⟨rfl, .inl ⟨rfl, rfl⟩⟩
    | some stored =>
      rw [hstored] at h
      cases h
      exact .inr ⟨rfl, .inr ⟨rfl, rfl⟩⟩

/-- What a statement does with the tokens of a kind. -/
theorem password_moves [DecidableEq Token]
    (h : passwordStatement i draw store phase = some (store', phase')) :
    (passwordTokens Token kind).Moves store phase store' phase' := by
  cases phase with
  | requesting k canResend =>
    cases h
    exact moves_of_quiet rfl (List.Subset.refl _) quiet_afterRequest
  | issuing k =>
    rw [passwordStatement] at h
    split_ifs at h with hdrawn
    cases h
    have hissued : store.issued ⊆ draw.random :: store.issued := List.subset_cons_self _ _
    by_cases hkind : kind = k
    · exact .issues (decide_eq_true hkind.symm) hdrawn (hash_setColumns.trans (if_pos hkind))
        List.mem_cons_self hissued rfl rfl rfl
    · exact moves_of_quiet (hash_setColumns.trans (if_neg hkind)) hissued ⟨rfl, rfl, rfl⟩
  | completing request =>
    cases h
    rcases afterLookUp_cases request draw.now store.user with hquiet | ⟨hpassed, hhash⟩
    · exact moves_of_quiet rfl (List.Subset.refl _) (hquiet kind)
    · rw [hpassed]
      by_cases hkind : request.kind = kind
      · exact .checks (hkind ▸ hhash) rfl (List.Subset.refl _) (if_pos hkind) rfl rfl
      · exact moves_of_quiet rfl (List.Subset.refl _) ⟨if_neg hkind, rfl, rfl⟩
  | counting k error =>
    cases h
    refine moves_of_quiet (hash_setColumns.trans ?_) (List.Subset.refl _) quiet_refused
    split_ifs with hkind
    · rw [hkind]
    · rfl
  | hashing request email =>
    cases h
    exact .stays rfl (List.Subset.refl _) (fun _ ht ↦ ht) nofun nofun
  | beginning request email passwordHash =>
    cases h
    rcases afterBegin_cases store request email passwordHash with hquiet | ⟨hown, hnone, hother⟩
    · exact moves_of_quiet rfl (List.Subset.refl _) (hquiet kind)
    · by_cases hkind : request.kind = kind
      · subst hkind
        exact .begins (if_pos rfl) rfl (List.Subset.refl _) (hnone _).1 hown (hnone _).2
      · exact moves_of_quiet rfl (List.Subset.refl _)
          ⟨(hnone kind).1, hother kind (Ne.symm hkind), (hnone kind).2⟩
  | creating call rest created =>
    rcases creating_cases h with
      ⟨m, rest', rfl, rfl, ⟨message, rfl⟩ | rfl⟩ | ⟨rfl, ⟨rfl, rfl⟩ | ⟨hstored, rfl⟩⟩
    · exact moves_of_quiet rfl (List.Subset.refl _) quiet_refused
    · exact .stays rfl (List.Subset.refl _) nofun (fun _ ht ↦ ht) nofun
    · exact moves_of_quiet rfl (List.Subset.refl _) ⟨rfl, rfl, rfl⟩
    · obtain ⟨hhash, hreset, hissued⟩ := PasswordStore.inviteStored hstored
      have hkept : store.issued ⊆ store'.issued := hissued ▸ List.Subset.refl _
      cases kind with
      | invite => exact .uses rfl rfl hhash hkept rfl rfl rfl
      | reset => exact moves_of_quiet (congrArg _ hreset) hkept ⟨rfl, rfl, rfl⟩
  | setting token passwordHash atBegin =>
    cases h
    cases kind with
    | invite =>
      exact moves_of_quiet (hash_storeReset.trans (if_neg nofun)) (List.Subset.refl _)
        ⟨rfl, rfl, rfl⟩
    | reset =>
      exact .uses rfl rfl (hash_storeReset.trans (if_pos rfl)) (List.Subset.refl _) rfl rfl rfl
  | _ => cases h

end

/-! ## Every run -/

namespace PasswordPhase

variable {Token : Type*}

/-- What holds of a call: it has begun with the token of the user, and an invitation creates an
employee for each membership without one. -/
def Holds (store : PasswordStore Token) : PasswordPhase Token → Prop
  | .creating call rest created =>
    created.map Prod.fst ++ rest = store.unlinked ∧ call.atBegin = some call.token
  | .setting token _ atBegin => atBegin = some token
  | .succeeded kind token atBegin =>
    atBegin = some token ∧ (kind = .invite → store.unlinked = [])
  | _ => True

theorem IsRequest.quiet {phase : PasswordPhase Token} {kind : TokenKind} (h : phase.IsRequest) :
    phase.Quiet kind := by
  cases phase with
  | requesting | completing => exact ⟨rfl, rfl, rfl⟩
  | _ => exact absurd h id

theorem IsRequest.holds {phase : PasswordPhase Token} {store : PasswordStore Token}
    (h : phase.IsRequest) : phase.Holds store := by
  cases phase with
  | requesting | completing => trivial
  | _ => exact absurd h id

/-- What holds of a call depends on the memberships without an employee alone, and only while an
invitation is open or after one is done. -/
theorem Holds.congr {phase : PasswordPhase Token} {store store' : PasswordStore Token}
    (h : phase.Holds store)
    (hunlinked : store'.unlinked = store.unlinked ∨
      phase.opened .invite = none ∧ store'.unlinked = []) : phase.Holds store' := by
  cases phase with
  | creating =>
    rcases hunlinked with hsame | ⟨hopened, -⟩
    · exact ⟨h.1.trans hsame.symm, h.2⟩
    · cases hopened
  | succeeded =>
    refine ⟨h.1, fun hkind ↦ ?_⟩
    rcases hunlinked with hsame | ⟨-, hnone⟩
    · exact hsame.trans (h.2 hkind)
    · exact hnone
  | _ => exact h

end PasswordPhase

section

variable {ι Token : Type*} [DecidableEq Token] {i : ι} {draw : PasswordDraw Token}
  {start store store' : PasswordStore Token} {phase phase' : PasswordPhase Token}

omit [DecidableEq Token] in
theorem quiet_holds (h : ∀ kind, phase.Quiet kind) : phase.Holds store := by
  cases phase with
  | creating => exact absurd (h .invite).opened nofun
  | setting => exact absurd (h .reset).opened nofun
  | succeeded kind => exact absurd ((h kind).used.symm.trans (if_pos rfl)) nofun
  | _ => trivial

/-- Only an invitation that is done changes the employees and the memberships. -/
theorem linked_step (hlinked : start.Linked store) (hholds : phase.Holds store)
    (hgood : ∀ kind t, phase.checked kind = some t → (store.user.columns kind).hash = some t)
    (h : passwordStatement i draw store phase = some (store', phase')) :
    start.Linked store' ∧ phase'.Holds store' ∧
      (store'.unlinked = store.unlinked ∨
        phase.finishes .invite = true ∧ store'.unlinked = []) := by
  cases phase with
  | requesting k canResend =>
    cases h
    exact ⟨hlinked, quiet_holds fun _ ↦ quiet_afterRequest, .inl rfl⟩
  | issuing k =>
    rw [passwordStatement] at h
    split_ifs at h
    cases h
    exact ⟨⟨hlinked.memberships, hlinked.employees, hlinked.kept⟩, trivial, .inl rfl⟩
  | completing request =>
    cases h
    rcases afterLookUp_cases request draw.now store.user with hquiet | ⟨hpassed, -⟩
    · exact ⟨hlinked, quiet_holds hquiet, .inl rfl⟩
    · rw [hpassed]
      exact ⟨hlinked, trivial, .inl rfl⟩
  | counting k error =>
    cases h
    exact ⟨⟨hlinked.memberships, hlinked.employees, hlinked.kept⟩, trivial, .inl rfl⟩
  | hashing request email =>
    cases h
    exact ⟨hlinked, trivial, .inl rfl⟩
  | beginning request email passwordHash =>
    cases h
    refine ⟨hlinked, ?_, .inl rfl⟩
    have hhash := hgood request.kind request.token (if_pos rfl)
    cases request with
    | completeInvite token input =>
      rw [afterBegin]
      split_ifs
      · trivial
      · exact ⟨rfl, hhash⟩
    | resetPassword token => exact hhash
  | creating call rest created =>
    obtain ⟨hall, hbegin⟩ := hholds
    rcases creating_cases h with
      ⟨m, rest', rfl, rfl, ⟨message, rfl⟩ | rfl⟩ | ⟨rfl, ⟨rfl, rfl⟩ | ⟨hstored, rfl⟩⟩
    · exact ⟨hlinked, trivial, .inl rfl⟩
    · refine ⟨hlinked, ⟨?_, hbegin⟩, .inl rfl⟩
      rw [List.map_append, List.append_assoc]
      exact hall
    · exact ⟨hlinked, trivial, .inl rfl⟩
    · rw [List.append_nil] at hall
      obtain ⟨hlinked, hnone⟩ := hlinked.storeInvite hall hstored
      exact ⟨hlinked, ⟨hbegin, fun _ ↦ hnone⟩, .inr ⟨rfl, hnone⟩⟩
  | setting token passwordHash atBegin =>
    cases h
    exact ⟨⟨hlinked.memberships, hlinked.employees, hlinked.kept⟩, ⟨hholds, nofun⟩, .inl rfl⟩
  | _ => cases h

end

/-- What holds throughout: tokens are used once, and employees are those of memberships. -/
structure PasswordSound {ι Token : Type*} (start : PasswordStore Token)
    (s : PasswordCalls ι Token) : Prop where
  tokens : ∀ kind, (passwordTokens Token kind).Sound s
  linked : start.Linked s.store
  holds : ∀ i, (s.phase i).Holds s.store

/-- What the database holds at the start: the token of the user has been drawn for the user, and the
employee of a membership is there. -/
structure PasswordStore.WellFormed {Token : Type*} (store : PasswordStore Token) : Prop where
  issued : ∀ kind t, (store.user.columns kind).hash = some t → t ∈ store.issued
  employed : ∀ m ∈ store.memberships.rows, ∀ id, m.employeeId = some id →
    ∃ e ∈ store.staff.employees.rows, e.id = id

section

variable {Token : Type*} {start store : PasswordStore Token}

/-- Two memberships of a workspace are one. -/
theorem eq_of_workspaceId {m m' : UserMembership}
    (hm : m ∈ store.memberships.rows) (hm' : m' ∈ store.memberships.rows)
    (hws : m.workspaceId = m'.workspaceId) : m = m' := by
  by_contra hne
  exact absurd (store.memberships.clash_eq_false hm hm' hne) (by simp [userMembershipSchema, hws])

/-- The membership of an employee that is new is the one in the workspace. -/
theorem PasswordStore.Linked.workspaceId_eq {m : UserMembership} {e : Employee}
    (hlinked : start.Linked store) (hstart : start.WellFormed)
    (hm : m ∈ store.memberships.rows) (he : e ∈ store.staff.employees.rows) (hnew : start.IsNew e)
    (hid : m.employeeId = some e.id) : e.workspaceId = m.workspaceId := by
  rcases hlinked.memberships m hm with hold | ⟨-, e', he', -, hid', hws⟩
  · obtain ⟨x, hx, hxid⟩ := hstart.employed m hold e.id hid
    exact absurd hxid (hnew x hx)
  · obtain rfl := store.staff.employees.eq_of_key_eq he he'
      (Option.some_inj.mp (hid.symm.trans hid'))
    exact hws

/-- An employee that is new has one membership. -/
theorem PasswordStore.Linked.existsUnique_membership {e : Employee}
    (hlinked : start.Linked store) (hstart : start.WellFormed)
    (he : e ∈ store.staff.employees.rows) (hnew : start.IsNew e) :
    ∃! m, m ∈ store.memberships.rows ∧ m.employeeId = some e.id := by
  obtain ⟨m, hm, hid, hws⟩ := hlinked.employees e he hnew
  refine ⟨m, ⟨hm, hid⟩, ?_⟩
  rintro m' ⟨hm', hid'⟩
  exact eq_of_workspaceId hm' hm ((hlinked.workspaceId_eq hstart hm' he hnew hid').symm.trans hws)

/-- A membership has the employee that it had, or the one employee that is new in its workspace. -/
def PasswordStore.Employed (start store : PasswordStore Token) (m : UserMembership) : Prop :=
  (m ∈ start.memberships.rows ∧ m.employeeId ≠ none ∧
    ∀ e ∈ store.staff.employees.rows, start.IsNew e → e.workspaceId ≠ m.workspaceId) ∨
  { m with employeeId := none } ∈ start.memberships.rows ∧ ∃ e, m.employeeId = some e.id ∧
    ∀ e', e' ∈ store.staff.employees.rows ∧ start.IsNew e' ∧ e'.workspaceId = m.workspaceId ↔
      e' = e

theorem PasswordStore.Linked.employed {m : UserMembership}
    (hlinked : start.Linked store) (hstart : start.WellFormed) (hunlinked : store.unlinked = [])
    (hm : m ∈ store.memberships.rows) : start.Employed store m := by
  -- the new employees of the workspace are that of the membership
  have hown : ∀ e ∈ store.staff.employees.rows, start.IsNew e → e.workspaceId = m.workspaceId →
      m.employeeId = some e.id := by
    intro e he hnew hws
    obtain ⟨m', hm', hid, hws'⟩ := hlinked.employees e he hnew
    rwa [eq_of_workspaceId hm hm' (hws.symm.trans hws')]
  rcases hlinked.memberships m hm with hold | ⟨hwas, e, he, hnew, hid, hws⟩
  · refine .inl ⟨hold, fun hnone ↦ ?_, fun e he hnew hws ↦ ?_⟩
    · exact absurd (PasswordStore.mem_unlinked.mpr ⟨hm, hnone⟩) (hunlinked ▸ List.not_mem_nil)
    · obtain ⟨x, hx, hxid⟩ := hstart.employed m hold e.id (hown e he hnew hws)
      exact hnew x hx hxid
  · refine .inr ⟨hwas, e, hid, fun e' ↦ ⟨?_, ?_⟩⟩
    · rintro ⟨he', hnew', hws'⟩
      exact store.staff.employees.eq_of_key_eq he' he
        (Option.some_inj.mp ((hown e' he' hnew' hws').symm.trans hid))
    · rintro rfl
      exact ⟨he, hnew, hws⟩

end

section

variable {ι Token : Type*} [DecidableEq ι] [DecidableEq Token] {start : PasswordStore Token}
  {s s' s₀ : PasswordCalls ι Token} {a : ι × PasswordDraw Token}
  {as : List (ι × PasswordDraw Token)}

/-- **One step** that takes no token from another call. -/
theorem passwordSound_step (hok : TakesNoToken s a) (h : PasswordSound start s)
    (hstep : Calls.step passwordStatement a s = some s') : PasswordSound start s' := by
  obtain ⟨hstatement, hothers⟩ := Calls.of_step hstep
  obtain ⟨hlinked, hown, hunlinked⟩ := linked_step h.linked (h.holds a.1)
    (fun kind t ht ↦ (h.tokens kind).checked_current a.1 t ht) hstatement
  refine ⟨fun kind ↦ TokenUse.sound_step (h.tokens kind) (hok.1 kind) hothers
    (password_moves hstatement), hlinked, fun j ↦ ?_⟩
  by_cases hj : j = a.1
  · exact hj ▸ hown
  · rw [hothers j hj]
    refine (h.holds j).congr ?_
    rcases hunlinked with hsame | ⟨hfinishes, hnone⟩
    · exact .inl hsame
    · exact .inr ⟨hok.2 hfinishes j hj, hnone⟩

theorem passwordSound_run (hrequests : ∀ i, (s₀.phase i).IsRequest) (hstart : s₀.store.WellFormed)
    (hrun : Run (Calls.step passwordStatement) TakesNoToken s₀ as s) :
    PasswordSound s₀.store s := by
  refine hrun.invariant ⟨fun kind ↦ ?_, PasswordStore.linked_refl, fun i ↦ (hrequests i).holds⟩
    fun _ _ _ hs hok hstep ↦ passwordSound_step hok hs hstep
  exact TokenUse.sound_start (hstart.issued kind) (fun i ↦ (hrequests i).quiet.checked)
    (fun i ↦ (hrequests i).quiet.opened) fun i ↦ (hrequests i).quiet.used

/-- **Password tokens are used once** in every interleaving in which no step takes the token from a
call that has found it: no two calls succeed with a token, a call that succeeds has begun with the
token of the user, and an invitation leaves each membership with one employee, and no employee
without a membership. -/
theorem password_tokens_used_once (hrequests : ∀ i, (s₀.phase i).IsRequest)
    (hstart : s₀.store.WellFormed)
    (hrun : Run (Calls.step passwordStatement) TakesNoToken s₀ as s) :
    (∀ i j kind token atBegin atBegin', s.phase i = .succeeded kind token atBegin →
      s.phase j = .succeeded kind token atBegin' → i = j) ∧
    (∀ i kind token atBegin, s.phase i = .succeeded kind token atBegin → atBegin = some token) ∧
    (∀ e ∈ s.store.staff.employees.rows, s₀.store.IsNew e →
      ∃! m, m ∈ s.store.memberships.rows ∧ m.employeeId = some e.id) ∧
    ∀ i token atBegin, s.phase i = .succeeded .invite token atBegin →
      ∀ m ∈ s.store.memberships.rows, s₀.store.Employed s.store m := by
  have h := passwordSound_run hrequests hstart hrun
  have hused : ∀ {i kind token atBegin}, s.phase i = .succeeded kind token atBegin →
      (s.phase i).used kind = some token := fun hi ↦ hi ▸ if_pos rfl
  refine ⟨fun i j kind token _ _ hi hj ↦ (h.tokens kind).once i j token (hused hi) (hused hj),
    fun i _ _ _ hi ↦ ?_, fun e he hnew ↦ h.linked.existsUnique_membership hstart he hnew,
    fun i _ _ hi m hm ↦ ?_⟩
  · have hholds := h.holds i
    rw [hi] at hholds
    exact hholds.1
  · have hholds := h.holds i
    rw [hi] at hholds
    exact h.linked.employed hstart (hholds.2 rfl) hm

end

/-! ## An invitation that is completed twice -/

/-- A user with an invitation to one workspace. -/
def invitedUser : PasswordStore ℕ where
  user :=
    { email := "ann@example.com"
      systemRole := none
      status := .PENDING
      passwordHash := none
      firstName := ""
      lastName := ""
      columns := Function.update (fun _ ↦ ⟨none, none, 0⟩) .invite ⟨some 7, some 1000, 0⟩ }
  memberships := ⟨[⟨31, 2, none⟩], List.nodup_singleton _, List.pairwise_singleton _ _⟩
  refreshTokens := []
  staff := operatorSite
  issued := [7]

/-- Two calls with the token. -/
def twoInvitees : PasswordCalls Bool ℕ where
  store := invitedUser
  phase _ := .completing (.completeInvite 7 ⟨some "Ann", some "Lee", none, none, none⟩)

/-- One draw for each call. -/
def inviteDraw (second : Bool) : Bool × PasswordDraw ℕ :=
  (second, ⟨500, 8, "hash", if second then ⟨500, 12, 22, ""⟩ else ⟨500, 11, 21, ""⟩⟩)

theorem invitedUser_wellFormed : invitedUser.WellFormed where
  issued kind t ht := by
    cases kind with
    | invite =>
      cases ht
      exact List.mem_singleton_self 7
    | reset => cases ht
  employed m hm id hid := by
    obtain rfl := List.mem_singleton.mp hm
    cases hid

/-- One call after the other. -/
theorem password_tokens_used_once_twoInvitees : ∃ s : PasswordCalls Bool ℕ,
    s.phase false = .succeeded .invite 7 (some 7) ∧
    s.phase true = .refused "Invalid or expired invite token" ∧
    ∀ m ∈ s.store.memberships.rows, invitedUser.Employed s.store m := by
  have hexecute : (execute (Calls.step passwordStatement) TakesNoToken
      ([false, false, false, false, false, true].map inviteDraw) twoInvitees).any
      (fun s ↦ decide (s.phase false = .succeeded .invite 7 (some 7) ∧
        s.phase true = .refused "Invalid or expired invite token")) = true := by
    decide +kernel
  obtain ⟨s, hs, hfacts⟩ := (Option.any_eq_true _ _).mp hexecute
  obtain ⟨hfirst, hsecond⟩ := of_decide_eq_true hfacts
  have hrequests : ∀ i, (twoInvitees.phase i).IsRequest := fun _ ↦ trivial
  exact ⟨s, hfirst, hsecond, (password_tokens_used_once hrequests invitedUser_wellFormed
    (run_of_execute hs)).2.2.2 false 7 (some 7) hfirst⟩

/-- **Two calls succeed with one token** when both have looked the user up before the other is
done, and one of the two employees has no membership. -/
theorem not_password_tokens_used_once : ∃ s : PasswordCalls Bool ℕ,
    Run (Calls.step passwordStatement) (fun _ _ ↦ True) twoInvitees
      ([false, true, false, true, false, true, false, true, false, true].map inviteDraw) s ∧
    s.phase false = .succeeded .invite 7 (some 7) ∧ s.phase true = .succeeded .invite 7 (some 7) ∧
    s.store.staff.employees.rows.map Employee.id = [11, 12] ∧
    s.store.memberships.rows.map UserMembership.employeeId = [some 12] := by
  have hexecute : (execute (Calls.step passwordStatement) (fun _ _ ↦ True)
      ([false, true, false, true, false, true, false, true, false, true].map inviteDraw)
      twoInvitees).any (fun s ↦ decide (s.phase false = .succeeded .invite 7 (some 7) ∧
        s.phase true = .succeeded .invite 7 (some 7) ∧
        s.store.staff.employees.rows.map Employee.id = [11, 12] ∧
        s.store.memberships.rows.map UserMembership.employeeId = [some 12])) = true := by
    decide +kernel
  obtain ⟨s, hs, hfacts⟩ := (Option.any_eq_true _ _).mp hexecute
  exact ⟨s, run_of_execute hs, of_decide_eq_true hfacts⟩

end RwServer
