import Mathlib
import RwServer.Auth.RefreshTokens
import RwServer.Employee.Identities

/-!
# Logons of operators

An operator logs on at a display of a station. Where one operator at a time may be logged on, a
logon first ends the open sessions of the station, or of the display; then it looks whether the
employee is logged on at the display, and then it creates a session. A logoff looks whether its
session is open, and then ends it. These are statements of their own, with no transaction around
them, and other requests come in between.

`logons_exclusive` says when there is one open session at most, and none is ended twice: when no
statement opens a session that another request has found none of, and none ends a session that
another one has found open.
-/

namespace RwServer

open Relational Transition

/-! ## Sessions and displays -/

inductive LogonMethod
  | EMPLOYEE_ID
  | PIN
  | BADGE
  | GENERIC
deriving DecidableEq, Repr

namespace LogonMethod

def toString : LogonMethod → String
  | .EMPLOYEE_ID => "EMPLOYEE_ID"
  | .PIN => "PIN"
  | .BADGE => "BADGE"
  | .GENERIC => "GENERIC"

end LogonMethod

/-- A row of `StationLogonSession`. -/
structure StationLogonSession where
  id : Uuid
  employeeId : Option Uuid
  versionId : Option Uuid
  stationId : Uuid
  displayId : Uuid
  genericName : Option String
  logonMethod : LogonMethod
  logonTime : Time
  logoffTime : Option Time
  shiftInstanceId : Option Uuid
deriving DecidableEq, Repr

def logonSessionSchema : Schema StationLogonSession Uuid where
  key := StationLogonSession.id
  clash _ _ := false
  clash_symm _ _ := rfl

/-- What the attributes of a site or of a display say about logons. -/
structure LogonAttrs where
  enabledMethods : Option (List LogonMethod)
  multiLogon : Option Bool
deriving DecidableEq, Repr

structure OperatorLogonConfig where
  enabledMethods : List LogonMethod
  multiLogon : Bool
deriving DecidableEq, Repr

/-- `DEFAULT_CONFIG`. -/
def defaultLogonConfig : OperatorLogonConfig where
  enabledMethods := [.BADGE, .EMPLOYEE_ID, .PIN, .GENERIC]
  multiLogon := true

/-- A display, with the attributes of its site. -/
structure LogonDisplay where
  status : DisplayStatus
  siteId : Option Uuid
  stationId : Option Uuid
  siteAttrs : LogonAttrs
  attrs : LogonAttrs
deriving DecidableEq, Repr

/-- Those of the display come before those of the site. -/
def LogonDisplay.config (display : LogonDisplay) : OperatorLogonConfig where
  enabledMethods := (display.attrs.enabledMethods.or display.siteAttrs.enabledMethods).getD
    defaultLogonConfig.enabledMethods
  multiLogon := (display.attrs.multiLogon.or display.siteAttrs.multiLogon).getD
    defaultLogonConfig.multiLogon

structure LogonStore where
  sessions : Table logonSessionSchema
  displays : Uuid → Option LogonDisplay
  /-- The site of a station. -/
  stations : Uuid → Option Uuid

/-! ## Requests -/

inductive MultiLogonMode
  | useSite
  | single
  | multi
deriving DecidableEq, Repr

/-- Whose sessions a logon ends. -/
inductive LogonScope
  | station
  | display
deriving DecidableEq, Repr

structure OperatorLogonInput where
  displayId : Uuid
  method : LogonMethod
  genericName : Option String
  multiLogonMode : Option MultiLogonMode
  stationId : Uuid
deriving DecidableEq, Repr

/-- `multiLogonResolved`: the scope of the sessions to end, if more than one is not allowed. -/
def resolveScope (mode : Option MultiLogonMode) (config : OperatorLogonConfig) :
    Option LogonScope :=
  match mode with
  | some .single => some .display
  | some .multi => none
  | _ => if config.multiLogon then none else some .station

structure LogonInput where
  employeeId : Option Uuid
  versionId : Option Uuid
  stationId : Uuid
  displayId : Uuid
  logonMethod : LogonMethod
  genericName : Option String
deriving DecidableEq, Repr

inductive OperatorRequest
  | logon (input : OperatorLogonInput)
  | logoff (displayId sessionId : Uuid)
  | logoffAll (displayId : Uuid)
deriving DecidableEq, Repr

def OperatorRequest.displayId : OperatorRequest → Uuid
  | .logon input => input.displayId
  | .logoff displayId _ | .logoffAll displayId => displayId

/-- What `authenticate` says, and the employee that is created where it finds none. -/
inductive LogonAuth
  | success (employeeId versionId : Option Uuid)
  | failure (error : String)
deriving DecidableEq, Repr

/-- What a statement gets from outside: the time, the key of a new row, the outcome of the
authentication, and the shift that runs. -/
structure LogonDraw where
  now : Time
  sessionId : Uuid
  auth : LogonAuth
  shiftInstanceId : Option Uuid
deriving DecidableEq, Repr

/-- The row that a logon creates. -/
def LogonInput.session (input : LogonInput) (draw : LogonDraw) : StationLogonSession where
  id := draw.sessionId
  employeeId := input.employeeId
  versionId := input.versionId
  stationId := input.stationId
  displayId := input.displayId
  genericName := nonEmpty input.genericName
  logonMethod := input.logonMethod
  logonTime := draw.now
  logoffTime := none
  shiftInstanceId := draw.shiftInstanceId

/-- Which statement of a request comes next. -/
inductive OperatorPhase
  /-- The request comes from a display that has a token. -/
  | requested (authenticatedDisplayId : Uuid) (request : OperatorRequest)
  | locating (input : OperatorLogonInput) (config : OperatorLogonConfig) (siteId : Uuid)
  | authenticating (input : OperatorLogonInput) (scope : Option LogonScope)
  | closing (scope : LogonScope) (input : LogonInput)
  | finding (scope : Option LogonScope) (input : LogonInput)
  | checking (scope : Option LogonScope) (input : LogonInput)
  | creating (scope : Option LogonScope) (input : LogonInput)
  | ending (sessionId displayId : Uuid)
  | endingAll (displayId : Uuid)
  | listing (displayId : Uuid)
  | answered (activeSessions : List StationLogonSession)
  | refused (error : ServiceError)
  | failed
deriving DecidableEq, Repr

/-! ## The requests, statement by statement -/

namespace StationLogonSession

def IsOpen (r : StationLogonSession) : Prop := r.logoffTime = none

instance decidableIsOpen (r : StationLogonSession) : Decidable r.IsOpen :=
  inferInstanceAs (Decidable (_ = _))

end StationLogonSession

/-- `where` of a logon that ends the sessions of a scope. -/
def LogonScope.covers (scope : LogonScope) (stationId displayId : Uuid) (r : StationLogonSession) :
    Bool :=
  match scope with
  | .station => decide (r.stationId = stationId)
  | .display => decide (r.displayId = displayId)

namespace LogonStore

variable (store : LogonStore)

/-- The displays that are claimed for a site. -/
def resolveDisplayContext (displayId : Uuid) : Option (LogonDisplay × Uuid) :=
  (store.displays displayId).bind fun display ↦
    if display.status ≠ .CLAIMED then none else display.siteId.map fun siteId ↦ (display, siteId)

/-- An update that sets the logoff time of some sessions. -/
def endSessions (p : StationLogonSession → Bool) (now : Time) : LogonStore :=
  { store with
    sessions := store.sessions.modify p (fun r ↦ { r with logoffTime := some now })
      ⟨fun _ ↦ rfl, fun _ _ h ↦ h⟩ }

/-- `logoffByScope`. A display that is not at a station stands in for a station that is not
given. -/
def logoffByScope (scope : LogonScope) (displayId : Uuid) (stationId : Option Uuid) (now : Time) :
    LogonStore :=
  match scope, stationId.or ((store.displays displayId).bind LogonDisplay.stationId) with
  | .station, none => store
  | .station, some stationId =>
    store.endSessions (fun r ↦ decide r.IsOpen && decide (r.stationId = stationId)) now
  | .display, _ =>
    store.endSessions (fun r ↦ decide r.IsOpen && decide (r.displayId = displayId)) now

/-- `getActiveSessions`. -/
def activeSessions (displayId : Uuid) : List StationLogonSession :=
  (store.sessions.rows.filter fun r ↦ decide (r.displayId = displayId ∧ r.IsOpen)).insertionSort
    fun r r' ↦ r.logonTime ≤ r'.logonTime

end LogonStore

/-- The code that the request answers with, of an error of `logon`. -/
def logonError (error : ServiceError) : ServiceError :=
  { error with
    code := if error.code = "ALREADY_LOGGED_ON" then "CONFLICT" else "INTERNAL_SERVER_ERROR" }

/-- The same, of an error of `logoff`. -/
def logoffError (error : ServiceError) : ServiceError :=
  { error with
    code := if error.code = "NOT_FOUND" then "NOT_FOUND"
      else if error.code = "FORBIDDEN" then "FORBIDDEN" else "BAD_REQUEST" }

/-- The checks on the session of a logoff. -/
def afterFindSession (displayId sessionId : Uuid) : Option StationLogonSession → OperatorPhase
  | none => .refused (logoffError ⟨"Session not found", "NOT_FOUND"⟩)
  | some session =>
    if session.displayId ≠ displayId then
      .refused (logoffError ⟨"Session does not belong to this display", "FORBIDDEN"⟩)
    else if session.logoffTime.isSome then
      .refused (logoffError ⟨"Session already ended", "ALREADY_ENDED"⟩)
    else .ending sessionId displayId

/-- The checks on the display of a logon. -/
def afterResolve (input : OperatorLogonInput) : Option (LogonDisplay × Uuid) → OperatorPhase
  | none => .refused ⟨"Display not found or not claimed", "NOT_FOUND"⟩
  | some (display, siteId) =>
    if display.stationId.any fun stationId ↦ stationId ≠ input.stationId then
      .refused ⟨"Display is provisioned to a different station", "BAD_REQUEST"⟩
    else .locating input display.config siteId

/-- The checks on the station of a logon. -/
def afterLocate (input : OperatorLogonInput) (config : OperatorLogonConfig) (siteId : Uuid)
    (station : Option Uuid) : OperatorPhase :=
  if station ≠ some siteId then .refused ⟨"Selected station is not at this site", "BAD_REQUEST"⟩
  else if input.method ∉ config.enabledMethods then
    .refused ⟨"Auth method '" ++ input.method.toString ++ "' is not enabled", "BAD_REQUEST"⟩
  else .authenticating input (resolveScope input.multiLogonMode config)

/-- What becomes of a logon when the operator is known. -/
def afterAuth (input : OperatorLogonInput) (scope : Option LogonScope) : LogonAuth → OperatorPhase
  | .failure error => .refused ⟨error, "FORBIDDEN"⟩
  | .success employeeId versionId =>
    let genericName := if input.method = .GENERIC then input.genericName else none
    let logon : LogonInput :=
      ⟨employeeId, versionId, input.stationId, input.displayId, input.method, genericName⟩
    match scope with
    | some scope => .closing scope logon
    | none => .finding none logon

/-- The next statement of a request. -/
def operatorStatement {ι : Type*} (_ : ι) (draw : LogonDraw) (store : LogonStore) :
    OperatorPhase → Option (LogonStore × OperatorPhase)
  | .requested authenticatedDisplayId request =>
    some (store, if request.displayId ≠ authenticatedDisplayId then
        .refused ⟨"Display token does not match requested display", "FORBIDDEN"⟩
      else match request with
        | .logon input => afterResolve input (store.resolveDisplayContext input.displayId)
        | .logoff displayId sessionId =>
          afterFindSession displayId sessionId (store.sessions.find sessionId)
        | .logoffAll displayId => .endingAll displayId)
  | .locating input config siteId =>
    some (store, afterLocate input config siteId (store.stations input.stationId))
  | .authenticating input scope => some (store, afterAuth input scope draw.auth)
  | .closing scope input =>
    some (store.logoffByScope scope input.displayId (some input.stationId) draw.now,
      .finding (some scope) input)
  | .finding scope input =>
    some (store, if (store.stations input.stationId).isNone then
        .refused (logonError ⟨"Station not found", "STATION_NOT_FOUND"⟩)
      else if input.employeeId.isSome then .checking scope input else .creating scope input)
  | .checking scope input =>
    some (store, if ∃ r ∈ store.sessions.rows,
        r.employeeId = input.employeeId ∧ r.displayId = input.displayId ∧ r.IsOpen then
        .refused (logonError ⟨"Employee is already logged on at this display", "ALREADY_LOGGED_ON"⟩)
      else .creating scope input)
  | .creating _ input =>
    match store.sessions.insert (input.session draw) with
    | none => some (store, .failed)
    | some sessions => some ({ store with sessions }, .listing input.displayId)
  | .ending sessionId displayId =>
    some (if (store.sessions.find sessionId).isNone then (store, .failed)
      else (store.endSessions (fun r ↦ decide (r.id = sessionId)) draw.now, .listing displayId))
  | .endingAll displayId =>
    some (store.endSessions (fun r ↦ decide r.IsOpen && decide (r.displayId = displayId)) draw.now,
      .answered [])
  | .listing displayId => some (store, .answered (store.activeSessions displayId))
  | _ => none

abbrev OperatorCalls (ι : Type*) := Calls ι LogonStore OperatorPhase

/-! ## The condition -/

namespace OperatorPhase

/-- A session of which a request has found none that is open, and relies on it: of the scope whose
sessions a logon has ended, or of the employee at the display. -/
def vacates (r : StationLogonSession) : OperatorPhase → Bool
  | .finding scope input | .checking scope input =>
    scope.any fun s ↦ s.covers input.stationId input.displayId r
  | .creating scope input => (scope.any fun s ↦ s.covers input.stationId input.displayId r) ||
    decide (input.employeeId.isSome ∧ r.employeeId = input.employeeId ∧
      r.displayId = input.displayId)
  | _ => false

/-- A logoff has found the session open. -/
def hasFound (id : Uuid) : OperatorPhase → Bool
  | .ending sessionId _ => decide (id = sessionId)
  | _ => false

/-- The session that the next statement creates. -/
def opens (draw : LogonDraw) : OperatorPhase → Option StationLogonSession
  | .creating _ input => some (input.session draw)
  | _ => none

/-- The next statement ends the session, if it is open. -/
def ends (r : StationLogonSession) : OperatorPhase → Bool
  | .closing scope input => scope.covers input.stationId input.displayId r
  | .ending sessionId _ => decide (r.id = sessionId)
  | .endingAll displayId => decide (r.displayId = displayId)
  | _ => false

def IsRequest : OperatorPhase → Prop
  | .requested _ _ => True
  | _ => False

/-- The request is not in progress. -/
def isDone : OperatorPhase → Bool
  | .answered _ | .refused _ | .failed => true
  | _ => false

end OperatorPhase

/-- The condition on a step: it opens no session of which another request has found none, and ends
none that another one has found open. -/
def KeepsFound {ι : Type*} (s : OperatorCalls ι) (a : ι × LogonDraw) : Prop :=
  ∀ j ≠ a.1, (∀ x ∈ (s.phase a.1).opens a.2, (s.phase j).vacates x = false) ∧
    ∀ r ∈ s.store.sessions.rows, r.IsOpen → (s.phase a.1).ends r = true →
      (s.phase j).hasFound r.id = false

instance decidableKeepsFound {ι : Type*} [Fintype ι] [DecidableEq ι] (s : OperatorCalls ι)
    (a : ι × LogonDraw) : Decidable (KeepsFound s a) :=
  inferInstanceAs (Decidable (∀ _ : ι, _ → _ ∧ ∀ _ ∈ s.store.sessions.rows, _ → _ → _))

/-- The station and the display of a logon, and the scope whose sessions it ends. -/
structure LogonTarget where
  scope : Option LogonScope
  stationId : Uuid
  displayId : Uuid
deriving DecidableEq, Repr

/-- Those of a logon whose session is still to come. -/
def OperatorPhase.target (displays : Uuid → Option LogonDisplay) :
    OperatorPhase → Option LogonTarget
  | .requested _ (.logon input) => (displays input.displayId).map fun display ↦
    ⟨resolveScope input.multiLogonMode display.config, input.stationId, input.displayId⟩
  | .locating input config _ =>
    some ⟨resolveScope input.multiLogonMode config, input.stationId, input.displayId⟩
  | .authenticating input scope => some ⟨scope, input.stationId, input.displayId⟩
  | .closing scope input => some ⟨some scope, input.stationId, input.displayId⟩
  | .finding scope input | .checking scope input | .creating scope input =>
    some ⟨scope, input.stationId, input.displayId⟩
  | _ => none

/-- The scope that a logon of the request ends, where there is one. -/
def OperatorCalls.target {ι : Type*} (s : OperatorCalls ι) (i : ι) : Option LogonTarget :=
  (s.phase i).target s.store.displays

/-! ## What a statement does -/

section

variable {ι : Type*} {i : ι} {draw : LogonDraw} {store store' : LogonStore}
  {phase phase' : OperatorPhase}

theorem afterResolve_cases (input : OperatorLogonInput) (context : Option (LogonDisplay × Uuid)) :
    (∃ error, afterResolve input context = .refused error) ∨ ∃ display siteId,
      context = some (display, siteId) ∧
        afterResolve input context = .locating input display.config siteId := by
  unfold afterResolve
  split
  · exact .inl ⟨_, rfl⟩
  · split_ifs
    · exact .inl ⟨_, rfl⟩
    · exact .inr ⟨_, _, rfl, rfl⟩

theorem afterFindSession_cases (displayId sessionId : Uuid) (found : Option StationLogonSession) :
    (∃ error, afterFindSession displayId sessionId found = .refused error) ∨ ∃ session,
      found = some session ∧ session.IsOpen ∧
        afterFindSession displayId sessionId found = .ending sessionId displayId := by
  unfold afterFindSession
  split
  · exact .inl ⟨_, rfl⟩
  · split_ifs with _ hended
    · exact .inl ⟨_, rfl⟩
    · exact .inl ⟨_, rfl⟩
    · exact .inr ⟨_, rfl, Option.not_isSome_iff_eq_none.mp hended, rfl⟩

theorem afterLocate_cases (input : OperatorLogonInput) (config : OperatorLogonConfig)
    (siteId : Uuid) (station : Option Uuid) :
    (∃ error, afterLocate input config siteId station = .refused error) ∨
      afterLocate input config siteId station
        = .authenticating input (resolveScope input.multiLogonMode config) := by
  rw [afterLocate]
  split
  · exact .inl ⟨_, rfl⟩
  · split
    · exact .inl ⟨_, rfl⟩
    · exact .inr rfl

theorem afterAuth_cases (input : OperatorLogonInput) (scope : Option LogonScope)
    (auth : LogonAuth) :
    (∃ error, afterAuth input scope auth = .refused error) ∨
      ∃ logon : LogonInput, logon.stationId = input.stationId ∧ logon.displayId = input.displayId ∧
        ((scope = none ∧ afterAuth input scope auth = .finding none logon) ∨
          ∃ s, scope = some s ∧ afterAuth input scope auth = .closing s logon) := by
  cases auth with
  | failure error => exact .inl ⟨_, rfl⟩
  | success employeeId versionId =>
    cases scope with
    | none => exact .inr ⟨_, rfl, rfl, .inl ⟨rfl, rfl⟩⟩
    | some s => exact .inr ⟨_, rfl, rfl, .inr ⟨s, rfl, rfl⟩⟩

/-- What a statement does with the sessions. -/
inductive SessionMoves (draw : LogonDraw) (phase : OperatorPhase) (store store' : LogonStore) : Prop
  | stays (h : store' = store)
  | opens {x : StationLogonSession} {sessions : Table logonSessionSchema}
      (hx : phase.opens draw = some x) (hsessions : store.sessions.insert x = some sessions)
      (h : store' = { store with sessions })
  | ends {q : StationLogonSession → Bool} (h : store' = store.endSessions q draw.now)
      (hq : ∀ r ∈ store.sessions.rows, q r = true →
        phase.ends r = true ∧ (r.IsOpen ∨ phase.hasFound r.id = true))

theorem logoffByScope_eq {scope : LogonScope} {displayId stationId : Uuid} {now : Time} :
    store.logoffByScope scope displayId (some stationId) now
      = store.endSessions (fun r ↦ decide r.IsOpen && scope.covers stationId displayId r) now := by
  cases scope <;> rfl

theorem operator_moves (h : operatorStatement i draw store phase = some (store', phase')) :
    SessionMoves draw phase store store' := by
  cases phase with
  | requested | locating | authenticating | finding | checking | listing =>
    cases h
    exact .stays rfl
  | closing scope input =>
    cases h
    refine .ends logoffByScope_eq fun r _ hr ↦ ?_
    obtain ⟨hopen, hcovers⟩ := Bool.and_eq_true_iff.mp hr
    exact ⟨hcovers, .inl (of_decide_eq_true hopen)⟩
  | creating scope input =>
    rw [operatorStatement] at h
    cases hinsert : store.sessions.insert (input.session draw) with
    | none =>
      rw [hinsert] at h
      cases h
      exact .stays rfl
    | some sessions =>
      rw [hinsert] at h
      cases h
      exact .opens rfl hinsert rfl
  | ending sessionId displayId =>
    rw [operatorStatement] at h
    split_ifs at h
    · cases h
      exact .stays rfl
    · cases h
      exact .ends rfl fun r _ hr ↦ ⟨hr, .inr hr⟩
  | endingAll displayId =>
    cases h
    refine .ends rfl fun r _ hr ↦ ?_
    obtain ⟨hopen, hdisplay⟩ := Bool.and_eq_true_iff.mp hr
    exact ⟨hdisplay, .inl (of_decide_eq_true hopen)⟩
  | answered | refused | failed => cases h

theorem SessionMoves.displays_eq (h : SessionMoves draw phase store store') :
    store'.displays = store.displays := by
  cases h with
  | stays h => rw [h]
  | opens _ _ h => rw [h]
  | ends h _ => rw [h]; rfl

/-- A logon keeps its target. -/
theorem target_step (h : operatorStatement i draw store phase = some (store', phase')) :
    phase'.target store.displays = none ∨
      phase'.target store.displays = phase.target store.displays := by
  cases phase with
  | requested authenticatedDisplayId request =>
    cases h
    split_ifs
    · exact .inl rfl
    · cases request with
      | logon input =>
        dsimp only
        rcases afterResolve_cases input (store.resolveDisplayContext input.displayId) with
          ⟨error, hrefused⟩ | ⟨display, siteId, hcontext, hlocating⟩
        · exact .inl (hrefused ▸ rfl)
        · obtain ⟨display', hdisplay, hsite⟩ := Option.bind_eq_some_iff.mp hcontext
          split_ifs at hsite
          obtain ⟨_, -, heq⟩ := Option.map_eq_some_iff.mp hsite
          cases heq
          rw [hlocating, OperatorPhase.target, OperatorPhase.target, hdisplay, Option.map_some]
          exact .inr rfl
      | logoff displayId sessionId =>
        dsimp only
        rcases afterFindSession_cases displayId sessionId (store.sessions.find sessionId) with
          ⟨error, hrefused⟩ | ⟨session, -, -, hending⟩
        · exact .inl (hrefused ▸ rfl)
        · exact .inl (hending ▸ rfl)
      | logoffAll displayId => exact .inl rfl
  | locating input config siteId =>
    cases h
    rcases afterLocate_cases input config siteId (store.stations input.stationId) with
      ⟨error, hrefused⟩ | hauthenticating
    · exact .inl (hrefused ▸ rfl)
    · exact .inr (hauthenticating ▸ rfl)
  | authenticating input scope =>
    cases h
    rcases afterAuth_cases input scope draw.auth with
      ⟨error, hrefused⟩ | ⟨logon, hstation, hdisplay, ⟨rfl, hfinding⟩ | ⟨s, rfl, hclosing⟩⟩
    · exact .inl (hrefused ▸ rfl)
    · rw [hfinding, OperatorPhase.target, OperatorPhase.target, hstation, hdisplay]
      exact .inr rfl
    · rw [hclosing, OperatorPhase.target, OperatorPhase.target, hstation, hdisplay]
      exact .inr rfl
  | closing scope input =>
    cases h
    exact .inr rfl
  | finding scope input =>
    cases h
    split_ifs
    · exact .inl rfl
    · exact .inr rfl
    · exact .inr rfl
  | checking scope input =>
    cases h
    split_ifs
    · exact .inl rfl
    · exact .inr rfl
  | creating scope input =>
    rw [operatorStatement] at h
    split at h <;> cases h <;> exact .inl rfl
  | ending sessionId displayId =>
    rw [operatorStatement] at h
    split_ifs at h <;> cases h <;> exact .inl rfl
  | endingAll | listing =>
    cases h
    exact .inl rfl
  | answered | refused | failed => cases h

/-- What a request has found is still so. -/
structure OperatorPhase.Holds (phase : OperatorPhase) (store : LogonStore) : Prop where
  vacant : ∀ r ∈ store.sessions.rows, r.IsOpen → phase.vacates r = false
  found : ∀ r ∈ store.sessions.rows, phase.hasFound r.id = true → r.IsOpen

/-- A phase that relies on no session being open. -/
theorem holds_of_vacant
    (hvacant : ∀ r ∈ store.sessions.rows, r.IsOpen → phase.vacates r = false)
    (hfound : ∀ id, phase.hasFound id = false) : phase.Holds store where
  vacant := hvacant
  found r _ hr := absurd (hr.symm.trans (hfound r.id)) Bool.noConfusion

/-- A phase that relies on nothing. -/
theorem holds_of_idle (hvacates : ∀ r, phase.vacates r = false)
    (hfound : ∀ id, phase.hasFound id = false) : phase.Holds store :=
  holds_of_vacant (fun r _ _ ↦ hvacates r) hfound

/-- A session that is open after some have been ended was open before. -/
theorem mem_of_mem_endSessions {q : StationLogonSession → Bool} {now : Time}
    {r : StationLogonSession} (hr : r ∈ (store.endSessions q now).sessions.rows)
    (hopen : r.IsOpen) :
    r ∈ store.sessions.rows ∧ q r = false := by
  obtain ⟨r₀, hr₀, rfl⟩ := List.mem_map.mp hr
  by_cases hq : q r₀ = true
  · rw [if_pos hq] at hopen
    cases hopen
  · rw [if_neg hq]
    exact ⟨hr₀, Bool.eq_false_iff.mpr hq⟩

theorem holds_refused {error : ServiceError} (h : phase = .refused error) : phase.Holds store := by
  subst h
  exact holds_of_idle (fun _ ↦ rfl) fun _ ↦ rfl

/-- **A request finds** what it relies on. -/
theorem holds_own (hholds : phase.Holds store)
    (h : operatorStatement i draw store phase = some (store', phase')) : phase'.Holds store' := by
  cases phase with
  | requested authenticatedDisplayId request =>
    cases h
    split_ifs
    · exact holds_refused rfl
    · cases request with
      | logon input =>
        dsimp only
        rcases afterResolve_cases input (store.resolveDisplayContext input.displayId) with
          ⟨error, hrefused⟩ | ⟨display, siteId, -, hlocating⟩
        · exact holds_refused hrefused
        · rw [hlocating]
          exact holds_of_idle (fun _ ↦ rfl) fun _ ↦ rfl
      | logoff displayId sessionId =>
        dsimp only
        rcases afterFindSession_cases displayId sessionId (store.sessions.find sessionId) with
          ⟨error, hrefused⟩ | ⟨session, hfind, hopen, hending⟩
        · exact holds_refused hrefused
        · rw [hending]
          refine ⟨fun _ _ _ ↦ rfl, fun r hr hrid ↦ ?_⟩
          obtain ⟨hmem, hid⟩ := Table.find_eq_some_iff.mp hfind
          obtain rfl := store.sessions.eq_of_key_eq hr hmem
            ((of_decide_eq_true hrid).trans hid.symm)
          exact hopen
      | logoffAll displayId => exact holds_of_idle (fun _ ↦ rfl) fun _ ↦ rfl
  | locating input config siteId =>
    cases h
    rcases afterLocate_cases input config siteId (store.stations input.stationId) with
      ⟨error, hrefused⟩ | hauthenticating
    · exact holds_refused hrefused
    · rw [hauthenticating]
      exact holds_of_idle (fun _ ↦ rfl) fun _ ↦ rfl
  | authenticating input scope =>
    cases h
    rcases afterAuth_cases input scope draw.auth with
      ⟨error, hrefused⟩ | ⟨logon, -, -, ⟨-, hfinding⟩ | ⟨s, -, hclosing⟩⟩
    · exact holds_refused hrefused
    · rw [hfinding]
      exact holds_of_idle (fun _ ↦ rfl) fun _ ↦ rfl
    · rw [hclosing]
      exact holds_of_idle (fun _ ↦ rfl) fun _ ↦ rfl
  | closing scope input =>
    cases h
    rw [logoffByScope_eq]
    refine holds_of_vacant (fun r hr hopen ↦ ?_) fun _ ↦ rfl
    -- the open sessions of the scope have been ended
    obtain ⟨-, hq⟩ := mem_of_mem_endSessions hr hopen
    rw [decide_eq_true hopen, Bool.true_and] at hq
    exact hq
  | finding scope input =>
    cases h
    split_ifs with _ hemployee
    · exact holds_refused rfl
    · exact holds_of_vacant hholds.vacant fun _ ↦ rfl
    · refine holds_of_vacant (fun r hr hopen ↦ ?_) fun _ ↦ rfl
      rw [OperatorPhase.vacates, decide_eq_false fun hsome ↦ hemployee hsome.1, Bool.or_false]
      exact hholds.vacant r hr hopen
  | checking scope input =>
    cases h
    split_ifs with hexisting
    · exact holds_refused rfl
    · refine holds_of_vacant (fun r hr hopen ↦ ?_) fun _ ↦ rfl
      have hnone : ¬(input.employeeId.isSome ∧ r.employeeId = input.employeeId ∧
          r.displayId = input.displayId) := fun hsame ↦
        hexisting ⟨r, hr, hsame.2.1, hsame.2.2, hopen⟩
      rw [OperatorPhase.vacates, decide_eq_false hnone, Bool.or_false]
      exact hholds.vacant r hr hopen
  | creating scope input =>
    rw [operatorStatement] at h
    split at h <;> cases h <;> exact holds_of_idle (fun _ ↦ rfl) fun _ ↦ rfl
  | ending sessionId displayId =>
    rw [operatorStatement] at h
    split_ifs at h <;> cases h <;> exact holds_of_idle (fun _ ↦ rfl) fun _ ↦ rfl
  | endingAll | listing =>
    cases h
    exact holds_of_idle (fun _ ↦ rfl) fun _ ↦ rfl
  | answered | refused | failed => cases h

end

/-! ## Every run -/

section

variable {ι : Type*} {i : ι} {draw : LogonDraw} {store store' : LogonStore}
  {phase phase' other : OperatorPhase} {p : StationLogonSession → Prop}

theorem isOpen_of_opens {x : StationLogonSession} (hx : phase.opens draw = some x) : x.IsOpen := by
  cases phase with
  | creating scope input =>
    cases hx
    rfl
  | _ => cases hx

/-- **What another request has found** is left as it is. -/
theorem OperatorPhase.Holds.of_moves (hother : other.Holds store) (hholds : phase.Holds store)
    (hmoves : SessionMoves draw phase store store')
    (hopens : ∀ x ∈ phase.opens draw, other.vacates x = false)
    (hends : ∀ r ∈ store.sessions.rows, r.IsOpen → phase.ends r = true →
      other.hasFound r.id = false) : other.Holds store' := by
  cases hmoves with
  | stays h => exact h ▸ hother
  | @opens x sessions hx hinsert h =>
    subst h
    have hmem : ∀ r ∈ sessions.rows, r ∈ store.sessions.rows ∨ r = x := by
      intro r hr
      rwa [Table.rows_of_insert hinsert, List.mem_append, List.mem_singleton] at hr
    refine ⟨fun r hr hopen ↦ ?_, fun r hr hfound ↦ ?_⟩
    · rcases hmem r hr with hold | rfl
      · exact hother.vacant r hold hopen
      · exact hopens r hx
    · rcases hmem r hr with hold | rfl
      · exact hother.found r hold hfound
      · exact isOpen_of_opens hx
  | @ends q h hq =>
    subst h
    refine ⟨fun r hr hopen ↦ ?_, fun r hr hfound ↦ ?_⟩
    · exact hother.vacant r (mem_of_mem_endSessions hr hopen).1 hopen
    · obtain ⟨r₀, hr₀, rfl⟩ := List.mem_map.mp hr
      by_cases hq₀ : q r₀ = true
      · -- the session has not been ended, as the other request has found it open
        rw [if_pos hq₀] at hfound
        obtain ⟨hphase, hopen | hown⟩ := hq r₀ hr₀ hq₀
        · exact absurd (hfound.symm.trans (hends r₀ hr₀ hopen hphase)) nofun
        · exact absurd (hfound.symm.trans (hends r₀ hr₀ (hholds.found r₀ hr₀ hown) hphase)) nofun
      · rw [if_neg hq₀] at hfound ⊢
        exact hother.found r₀ hr₀ hfound

/-- **A session that has been ended** stays as it is. -/
theorem SessionMoves.ended_mem (hmoves : SessionMoves draw phase store store')
    (hholds : phase.Holds store) {r : StationLogonSession} (hr : r ∈ store.sessions.rows)
    (hended : ¬r.IsOpen) : r ∈ store'.sessions.rows := by
  cases hmoves with
  | stays h => exact h ▸ hr
  | opens hx hinsert h =>
    subst h
    rw [Table.rows_of_insert hinsert]
    exact List.mem_append_left _ hr
  | @ends q h hq =>
    subst h
    refine List.mem_map.mpr ⟨r, hr, if_neg fun hqr ↦ hended ?_⟩
    rcases (hq r hr hqr).2 with hopen | hown
    · exact hopen
    · exact hholds.found r hr hown

/-- Where a request that creates a session of a kind has found no other one, there is one open
session of the kind at most. -/
theorem SessionMoves.atMostOne (hmoves : SessionMoves draw phase store store')
    (hholds : phase.Holds store)
    (hguarded : ∀ x ∈ phase.opens draw, p x → ∀ r, p r → phase.vacates r = true)
    (h : store.sessions.AtMostOne fun r ↦ r.IsOpen ∧ p r) :
    store'.sessions.AtMostOne fun r ↦ r.IsOpen ∧ p r := by
  cases hmoves with
  | stays heq => exact heq ▸ h
  | opens hx hinsert heq =>
    subst heq
    refine h.insert (fun hpx r hr hpr ↦ ?_) hinsert
    exact absurd ((hguarded _ hx hpx.2 r hpr.2).symm.trans (hholds.vacant r hr hpr.1)) nofun
  | ends heq hq =>
    subst heq
    have hmild : Table.Mild logonSessionSchema fun r ↦ { r with logoffTime := some draw.now } :=
      ⟨fun _ ↦ rfl, fun _ _ h ↦ h⟩
    exact h.modify hmild fun r hr ↦ absurd hr.1 (Option.some_ne_none _)

end

section

variable {ι : Type*} {s₀ s s' : OperatorCalls ι} {a : ι × LogonDraw} {as : List (ι × LogonDraw)}
  {p : StationLogonSession → Prop}

/-- Each logon that may open a session of a kind ends the open sessions of the kind before, or looks
for one of them. -/
def Guarded (s₀ : OperatorCalls ι) (p : StationLogonSession → Prop) : Prop :=
  ∀ i, ∀ l ∈ s₀.target i, ∀ x r, x.stationId = l.stationId → x.displayId = l.displayId → p x → p r →
    (l.scope.any fun scope ↦ scope.covers l.stationId l.displayId r) = true ∨
      x.employeeId.isSome ∧ r.employeeId = x.employeeId ∧ r.displayId = x.displayId

/-- What holds throughout. -/
structure LogonSound (s₀ s : OperatorCalls ι) : Prop where
  displays : s.store.displays = s₀.store.displays
  holds : ∀ i, (s.phase i).Holds s.store
  targets : ∀ i, s.target i = none ∨ s.target i = s₀.target i

/-- A session that is created is guarded by what its request has found. -/
theorem LogonSound.vacates (h : LogonSound s₀ s) (hguarded : Guarded s₀ p) {i : ι}
    {draw : LogonDraw} : ∀ x ∈ (s.phase i).opens draw, p x → ∀ r, p r →
      (s.phase i).vacates r = true := by
  intro x hx hpx r hpr
  have htarget := h.targets i
  rw [OperatorCalls.target] at htarget
  cases hphase : s.phase i with
  | creating scope input =>
    rw [hphase] at hx htarget
    cases hx
    rcases htarget with hnone | hsome
    · cases hnone
    · rw [OperatorPhase.vacates, Bool.or_eq_true, decide_eq_true_eq]
      exact hguarded i _ hsome.symm _ r rfl rfl hpx hpr
  | _ =>
    rw [hphase] at hx
    cases hx

theorem OperatorPhase.IsRequest.holds {phase : OperatorPhase} {store : LogonStore}
    (h : phase.IsRequest) : phase.Holds store := by
  cases phase with
  | requested => exact holds_of_idle (fun _ ↦ rfl) fun _ ↦ rfl
  | _ => exact absurd h id

theorem logonSound_start (hrequests : ∀ i, (s₀.phase i).IsRequest) : LogonSound s₀ s₀ :=
  ⟨rfl, fun i ↦ (hrequests i).holds, fun _ ↦ .inr rfl⟩

variable [DecidableEq ι]

/-- **One step** that leaves what the others have found. -/
theorem logonSound_step (hok : KeepsFound s a) (h : LogonSound s₀ s)
    (hstep : Calls.step operatorStatement a s = some s') : LogonSound s₀ s' := by
  obtain ⟨hstatement, hothers⟩ := Calls.of_step hstep
  have hmoves := operator_moves hstatement
  refine ⟨hmoves.displays_eq.trans h.displays, fun j ↦ ?_, fun j ↦ ?_⟩
  · by_cases hj : j = a.1
    · exact hj ▸ holds_own (h.holds a.1) hstatement
    · rw [hothers j hj]
      exact (h.holds j).of_moves (h.holds a.1) hmoves (hok j hj).1 (hok j hj).2
  · rw [OperatorCalls.target, hmoves.displays_eq]
    by_cases hj : j = a.1
    · subst hj
      rcases target_step hstatement with hnone | hsame
      · exact .inl hnone
      · rw [hsame]
        exact h.targets a.1
    · rw [hothers j hj]
      exact h.targets j

theorem logonSound_run (h : LogonSound s₀ s) (hrun : Run (Calls.step operatorStatement) KeepsFound s
    as s') : LogonSound s₀ s' :=
  hrun.invariant h fun _ _ _ hs hok hstep ↦ logonSound_step hok hs hstep

/-- Where all logons guard a kind of sessions, there is one that is open at most. -/
theorem atMostOne_run (hrequests : ∀ i, (s₀.phase i).IsRequest) (hguarded : Guarded s₀ p)
    (hstart : s₀.store.sessions.AtMostOne fun r ↦ r.IsOpen ∧ p r)
    (hrun : Run (Calls.step operatorStatement) KeepsFound s₀ as s) :
    s.store.sessions.AtMostOne fun r ↦ r.IsOpen ∧ p r := by
  suffices hall : LogonSound s₀ s ∧ s.store.sessions.AtMostOne fun r ↦ r.IsOpen ∧ p r from hall.2
  induction hrun with
  | nil => exact ⟨logonSound_start hrequests, hstart⟩
  | snoc _ hok hstep ih =>
    obtain ⟨hsound, hone⟩ := ih
    obtain ⟨hstatement, -⟩ := Calls.of_step hstep
    exact ⟨logonSound_step hok hsound hstep, (operator_moves hstatement).atMostOne (hsound.holds _)
      (hsound.vacates hguarded) hone⟩

/-- A session that has been ended stays as it is in every run that goes on. -/
theorem ended_mem_run (hsound : LogonSound s₀ s)
    (hrun : Run (Calls.step operatorStatement) KeepsFound s as s') {r : StationLogonSession}
    (hr : r ∈ s.store.sessions.rows) (hended : ¬r.IsOpen) : r ∈ s'.store.sessions.rows := by
  suffices hall : LogonSound s₀ s' ∧ r ∈ s'.store.sessions.rows from hall.2
  induction hrun with
  | nil => exact ⟨hsound, hr⟩
  | snoc _ hok hstep ih =>
    obtain ⟨hsound, hr⟩ := ih
    obtain ⟨hstatement, -⟩ := Calls.of_step hstep
    exact ⟨logonSound_step hok hsound hstep,
      (operator_moves hstatement).ended_mem (hsound.holds _) hr hended⟩

/-- **Operator logons are exclusive and end once** in every interleaving in which no statement opens
a session that another request has found none of, or ends one that another has found open. A station
has one open session at most where the site says that its logons are single ones, and a display
where the component says so; an employee has one at most at a display, in every mode. -/
theorem logons_exclusive (hrequests : ∀ i, (s₀.phase i).IsRequest)
    (hrun : Run (Calls.step operatorStatement) KeepsFound s₀ as s) :
    (∀ stationId, (∀ i, ∀ l ∈ s₀.target i, l.stationId = stationId → l.scope = some .station) →
      s₀.store.sessions.AtMostOne (fun r ↦ r.IsOpen ∧ r.stationId = stationId) →
      s.store.sessions.AtMostOne fun r ↦ r.IsOpen ∧ r.stationId = stationId) ∧
    (∀ displayId, (∀ i, ∀ l ∈ s₀.target i, l.displayId = displayId → l.scope = some .display) →
      s₀.store.sessions.AtMostOne (fun r ↦ r.IsOpen ∧ r.displayId = displayId) →
      s.store.sessions.AtMostOne fun r ↦ r.IsOpen ∧ r.displayId = displayId) ∧
    (∀ employeeId displayId, s₀.store.sessions.AtMostOne
        (fun r ↦ r.IsOpen ∧ r.employeeId = some employeeId ∧ r.displayId = displayId) →
      s.store.sessions.AtMostOne
        fun r ↦ r.IsOpen ∧ r.employeeId = some employeeId ∧ r.displayId = displayId) ∧
    ∀ bs s', Run (Calls.step operatorStatement) KeepsFound s bs s' →
      ∀ r ∈ s.store.sessions.rows, r.logoffTime ≠ none → r ∈ s'.store.sessions.rows := by
  refine ⟨fun stationId hscope hstart ↦ ?_, fun displayId hscope hstart ↦ ?_,
    fun employeeId displayId hstart ↦ ?_, fun bs s' hrun' r hr hended ↦ ?_⟩
  · refine atMostOne_run hrequests (fun i l hl x r hx _ hpx hpr ↦ .inl ?_) hstart hrun
    rw [hscope i l hl (hx.symm.trans hpx), Option.any_some]
    exact decide_eq_true (hpr.trans (hpx.symm.trans hx))
  · refine atMostOne_run hrequests (fun i l hl x r _ hx hpx hpr ↦ .inl ?_) hstart hrun
    rw [hscope i l hl (hx.symm.trans hpx), Option.any_some]
    exact decide_eq_true (hpr.trans (hpx.symm.trans hx))
  · refine atMostOne_run hrequests (fun i l _ x r _ _ hpx hpr ↦ .inr ?_) hstart hrun
    exact ⟨by rw [hpx.1]; rfl, hpr.1.trans hpx.1.symm, hpr.2.trans hpx.2.symm⟩
  · exact ended_mem_run (logonSound_run (logonSound_start hrequests) hrun) hrun' hr hended

end

/-! ## Two logons at a station -/

/-- A claimed display of a site where logons are single ones. -/
def singleDisplay : LogonDisplay where
  status := .CLAIMED
  siteId := some 1
  stationId := none
  siteAttrs := ⟨none, some false⟩
  attrs := ⟨none, none⟩

/-- One operator logs on at a display of a station, and at another one or once more. -/
def twoLogonCalls (displayId' : Uuid) : OperatorCalls Bool where
  store := ⟨.empty _, fun _ ↦ some singleDisplay, fun _ ↦ some 1⟩
  phase second :=
    if second then .requested displayId' (.logon ⟨displayId', .BADGE, none, none, 2⟩)
    else .requested 11 (.logon ⟨11, .BADGE, none, none, 2⟩)

/-- One draw for each logon. -/
def logonDraw (second : Bool) : Bool × LogonDraw :=
  (second, ⟨100, if second then 22 else 21, .success (some 5) (some 6), none⟩)

theorem isRequest_twoLogonCalls {displayId' : Uuid} (i : Bool) :
    ((twoLogonCalls displayId').phase i).IsRequest := by
  cases i <;> trivial

theorem target_twoLogonCalls {displayId' : Uuid} (i : Bool) :
    ∀ l ∈ (twoLogonCalls displayId').target i, l.stationId = 2 → l.scope = some .station := by
  cases i <;> exact fun l hl _ ↦ Option.some_inj.mp hl ▸ rfl

/-- One logon after the other. -/
theorem logons_exclusive_twoLogonCalls : ∃ s : OperatorCalls Bool,
    s.store.sessions.rows.map (fun r ↦ (r.id, r.logoffTime)) = [(21, some 100), (22, none)] ∧
      s.store.sessions.AtMostOne fun r ↦ r.IsOpen ∧ r.stationId = 2 := by
  have hexecute : (execute (Calls.step operatorStatement) KeepsFound
      ((List.replicate 8 false ++ List.replicate 8 true).map logonDraw) (twoLogonCalls 12)).any
      (fun s ↦ decide (s.store.sessions.rows.map (fun r ↦ (r.id, r.logoffTime))
        = [(21, some 100), (22, none)])) = true := by
    decide +kernel
  obtain ⟨s, hs, hfacts⟩ := (Option.any_eq_true _ _).mp hexecute
  have hnone : (twoLogonCalls 12).store.sessions.AtMostOne fun r ↦ r.IsOpen ∧ r.stationId = 2 :=
    fun _ hr ↦ absurd hr List.not_mem_nil
  exact ⟨s, of_decide_eq_true hfacts,
    (logons_exclusive isRequest_twoLogonCalls (run_of_execute hs)).1 2 target_twoLogonCalls hnone⟩

/-- **Two sessions are open** at a station, and of one operator at one display, when the operator
logs on twice at the same time. -/
theorem not_logons_exclusive : ∃ s : OperatorCalls Bool,
    Run (Calls.step operatorStatement) (fun _ _ ↦ True) (twoLogonCalls 11)
      ((List.replicate 8 [false, true]).flatten.map logonDraw) s ∧
    (∀ i, (s.phase i).isDone = true) ∧
    s.store.sessions.rows.map (fun r ↦ (r.id, r.stationId, r.displayId, r.employeeId, r.logoffTime))
      = [(21, 2, 11, some 5, none), (22, 2, 11, some 5, none)] := by
  have hexecute : (execute (Calls.step operatorStatement) (fun _ _ ↦ True)
      ((List.replicate 8 [false, true]).flatten.map logonDraw) (twoLogonCalls 11)).any
      (fun s ↦ decide ((∀ i, (s.phase i).isDone = true) ∧ s.store.sessions.rows.map
        (fun r ↦ (r.id, r.stationId, r.displayId, r.employeeId, r.logoffTime))
          = [(21, 2, 11, some 5, none), (22, 2, 11, some 5, none)])) = true := by
    decide +kernel
  obtain ⟨s, hs, hfacts⟩ := (Option.any_eq_true _ _).mp hexecute
  exact ⟨s, run_of_execute hs, of_decide_eq_true hfacts⟩

end RwServer
