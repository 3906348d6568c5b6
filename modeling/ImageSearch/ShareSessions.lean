import ImageSearch.Tables
import ImageSearch.Threads

namespace ImageSearch.ShareSessions
open Tables

inductive PayloadClass where
  | text | link | image
  deriving DecidableEq, Repr

inductive SessionState where
  | bootstrapped | queued | negotiating | transferring | delivering | done | failed | timedOut | aborted
  deriving DecidableEq, Repr

def SessionState.active (state : SessionState) : Bool :=
  state ∈ [.bootstrapped,.queued,.negotiating,.transferring,.delivering]

def allowedTransitions : SessionState → List SessionState
  | .bootstrapped => [.queued,.negotiating,.transferring]
  | .queued => [.negotiating,.transferring,.failed,.timedOut]
  | .negotiating => [.transferring,.failed,.timedOut]
  | .transferring => [.delivering,.failed,.timedOut,.aborted]
  | .delivering => [.done,.failed]
  | .done | .failed | .timedOut | .aborted => []

inductive ErrorCode where
  | receiverBusyMaxSessions
  | sessionIdMismatch
  | invalidRequest
  | deliveryPathInvalid
  | transferLimitExceeded
  | payloadUnreadable
  | userAborted
  | transferTimeout
  | confirmTimeout
  | other
  deriving DecidableEq, Repr

-- `valid` is what validate says of the other fields.
structure ConnectionConfig where
  sessionId : String
  payloadClass : PayloadClass
  valid : Bool := true
  deriving DecidableEq, Repr

-- Ghost: `serial` tells the sessions of one id apart.
structure InstantShareSession where
  sessionId : String
  payloadClass : PayloadClass
  serial : Nat
  state : SessionState := .bootstrapped
  imageCount : Nat := 0
  receivedCount : Nat := 0
  deriving DecidableEq, Repr

-- A cleanup timer knows the id alone; the serial is of the session it was started for.
structure CleanupTimer where
  sessionId : String
  serial : Nat
  deriving DecidableEq, Repr

structure Registry where
  activeSessions : Table InstantShareSession.sessionId
  maxSessions : Nat
  timers : List CleanupTimer
  created : Nat

namespace Registry

def getSession (r : Registry) (sessionId : String) : Option InstantShareSession := r.activeSessions.find? sessionId

def activeCount (r : Registry) : Nat := r.activeSessions.rows.countP fun session => session.state.active

def requireSession (r : Registry) (sessionId : String) : Except ErrorCode InstantShareSession :=
  match r.getSession sessionId with
  | some session => .ok session
  | none => .error .sessionIdMismatch

def bootstrap (r : Registry) (config : ConnectionConfig) : Except ErrorCode (Registry × InstantShareSession) :=
  match r.getSession config.sessionId with
  | some existing => .ok (r,existing)
  | none =>
    if r.maxSessions ≤ r.activeCount then .error .receiverBusyMaxSessions
    else
      let session : InstantShareSession := {sessionId:=config.sessionId,payloadClass:=config.payloadClass,serial:=r.created}
      .ok ({r with
        activeSessions:=r.activeSessions.upsert session id fun _ => rfl
        created:=r.created + 1},session)

def replaceSession (r : Registry) (sessionId : String) (change : InstantShareSession → InstantShareSession)
    (same : ∀ session, (change session).sessionId = session.sessionId) : Registry :=
  {r with activeSessions:=r.activeSessions.modify (fun session => session.sessionId = sessionId) change same}

def scheduleCleanup (r : Registry) (session : InstantShareSession) : Registry :=
  {r with timers:=r.timers ++ [⟨session.sessionId,session.serial⟩]}

def transition (r : Registry) (sessionId : String) (nextState : SessionState) :
    Except ErrorCode (Registry × InstantShareSession) := do
  let session ← r.requireSession sessionId
  if nextState ∈ allowedTransitions session.state then
    let updated := r.replaceSession sessionId (fun session => {session with state:=nextState}) fun _ => rfl
    return (if nextState.active then updated else updated.scheduleCleanup session,{session with state:=nextState})
  throw .invalidRequest

def setBatchMetadata (r : Registry) (sessionId : String) (imageCount : Nat) : Except ErrorCode Registry := do
  let _ ← r.requireSession sessionId
  return r.replaceSession sessionId (fun session => {session with imageCount}) fun _ => rfl

def incrementReceivedCount (r : Registry) (sessionId : String) : Except ErrorCode Registry := do
  let _ ← r.requireSession sessionId
  return r.replaceSession sessionId (fun session => {session with receivedCount:=session.receivedCount + 1}) fun _ => rfl

def cleanupSession (r : Registry) (timer : CleanupTimer) : Registry :=
  {r with
    activeSessions:=r.activeSessions.delete fun session => session.sessionId = timer.sessionId
    timers:=r.timers.erase timer}

end Registry

def desiredTerminalState (error : ErrorCode) : SessionState :=
  match error with
  | .userAborted => .aborted
  | .transferTimeout | .confirmTimeout => .timedOut
  | _ => .failed

-- Where a handler of the orchestrator stands: before the call of the registry that the name
-- tells, with what it has read. `found` is a ghost: the serial of the session that was not
-- yet terminal when fail_session was called.
inductive Handler where
  | accepting (config : ConnectionConfig)
  | queueing (sessionId : String)
  | handshaking (sessionId : String)
  | negotiating (sessionId : String)
  | receiving (sessionId : String) (imageCount : Option Nat)
  | describing (sessionId : String) (imageCount : Nat) (read : SessionState)
  | counting (sessionId : String) (read : SessionState)
  | advancing (sessionId : String)
  | rereading (sessionId : String)
  | judging (sessionId : String)
  | revisiting (config : ConnectionConfig) (imageCount : Option Nat)
  | reviving (sessionId : String) (imageCount : Option Nat)
  | announcing (sessionId : String) (imageCount : Nat)
  | rechecking (sessionId : String)
  | delivering (sessionId : String)
  | handing (sessionId : String)
  | finishing (sessionId : String)
  | failing (sessionId : String) (error : ErrorCode)
  | retrying (sessionId : String) (found : Option Nat)
  | aborting (sessionId : String)
  | returned (batchComplete : Bool)
  | raised (error : ErrorCode)
  | failed (found : Option Nat)
  | notFailed (found : Option Nat)
  deriving DecidableEq, Repr

def Handler.isFinished : Handler → Bool
  | .returned _ | .raised _ | .failed _ | .notFailed _ => true
  | _ => false

def afterCall {Result : Type} (r : Registry) (result : Except ErrorCode Result) (next : Result → Registry × Handler) :
    Registry × Handler :=
  match result with
  | .ok value => next value
  | .error error => (r,.raised error)

def liveSerial (r : Registry) (sessionId : String) : Option Nat :=
  (r.getSession sessionId).bind fun session => if session.state.active then some session.serial else none

def stepHandler (r : Registry) : Handler → Option (Registry × Handler)
  | .accepting config => some (
      if config.valid then afterCall r (r.bootstrap config) fun result => (result.1,.queueing config.sessionId)
      else (r,.raised .other))
  | .queueing sessionId => some (afterCall r (r.transition sessionId .queued) fun result => (result.1,.returned false))
  -- handle_trust_handshake_received and handle_trust_confirmed
  | .handshaking sessionId => some (afterCall r (r.requireSession sessionId) fun _ => (r,.negotiating sessionId))
  | .negotiating sessionId => some (afterCall r (r.transition sessionId .negotiating) fun result =>
      (result.1,.returned false))
  | .receiving sessionId imageCount => some (afterCall r (r.requireSession sessionId) fun session =>
      (r,match imageCount with
        | some imageCount => if session.imageCount = 0 then .describing sessionId imageCount session.state
            else .counting sessionId session.state
        | none => .counting sessionId session.state))
  | .describing sessionId imageCount read => some (afterCall r (r.setBatchMetadata sessionId imageCount) fun updated =>
      (updated,.counting sessionId read))
  | .counting sessionId read => some (afterCall r (r.incrementReceivedCount sessionId) fun updated =>
      (updated,if read ≠ .transferring then .advancing sessionId else .rereading sessionId))
  | .advancing sessionId => some (afterCall r (r.transition sessionId .transferring) fun result =>
      (result.1,.judging sessionId))
  | .rereading sessionId => some (afterCall r (r.requireSession sessionId) fun _ => (r,.judging sessionId))
  | .judging sessionId => some (afterCall r (r.requireSession sessionId) fun session =>
      (r,.returned (session.imageCount = 0 || session.imageCount ≤ session.receivedCount)))
  | .revisiting config imageCount => some (
      if config.valid then afterCall r (r.bootstrap config) fun result =>
        (result.1,if result.2.state ≠ .transferring then .reviving config.sessionId imageCount
          else imageCount.elim (.rechecking config.sessionId) (.announcing config.sessionId))
      else (r,.raised .other))
  | .reviving sessionId imageCount => some (afterCall r (r.transition sessionId .transferring) fun result =>
      (result.1,imageCount.elim (.rechecking sessionId) (.announcing sessionId)))
  | .announcing sessionId imageCount => some (afterCall r (r.setBatchMetadata sessionId imageCount) fun updated =>
      (updated,.rechecking sessionId))
  | .rechecking sessionId => some (afterCall r (r.requireSession sessionId) fun _ => (r,.returned false))
  | .delivering sessionId => some (afterCall r (r.requireSession sessionId) fun session =>
      (r,if 0 < session.imageCount && session.receivedCount < session.imageCount then .returned false
        else if session.state ≠ .delivering then .handing sessionId else .finishing sessionId))
  | .handing sessionId => some (afterCall r (r.transition sessionId .delivering) fun result =>
      (result.1,.finishing sessionId))
  | .finishing sessionId => some (afterCall r (r.transition sessionId .done) fun result => (result.1,.returned true))
  | .failing sessionId error => some (
      match r.transition sessionId (desiredTerminalState error) with
      | .ok result => (result.1,.failed (liveSerial r sessionId))
      | .error _ => (r,.retrying sessionId (liveSerial r sessionId)))
  | .retrying sessionId found => some (
      match r.transition sessionId .failed with
      | .ok result => (result.1,.failed found)
      | .error _ => (r,.notFailed found))
  | .aborting sessionId => some (afterCall r (r.transition sessionId .aborted) fun result => (result.1,.returned false))
  | .returned _ | .raised _ | .failed _ | .notFailed _ => none

end ImageSearch.ShareSessions
