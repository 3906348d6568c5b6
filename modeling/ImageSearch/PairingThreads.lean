import ImageSearch.PairingService

namespace ImageSearch.PairingThreads
open Transitions Threads Payload BackupState BackupFolder MobileStore PairingStore PairingService

structure Acceptance where
  sessionId : String
  requestedPlatform : MobilePlatform
  token : MobilePairingToken
  deviceUuid : String
  deviceName : String
  currentTime : DateTime
  backupAgainContext : Option MobileBackupAgainSessionContext
  backupAgainDecision : MobileBackupAgainDecision
  claimedTransport : Option String
  deriving DecidableEq, Repr

inductive AcceptancePhase where
  | checking
  | registering (session : MobilePairingSessionDraft)
  | binding (session : MobilePairingSessionDraft)
  | recording (session : MobilePairingSessionDraft) (folder : MobileFolderRecord)
  | finishing (folder : MobileFolderRecord)
  deriving DecidableEq, Repr

abbrev Result := Except Raised PairingAnswer

inductive AcceptanceStep where
  | on (phase : AcceptancePhase)
  | done (result : Result)

inductive Outside where
  | resume
  | directory (directory : Directory)
  | transport (usbConnected : Bool)
  | decided (decision : Option MobileBackupAgainDecision)
  | raised (isException : Bool)

def Acceptance.repairs (a : Acceptance) : Option MobileBackupAgainSessionContext :=
  a.backupAgainContext.filter fun context =>
    a.deviceUuid ≠ context.expectedDeviceUuid && a.backupAgainDecision = .continueInSelectedFolder

def acceptFolder (a : Acceptance) (session : MobilePairingSessionDraft) (store : Store) (directory : Directory) :
    Except Raised MobileFolderRecord × Store :=
  match a.repairs with
  | some context => repairMobileFolderDeviceBinding store context.selectedFolderId context.selectedFolderPath
      context.expectedDeviceUuid a.deviceUuid a.currentTime
  | none => getOrCreateMobileFolder store session.destinationParent a.deviceUuid a.deviceName a.currentTime directory

def selectedTransport (a : Acceptance) (usbConnected : Bool) : String :=
  match a.claimedTransport with
  | some claimed => if claimed = "" then resolved else claimed
  | none => resolved
where
  resolved : String :=
    if a.requestedPlatform = .ios && usbConnected then pairingTransportUsb else pairingTransportLan

-- An unsupported transition is logged and ignored.
def advanceBackupStateMachine (state : MobileBackupState) (event : MobileBackupEvent) : MobileBackupState :=
  (transition state event).getD state

def recordedState (service : Service) (sessionId : String) : MobileBackupState :=
  (service.pairingStateBySessionId sessionId).elim .pendingPairing PairingStateRecord.state

def acceptedState (state : MobileBackupState) : MobileBackupState :=
  advanceBackupStateMachine (if state = .pairingMismatched then
    advanceBackupStateMachine state .pairingMismatchResolved else state) .pairingAccepted

theorem recorded_pairing {service : Service} {sessionId : String} :
    isPairing (recordedState service sessionId) = true := by
  unfold recordedState
  cases service.pairingStateBySessionId sessionId with
  | none => rfl
  | some record => exact record.pairing

-- Whatever was on record, the session is completed after an acceptance.
theorem accepted_completed {state : MobileBackupState} (pairing : isPairing state = true) :
    acceptedState state = .pairingCompleted := by
  cases state <;> first | rfl | cases pairing

theorem stopped_stopped {state : MobileBackupState} (pairing : isPairing state = true) :
    advanceBackupStateMachine state .pairingStopped = .pairingStopped := by
  cases state <;> first | rfl | cases pairing

def acceptanceMessage (deviceName transport : String) : String :=
  if transport = pairingTransportUsb then "Pairing accepted for " ++ deviceName ++ ". Desktop is ready for USB transfer."
  else "Pairing accepted for " ++ deviceName ++ ". Desktop is ready for LAN transfer."

def acceptanceDetails (desktop : DesktopIdentity) (a : Acceptance) (folder : MobileFolderRecord) (transport : String) :
    PairingDetails where
  sessionId := some a.sessionId
  deviceUuid := some a.deviceUuid
  desktopDeviceId := some desktop.desktopDeviceId
  desktopName := some desktop.desktopName
  folderId := some folder.folderId
  folderPath := some folder.folderPath
  transport := some transport
  pairedAt := some (isoformatSeconds a.currentTime)

def acceptPairing (desktop : DesktopIdentity) (service : Service) (session : MobilePairingSessionDraft) (a : Acceptance)
    (folder : MobileFolderRecord) (transport : String) : Service × PairingAnswer :=
  let message := acceptanceMessage a.deviceName transport
  let record := pairingStateRecord (acceptedState (recordedState service a.sessionId)) message (some a.deviceUuid)
    (acceptanceDetails desktop a folder transport) (by rw [accepted_completed recorded_pairing]; rfl)
  let settled := (service.settle a.sessionId {
      state:=.accepted
      message
      deviceName:=some a.deviceName
      deviceUuid:=some a.deviceUuid
      folderPath:=some folder.folderPath
      sessionId:=some a.sessionId
      transport:=some transport} record).clearPending a.sessionId
  ({settled with
    acceptances:=service.acceptances ++ [⟨a.sessionId,session.token.oneTimePasscode,a.deviceUuid⟩]},⟨200,record.payload⟩)

def activeDraft (service : Service) (sessionId : String) : Option MobilePairingSessionDraft :=
  service.activeSession.filter fun session => session.sessionId = sessionId

def stepAcceptance (desktop : DesktopIdentity) (service : Service) (a : Acceptance) :
    AcceptancePhase → Outside → Option (Service × AcceptanceStep)
  | .checking,.resume =>
    match activeDraft service a.sessionId with
    | none => some (service,.done (.ok noActiveSession))
    | some session => some (service,.on (.registering session))
  | .registering session,.resume => some ({service with
      store:=upsertMobileDevice service.store a.deviceUuid a.requestedPlatform.value a.deviceName
        (derivePairingKeyB64 desktop a.sessionId a.token.oneTimePasscode a.requestedPlatform.value) a.currentTime},
      .on (.binding session))
  | .binding session,.directory directory =>
    let (bound,store) := acceptFolder a session service.store directory
    some ({service with store},match bound with
      | .error raised => .done (.error raised)
      | .ok folder => .on (.recording session folder))
  | .recording session folder,.resume =>
    match insertMobileBackupSession service.store a.sessionId a.deviceUuid folder.folderId .paired session.createdAt
        a.currentTime with
    | none => some (service,.done (.error .integrityError))
    | some store => some ({service with store},.on (.finishing folder))
  | .finishing folder,.transport usbConnected =>
    match activeDraft service a.sessionId with
    | none => some (service,.done (.ok noActiveSession))
    | some session =>
      let accepted := acceptPairing desktop service session a folder (selectedTransport a usbConnected)
      some (accepted.1,.done (.ok accepted.2))
  | _,_ => none

inductive ClaimPhase where
  | arrived
  | mismatching (a : Acceptance) (context : MobileBackupAgainSessionContext)
  | accepting (a : Acceptance) (phase : AcceptancePhase)
  | leaving (sessionId : String) (result : Result)
  | answered (result : Result)

inductive ResolverPhase where
  | absent
  | resolving (pending : PendingMismatchResolution)
  | stopping (pending : PendingMismatchResolution) (message : String)
  | accepting (a : Acceptance) (phase : AcceptancePhase)
  -- `raised` when the thread ends by an exception
  | ended (sessionId : String) (raised : Bool)

structure Claim where
  request : Fields
  claimedTransport : Option String
  currentTime : DateTime
  phase : ClaimPhase
  resolver : ResolverPhase

def requiredFields : List String := ["schema","sid","opt","platform","device_uuid","device_name","client_nonce"]

def fieldText (request : Fields) (fieldName : String) : String :=
  match Payload.get request fieldName with
  | .string value => value
  | _ => ""

def refuseFields (request : Fields) : Option PairingAnswer :=
  match requiredFields.find? fun fieldName => strip (fieldText request fieldName) = "" with
  | some fieldName => some (refusal 400 ("The pairing request is missing the required field '" ++ fieldName ++ "'.")
      .pendingPairing)
  | none =>
    if fieldText request "schema" ≠ pairingProtocolSchema then
      some (refusal 400 "The pairing request schema version is unsupported." .pendingPairing)
    else none

-- A settled session answers every claim that names it with what it has on record.
def replay (service : Service) (session : MobilePairingSessionDraft) : Option PairingAnswer :=
  if service.pairingResult.state = .accepted ∨ service.pairingResult.state = .mismatched ∨
      service.pairingResult.state = .stopped then
    (service.pairingStateBySessionId session.sessionId).map fun record => ⟨200,record.payload⟩
  else none

def expireSession (service : Service) (session : MobilePairingSessionDraft) : Service :=
  let message := "This pairing code expired. Refresh it on desktop and scan again."
  service.settle session.sessionId
    {state:=.expired,message:="The desktop pairing code expired before the mobile app completed pairing."
     sessionId:=some session.sessionId}
    (pairingStateRecord .pairingExpired message none {sessionId:=some session.sessionId} rfl)

def Claim.acceptance (claim : Claim) (service : Service) (session : MobilePairingSessionDraft)
    (requestedPlatform : MobilePlatform) : Acceptance where
  sessionId := session.sessionId
  requestedPlatform := requestedPlatform
  token := session.token
  deviceUuid := strip (fieldText claim.request "device_uuid")
  deviceName := strip (fieldText claim.request "device_name")
  currentTime := claim.currentTime
  backupAgainContext := service.activeBackupAgainContext
  backupAgainDecision := .backupInNewFolder
  claimedTransport := claim.claimedTransport

def Acceptance.begin (a : Acceptance) : ClaimPhase :=
  match a.backupAgainContext with
  | some context => if a.deviceUuid ≠ context.expectedDeviceUuid then .mismatching a context else .accepting a .checking
  | none => .accepting a .checking

def receiveClaim (service : Service) (claim : Claim) : Service × ClaimPhase :=
  match service.activeSession with
  | none => (service,.answered (.ok (refusal 404 "There is no active desktop pairing session." .pairingStopped)))
  | some session =>
    match refuseFields claim.request with
    | some answer => (service,.answered (.ok answer))
    | none =>
      if fieldText claim.request "sid" ≠ session.sessionId then
        (service,.answered (.ok (refusal 404 "The pairing request does not match the active desktop session."
          .pairingStopped)))
      else
      match replay service session with
      | some answer => (service,.answered (.ok answer))
      | none =>
        if service.pairingRequestInProgress then
          (service,.answered (.ok (refusal 409 "Desktop is already resolving another pairing request." .pendingPairing)))
        else
        match parsePlatform (fieldText claim.request "platform") with
        | none => (service,.answered (.ok (refusal 400 "The pairing request platform is unsupported." .pendingPairing)))
        | some requestedPlatform =>
          if session.token.isExpired claim.currentTime then
            (expireSession service session,.answered (.ok (refusal 410
              "This pairing code expired. Refresh it on desktop and scan again." .pairingExpired)))
          else if fieldText claim.request "opt" ≠ session.token.oneTimePasscode then
            (service,.answered (.ok (refusal 403 "The pairing code was rejected by desktop." .pendingPairing)))
          else ({service with pairingRequestInProgress:=true},
            (claim.acceptance service session requestedPlatform).begin)

def mismatchMessage : String := "Pairing mismatch detected. Waiting for desktop confirmation before continuing."

def mismatchRecord (a : Acceptance) : PairingStateRecord :=
  pairingStateRecord .pairingMismatched mismatchMessage (some a.deviceUuid)
    {sessionId:=some a.sessionId,deviceUuid:=some a.deviceUuid} rfl

def Acceptance.pending (a : Acceptance) (context : MobileBackupAgainSessionContext) : PendingMismatchResolution :=
  ⟨a.sessionId,a.requestedPlatform,a.token,a.deviceUuid,a.deviceName,a.currentTime,context⟩

def detectMismatch (service : Service) (a : Acceptance) (context : MobileBackupAgainSessionContext) : Service :=
  {service.settle a.sessionId
      {state:=.mismatched,message:=mismatchMessage,deviceName:=some a.deviceName,deviceUuid:=some a.deviceUuid
       sessionId:=some a.sessionId}
      (mismatchRecord a) with
    pendingMismatchResolution:=some (a.pending context)}

def completePairingStopped (service : Service) (pending : PendingMismatchResolution) (message : String) : Service :=
  if !service.active pending.sessionId then service
  else
    (service.settle pending.sessionId
      {state:=.stopped,message,deviceName:=some pending.deviceName,deviceUuid:=some pending.deviceUuid
       sessionId:=some pending.sessionId}
      (pairingStateRecord (advanceBackupStateMachine (recordedState service pending.sessionId) .pairingStopped) message
        (some pending.deviceUuid) {sessionId:=some pending.sessionId,deviceUuid:=some pending.deviceUuid}
        (by rw [stopped_stopped recorded_pairing]; rfl))).clearPending pending.sessionId

def PendingMismatchResolution.acceptance (pending : PendingMismatchResolution)
    (backupAgainDecision : MobileBackupAgainDecision) : Acceptance where
  sessionId := pending.sessionId
  requestedPlatform := pending.platform
  token := pending.token
  deviceUuid := pending.deviceUuid
  deviceName := pending.deviceName
  currentTime := pending.currentTime
  backupAgainContext := some pending.backupAgainContext
  backupAgainDecision := backupAgainDecision
  claimedTransport := none

-- What follows the resolver callback. Anything but a decision means a new folder; an
-- exception of the callback is caught, a BaseException that is none ends the thread.
def resolve (pending : PendingMismatchResolution) : Outside → Option ResolverPhase
  | .decided (some .cancel) =>
    some (.stopping pending "Desktop canceled this pairing request. Start Back Up Again to retry.")
  | .decided decision =>
    some (.accepting (PendingMismatchResolution.acceptance pending (decision.getD .backupInNewFolder)) .checking)
  | .raised true => some (.stopping pending "Desktop failed while resolving the mobile pairing mismatch.")
  | .raised false => some (.ended pending.sessionId true)
  | _ => none

def stepRequest (desktop : DesktopIdentity) (service : Service) (claim : Claim) (outside : Outside) :
    Option (Service × Claim) :=
  match claim.phase,outside with
  | .arrived,.resume =>
    let received := receiveClaim service claim
    some (received.1,{claim with phase:=received.2})
  | .mismatching a context,.resume =>
    if service.active a.sessionId then some (detectMismatch service a context,{claim with
      phase:=.leaving a.sessionId (.ok ⟨200,(mismatchRecord a).payload⟩)
      resolver:=.resolving (a.pending context)})
    else some (service,{claim with phase:=.leaving a.sessionId (.ok noActiveSession)})
  | .accepting a phase,outside => (stepAcceptance desktop service a phase outside).map fun next =>
      (next.1,{claim with phase:=match next.2 with
        | .on phase => .accepting a phase
        | .done result => .leaving a.sessionId result})
  | .leaving _ result,.resume => some ({service with pairingRequestInProgress:=false},{claim with phase:=.answered result})
  | _,_ => none

def stepResolver (desktop : DesktopIdentity) (service : Service) (claim : Claim) (outside : Outside) :
    Option (Service × Claim) :=
  match claim.resolver,outside with
  | .resolving pending,outside => (resolve pending outside).map fun resolver => (service,{claim with resolver})
  | .stopping pending message,.resume =>
    some (completePairingStopped service pending message,{claim with resolver:=.ended pending.sessionId false})
  | .accepting a phase,outside => (stepAcceptance desktop service a phase outside).map fun next =>
      (next.1,{claim with resolver:=match next.2 with
        | .on phase => .accepting a phase
        | .done (.ok _) => .ended a.sessionId false
        | .done (.error _) => .ended a.sessionId true})
  | _,_ => none

inductive Input where
  | request (outside : Outside)
  | resolver (outside : Outside)

def stepClaim (desktop : DesktopIdentity) (service : Service) (claim : Claim) : Input → Option (Service × Claim)
  | .request outside => stepRequest desktop service claim outside
  | .resolver outside => stepResolver desktop service claim outside

def pairingPool (Index : Type*) [DecidableEq Index] (desktop : DesktopIdentity) :
    System (Pool Index Service Claim) (Move Index Input Event) := pool (stepClaim desktop) stepEvent

structure Fresh {Index : Type*} (s : Pool Index Service Claim) : Prop where
  constructed : ∃ store, s.world = .constructed store
  arrived : ∀ i, (s.threads i).phase = .arrived ∧ (s.threads i).resolver = .absent

def sampleIdentity : DesktopIdentity := ⟨"desktop-1","Desktop",id⟩

def sampleDraft (sessionId oneTimePasscode : String) : MobilePairingSessionDraft :=
  ⟨"/backups",sessionId,0,⟨oneTimePasscode,300000000⟩⟩

def sampleClaim (sessionId oneTimePasscode deviceUuid : String) : Claim where
  request := [("schema",.string pairingProtocolSchema),("sid",.string sessionId),("opt",.string oneTimePasscode),
    ("platform",.string "android"),("device_uuid",.string deviceUuid),("device_name",.string "Phone"),
    ("client_nonce",.string "nonce")]
  claimedTransport := none
  currentTime := 0
  phase := .arrived
  resolver := .absent

def noRows : Store := ⟨.empty,1,.empty,.empty,.empty,.empty⟩

def samplePool {Index : Type*} (claims : Index → Claim) : Pool Index Service Claim := ⟨.constructed noRows,claims⟩

end ImageSearch.PairingThreads
