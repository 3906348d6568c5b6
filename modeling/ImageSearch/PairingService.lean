import ImageSearch.PairingStore
import ImageSearch.Threads

namespace ImageSearch.PairingService
open Payload BackupState MobileStore

def pairingProtocolSchema : String := "dtis.mobile-pairing.v1"
def pairingTransportLan : String := "lan"
def pairingTransportUsb : String := "usb"

inductive MobilePlatform where
  | android | ios
  deriving DecidableEq, Repr

def MobilePlatform.value : MobilePlatform → String
  | .android => "android"
  | .ios => "ios"

def parsePlatform (value : String) : Option MobilePlatform :=
  [MobilePlatform.android,.ios].find? fun platform => platform.value = value

structure MobilePairingToken where
  oneTimePasscode : String
  expiresAt : DateTime
  deriving DecidableEq, Repr

-- seconds_remaining truncates: a token with less than a second left has expired.
def MobilePairingToken.isExpired (token : MobilePairingToken) (now : DateTime) : Bool :=
  token.expiresAt - now < 1000000

structure MobilePairingSessionDraft where
  destinationParent : String
  sessionId : String
  createdAt : DateTime
  token : MobilePairingToken
  deriving DecidableEq, Repr

inductive PairingResultState where
  | waiting | accepted | mismatched | stopped | rejected | expired
  deriving DecidableEq, Repr

structure MobilePairingResult where
  state : PairingResultState
  message : String
  deviceName : Option String := none
  deviceUuid : Option String := none
  folderPath : Option String := none
  sessionId : Option String := none
  transport : Option String := none
  deriving DecidableEq, Repr

inductive MobileBackupAgainDecision where
  | continueInSelectedFolder | backupInNewFolder | cancel
  deriving DecidableEq, Repr

structure MobileBackupAgainSessionContext where
  selectedFolderId : Nat
  selectedFolderPath : String
  expectedDeviceUuid : String
  deriving DecidableEq, Repr

structure PendingMismatchResolution where
  sessionId : String
  platform : MobilePlatform
  token : MobilePairingToken
  deviceUuid : String
  deviceName : String
  currentTime : DateTime
  backupAgainContext : MobileBackupAgainSessionContext
  deriving DecidableEq, Repr

structure PairingAnswer where
  statusCode : Nat
  payload : Fields

-- What the service is constructed with, and the digest its pairing keys are made of:
-- base64.urlsafe_b64encode(sha256(material).digest()) without padding.
structure DesktopIdentity where
  desktopDeviceId : String
  desktopName : String
  sha256B64 : String → String

def derivePairingKeyB64 (desktop : DesktopIdentity) (sessionId oneTimePasscode platform : String) : String :=
  desktop.sha256B64 ("dtis.mobile-pairing.v1\n" ++ sessionId ++ "\n" ++ oneTimePasscode ++ "\n" ++ platform)

structure PairingDetails where
  sessionId : Option String := none
  deviceUuid : Option String := none
  desktopDeviceId : Option String := none
  desktopName : Option String := none
  folderId : Option Nat := none
  folderPath : Option String := none
  transport : Option String := none
  pairedAt : Option String := none

def optionalField (fieldName : String) (value : Option String) : Fields :=
  (value.map fun text => (fieldName,Json.string text)).toList

def buildPairingResponsePayload (state : MobileBackupState) (message : String) (details : PairingDetails) : Fields :=
  [("schema",.string pairingProtocolSchema),("backup_state",.string state.value),("message",.string message)] ++
    optionalField "session_id" details.sessionId ++ optionalField "device_uuid" details.deviceUuid ++
    optionalField "desktop_device_id" details.desktopDeviceId ++ optionalField "desktop_name" details.desktopName ++
    (details.folderId.map fun folderId => ("folder_id",Json.int folderId)).toList ++
    optionalField "folder_path" details.folderPath ++ optionalField "transport" details.transport ++
    optionalField "paired_at" details.pairedAt

theorem stated_payload {state : MobileBackupState} {message : String} {details : PairingDetails} :
    Payload.get (buildPairingResponsePayload state message details) "backup_state" = .string state.value := by
  rfl

def isPairing : MobileBackupState → Bool
  | .pendingPairing | .pairingMismatched | .pairingCompleted | .pairingExpired | .pairingStopped => true
  | _ => false

-- A session is never on record in a state of its transfer, and its payload says the state it is in.
structure PairingStateRecord where
  state : MobileBackupState
  message : String
  deviceUuid : Option String
  payload : Fields
  pairing : isPairing state = true
  stated : Payload.get payload "backup_state" = .string state.value

def pairingStateRecord (state : MobileBackupState) (message : String) (deviceUuid : Option String)
    (details : PairingDetails) (pairing : isPairing state = true) : PairingStateRecord :=
  ⟨state,message,deviceUuid,buildPairingResponsePayload state message details,pairing,stated_payload⟩

def refusal (statusCode : Nat) (message : String) (pairingState : MobileBackupState) : PairingAnswer :=
  ⟨statusCode,[("schema",.string pairingProtocolSchema),("backup_state",.string pairingState.value),
    ("message",.string message)]⟩

def noActiveSession : PairingAnswer := refusal 404 "There is no active desktop pairing session." .pairingStopped

def backupState (answer : PairingAnswer) : Json := Payload.get answer.payload "backup_state"

structure Accepted where
  sessionId : String
  oneTimePasscode : String
  deviceUuid : String
  deriving DecidableEq, Repr

-- The service behind its lock, and the tables. The last two fields are for the statements
-- only: the session ids uuid4 has given out, and what has been accepted.
structure Service where
  activeSession : Option MobilePairingSessionDraft
  activeBackupAgainContext : Option MobileBackupAgainSessionContext
  pairingResult : MobilePairingResult
  pairingStateBySessionId : String → Option PairingStateRecord
  pendingMismatchResolution : Option PendingMismatchResolution
  pairingRequestInProgress : Bool
  store : Store
  issued : List String
  acceptances : List Accepted

def Service.constructed (store : Store) : Service where
  activeSession := none
  activeBackupAgainContext := none
  pairingResult := {state:=.waiting,message:="Scan the QR code from the mobile app to begin pairing."}
  pairingStateBySessionId := fun _ => none
  pendingMismatchResolution := none
  pairingRequestInProgress := false
  store := store
  issued := []
  acceptances := []

def Service.active (service : Service) (sessionId : String) : Bool :=
  service.activeSession.any fun session => session.sessionId = sessionId

-- The result of a session and the record a phone polls, as every section writes them.
def Service.settle (service : Service) (sessionId : String) (result : MobilePairingResult) (record : PairingStateRecord) :
    Service :=
  {service with
    pairingResult:=result
    pairingStateBySessionId:=Function.update service.pairingStateBySessionId sessionId (some record)}

def Service.clearPending (service : Service) (sessionId : String) : Service :=
  {service with
    pendingMismatchResolution:=if service.pendingMismatchResolution.any (fun pending => pending.sessionId = sessionId)
      then none else service.pendingMismatchResolution}

inductive Event where
  | start (session : MobilePairingSessionDraft) (context : Option MobileBackupAgainSessionContext)
  | refresh (token : MobilePairingToken)
  | close
  | shutdown
  -- another component of the desktop writes the tables
  | tables (store : Store)

def startPairingSession (service : Service) (session : MobilePairingSessionDraft)
    (context : Option MobileBackupAgainSessionContext) : Service :=
  let message := "Waiting for the mobile app to claim this pairing session."
  ({service with
    activeSession:=some session
    activeBackupAgainContext:=context
    pendingMismatchResolution:=none
    pairingRequestInProgress:=false
    issued:=session.sessionId :: service.issued} : Service).settle session.sessionId
    {state:=.waiting,message,sessionId:=some session.sessionId}
    (pairingStateRecord .pendingPairing message none {sessionId:=some session.sessionId} rfl)

-- The device of the new result is read after the result was replaced, so there is none.
def closeActiveSession (service : Service) : Service :=
  let message := "Desktop stopped this pairing session."
  let stopped : Service :=
    match service.activeSession with
    | some session =>
      if service.pairingResult.state = .accepted then service else service.settle session.sessionId
        {state:=.stopped,message,sessionId:=some session.sessionId}
        (pairingStateRecord .pairingStopped message none {sessionId:=some session.sessionId} rfl)
    | none => service
  {stopped with
    activeSession:=none
    activeBackupAgainContext:=none
    pendingMismatchResolution:=none
    pairingRequestInProgress:=false
    pairingResult:=if stopped.pairingResult.state = .accepted then
      {state:=.waiting,message:="Scan the QR code from the mobile app to begin pairing."} else stopped.pairingResult}

def shutdown (service : Service) : Service :=
  {service with
    activeSession:=none
    activeBackupAgainContext:=none
    pendingMismatchResolution:=none
    pairingRequestInProgress:=false
    pairingStateBySessionId:=fun _ => none}

-- uuid4 gives out no id twice. A refresh without a session, or of an accepted one, raises.
def stepEvent (service : Service) : Event → Option Service
  | .start session context =>
    if session.sessionId ∈ service.issued then none else some (startPairingSession service session context)
  | .refresh token =>
    match service.activeSession with
    | none => none
    | some session =>
      if service.pairingResult.state = .accepted then none
      else some {service with activeSession:=some {session with token}}
  | .close => some (closeActiveSession service)
  | .shutdown => some (shutdown service)
  | .tables store => some {service with store}

end ImageSearch.PairingService
