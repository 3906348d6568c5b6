import ImageSearch.ExportPipelines

namespace ImageSearch.AdaptiveTransfers
open TransferClients PhoneUploads ExportPipelines

inductive TransferFailureCode where
  | diskFull
  deriving DecidableEq

inductive TransferClientError where
  | invalidHTTPResponse
  | unsupportedResponseSchema
  | rejected (message : String)
  | terminalFailure (code : TransferFailureCode) (message : String)
  | transport (message : String)
  | decoding (message : String)
  deriving DecidableEq

def TransferClientError.message : TransferClientError → String
  | .invalidHTTPResponse => "Desktop transfer returned an invalid network response."
  | .unsupportedResponseSchema => "Desktop transfer returned an unsupported response schema."
  | .rejected message | .terminalFailure _ message | .transport message | .decoding message => message

def TransferClientError.terminalFailureCode : TransferClientError → Option TransferFailureCode
  | .terminalFailure code _ => some code
  | _ => none

-- What an operation can throw: a client's error, CancellationError, any other Error.
inductive Thrown where
  | client (error : TransferClientError)
  | cancellation
  | other (description : String)
  deriving DecidableEq

structure TransferServerResponse where
  status : ServerStatus
  message : String
  localRelativePath : Option String
  failureCode : Option TransferFailureCode
  deriving DecidableEq

def TransferServerResponse.rejectionError (response : TransferServerResponse) : TransferClientError :=
  match response.failureCode with
  | none => .rejected response.message
  | some failureCode => .terminalFailure failureCode response.message

def uploadResponse (statusCode : Nat) (response : TransferServerResponse) : Except Thrown TransferServerResponse :=
  if !responseOk statusCode then .error (.client response.rejectionError)
  else match response.status with
  | .stored | .skipped => .ok response
  | .rejected => .error (.client response.rejectionError)
  | .accepted | .completed => .error (.client (.rejected "Desktop returned an unexpected transfer asset response."))

structure CapabilityExchangeResponse where
  message : String
  capabilities : Option (List (String × Int))

structure UpdatePromptResponse where
  message : String
  required : Option Bool

structure TransferAssetExistenceCandidate where
  assetID : String
  contentSHA1 : String
  fileSize : Nat
  createdAt : String

structure TransferAssetExistenceMatch where
  assetID : String
  localRelativePath : String

structure RoutedDesktop where
  desktopDeviceID : String
  lastSessionID : String
  transport : Transport

def RoutedDesktop.desktopIDForRouting (desktop : RoutedDesktop) : String :=
  if desktop.desktopDeviceID = "" then desktop.lastSessionID else desktop.desktopDeviceID

-- The actor's two dictionaries; an inner dictionary that is empty is as good as none.
structure AdaptiveState where
  lastResolvedTransportByDesktopID : String → Option Transport
  unavailablePreferredTransportRetryDeadlinesByDesktopID : String → Transport → Option Int

structure Phone (W : Type) where
  client : AdaptiveState
  world : W

-- A call of a client, up to its end. The actor is free meanwhile, so that other calls of
-- it may change its state too.
abbrev Attempt (W α : Type) := Phone W → Except Thrown α × Phone W

-- A MobileTransferClient, with the protocols that it may also conform to.
structure MobileTransferClient (W : Type) where
  startSession : RoutedDesktop → Nat → Attempt W Unit
  lookupExistingAssets : List TransferAssetExistenceCandidate → RoutedDesktop →
    Attempt W (List (String × TransferAssetExistenceMatch))
  uploadAsset : ExportedTransferAsset → RoutedDesktop → Attempt W TransferServerResponse
  completeSession : RoutedDesktop → Nat → Nat → Option String → Attempt W TransferServerResponse
  uploadAssetWithChunkProgress : Option (ExportedTransferAsset → RoutedDesktop → (Nat → Phone W → Phone W) →
    Attempt W TransferServerResponse)
  exchangeCapabilities : Option (List (String × Int) → RoutedDesktop → Attempt W CapabilityExchangeResponse)
  sendUpdatePrompt : Option (Bool → Option String → Option String → RoutedDesktop → Attempt W UpdatePromptResponse)
  isUSBTransportConnected : Option (Phone W → Bool × Phone W)

-- `now` is Date(), `isCancelled` of the task the calls are made in.
structure Environment (W : Type) where
  lanClient : MobileTransferClient W
  usbClient : MobileTransferClient W
  now : W → Int
  isCancelled : W → Bool
  describe : Thrown → String
  trimmingCharacters : String → String

-- 0.5 seconds, in microseconds.
def preferredTransportRetryCooldown : Int := 500000

-- `attempts` is a ghost: the transports whose client has been called, and what each threw.
structure Tried where
  transport : Transport
  thrown : Option Thrown
  deriving DecidableEq

structure Execution (W α : Type) where
  result : Except Thrown α
  attempts : List Tried
  phone : Phone W

section Client
variable {W α : Type}

def Phone.canAttemptPreferredTransport (env : Environment W) (phone : Phone W) (transport : Transport)
    (desktop : RoutedDesktop) : Bool :=
  match phone.client.unavailablePreferredTransportRetryDeadlinesByDesktopID desktop.desktopIDForRouting transport with
  | none => true
  | some deadline => deadline ≤ env.now phone.world

def AdaptiveState.setDeadline (client : AdaptiveState) (desktop : RoutedDesktop) (transport : Transport)
    (deadline : Option Int) : AdaptiveState :=
  let desktopID := desktop.desktopIDForRouting
  let byDesktopID := client.unavailablePreferredTransportRetryDeadlinesByDesktopID
  let retryDeadlines := Function.update (byDesktopID desktopID) transport deadline
  {client with unavailablePreferredTransportRetryDeadlinesByDesktopID:=Function.update byDesktopID desktopID retryDeadlines}

def Phone.markPreferredTransportUnavailable (env : Environment W) (phone : Phone W) (transport : Transport)
    (desktop : RoutedDesktop) : Phone W :=
  {phone with client:=
    phone.client.setDeadline desktop transport (some (env.now phone.world + preferredTransportRetryCooldown))}

def Phone.clearPreferredTransportUnavailable (phone : Phone W) (transport : Transport) (desktop : RoutedDesktop) : Phone W :=
  {phone with client:=phone.client.setDeadline desktop transport none}

def Phone.recordResolvedTransport (phone : Phone W) (desktop : RoutedDesktop) (transport : Transport) : Phone W :=
  let resolved := Function.update phone.client.lastResolvedTransportByDesktopID desktop.desktopIDForRouting (some transport)
  {phone with client:={phone.client with lastResolvedTransportByDesktopID:=resolved}}

def isUSBTransportConnected (env : Environment W) (phone : Phone W) : Bool × Phone W :=
  match env.usbClient.isUSBTransportConnected with
  | none => (false,phone)
  | some usbConnectivity => usbConnectivity phone

def resolveDesktopTransport (env : Environment W) (desktop : RoutedDesktop) (phone : Phone W) : Transport × Phone W :=
  let connected := isUSBTransportConnected env phone
  if connected.1 then (.usb,connected.2)
  else match connected.2.client.lastResolvedTransportByDesktopID desktop.desktopIDForRouting with
  | some resolvedTransport => (resolvedTransport,connected.2)
  | none => (desktop.transport,connected.2)

def otherTransport : Transport → Transport
  | .usb => .lan
  | .lan => .usb

def selectTransport (env : Environment W) (desktop : RoutedDesktop) (preferredTransport : Option Transport)
    (phone : Phone W) : Transport × Phone W :=
  match preferredTransport with
  | some preferredTransport =>
    (if phone.canAttemptPreferredTransport env preferredTransport desktop then preferredTransport
      else otherTransport preferredTransport,phone)
  | none => resolveDesktopTransport env desktop phone

-- The two cases of the source's switch differ in nothing but the transports.
def executeWithFallback (env : Environment W) (desktop : RoutedDesktop) (preferredTransport : Option Transport)
    (operation : Transport → Attempt W α) (phone : Phone W) : Execution W α :=
  let selected := selectTransport env desktop preferredTransport phone
  let transport := selected.1
  let fallback := otherTransport transport
  match operation transport selected.2 with
  | (.ok result,phone) =>
    let phone := phone.clearPreferredTransportUnavailable transport desktop
    ⟨.ok result,[⟨transport,none⟩],if preferredTransport = none then phone.recordResolvedTransport desktop transport else phone⟩
  -- Whatever has been thrown.
  | (.error error,phone) =>
    let phone :=
      if preferredTransport = some transport then phone.markPreferredTransportUnavailable env transport desktop else phone
    match operation fallback phone with
    | (.ok result,phone) =>
      ⟨.ok result,[⟨transport,some error⟩,⟨fallback,none⟩],
        (phone.clearPreferredTransportUnavailable fallback desktop).recordResolvedTransport desktop fallback⟩
    | (.error second,phone) => ⟨.error second,[⟨transport,some error⟩,⟨fallback,some second⟩],phone⟩

def Environment.client (env : Environment W) : Transport → MobileTransferClient W
  | .usb => env.usbClient
  | .lan => env.lanClient

def desktopWithResolvedTransport (desktop : RoutedDesktop) (transport : Transport) : RoutedDesktop := {desktop with transport}

def unavailable (transport : Transport) (service : String) : Thrown :=
  .client (.transport ((match transport with | .usb => "USB " | .lan => "LAN ") ++ service ++ " transport is unavailable."))

def normalizedCapabilityExchangeFlags (env : Environment W) (capabilityFlags : List (String × Int)) : List (String × Int) :=
  ((capabilityFlags.filter fun flag => env.trimmingCharacters flag.1 != "" && flag.2 == 1).map fun flag =>
    (env.trimmingCharacters flag.1,1)).dedup

inductive Request (W : Type) where
  | startSession (totalAssets : Nat)
  | lookupExistingAssets (candidates : List TransferAssetExistenceCandidate) (preferredTransport : Option Transport)
  | uploadAsset (asset : ExportedTransferAsset) (preferredTransport : Option Transport)
      (onChunkTransferred : Option (Nat → Phone W → Phone W))
  | completeSession (transferredCount failedCount : Nat) (interruptionReason : Option String)
  | exchangeCapabilities (mobileCapabilities : List (String × Int))
  | sendUpdatePrompt (required : Bool) (bodyText updateDestination : Option String)

def Request.Result : Request W → Type
  | .startSession _ => Unit
  | .lookupExistingAssets _ _ => List (String × TransferAssetExistenceMatch)
  | .uploadAsset _ _ _ | .completeSession _ _ _ => TransferServerResponse
  | .exchangeCapabilities _ => CapabilityExchangeResponse
  | .sendUpdatePrompt _ _ _ => UpdatePromptResponse

-- Only a lookup and an upload can be asked for on one transport.
def Request.preferredTransport : Request W → Option Transport
  | .lookupExistingAssets _ preferredTransport | .uploadAsset _ preferredTransport _ => preferredTransport
  | _ => none

def Request.operation (env : Environment W) (desktop : RoutedDesktop) : (request : Request W) → Transport → Attempt W request.Result
  | .startSession totalAssets,transport =>
    (env.client transport).startSession (desktopWithResolvedTransport desktop transport) totalAssets
  | .lookupExistingAssets candidates _,transport =>
    (env.client transport).lookupExistingAssets candidates (desktopWithResolvedTransport desktop transport)
  | .uploadAsset asset _ onChunkTransferred,transport =>
    match onChunkTransferred,(env.client transport).uploadAssetWithChunkProgress with
    | some onChunkTransferred,some chunkUpload =>
      chunkUpload asset (desktopWithResolvedTransport desktop transport) onChunkTransferred
    | _,_ => (env.client transport).uploadAsset asset (desktopWithResolvedTransport desktop transport)
  | .completeSession transferredCount failedCount interruptionReason,transport =>
    (env.client transport).completeSession (desktopWithResolvedTransport desktop transport) transferredCount failedCount
      interruptionReason
  | .exchangeCapabilities mobileCapabilities,transport =>
    match (env.client transport).exchangeCapabilities with
    | none => fun phone => (.error (unavailable transport "capability exchange"),phone)
    | some exchange =>
      exchange (normalizedCapabilityExchangeFlags env mobileCapabilities)
        (desktopWithResolvedTransport desktop transport)
  | .sendUpdatePrompt required bodyText updateDestination,transport =>
    match (env.client transport).sendUpdatePrompt with
    | none => fun phone => (.error (unavailable transport "update prompt"),phone)
    | some prompt =>
      prompt required bodyText updateDestination (desktopWithResolvedTransport desktop transport)

-- A session that is started forgets which transports were unavailable.
def Request.entered (desktop : RoutedDesktop) (phone : Phone W) : Request W → Phone W
  | .startSession _ => (phone.clearPreferredTransportUnavailable .usb desktop).clearPreferredTransportUnavailable .lan desktop
  | _ => phone

def perform (env : Environment W) (desktop : RoutedDesktop) (request : Request W) (phone : Phone W) :
    Execution W request.Result :=
  executeWithFallback env desktop request.preferredTransport (request.operation env desktop) (request.entered desktop phone)

def startSession (env : Environment W) (desktop : RoutedDesktop) (totalAssets : Nat) : Phone W → Execution W Unit :=
  perform env desktop (.startSession totalAssets)

def lookupExistingAssets (env : Environment W) (candidates : List TransferAssetExistenceCandidate) (desktop : RoutedDesktop)
    (preferredTransport : Option Transport) : Phone W → Execution W (List (String × TransferAssetExistenceMatch)) :=
  perform env desktop (.lookupExistingAssets candidates preferredTransport)

def uploadAsset (env : Environment W) (asset : ExportedTransferAsset) (desktop : RoutedDesktop)
    (preferredTransport : Option Transport) (onChunkTransferred : Option (Nat → Phone W → Phone W)) :
    Phone W → Execution W TransferServerResponse :=
  perform env desktop (.uploadAsset asset preferredTransport onChunkTransferred)

def completeSession (env : Environment W) (desktop : RoutedDesktop) (transferredCount failedCount : Nat)
    (interruptionReason : Option String) : Phone W → Execution W TransferServerResponse :=
  perform env desktop (.completeSession transferredCount failedCount interruptionReason)

def exchangeCapabilities (env : Environment W) (mobileCapabilities : List (String × Int)) (desktop : RoutedDesktop) :
    Phone W → Execution W CapabilityExchangeResponse :=
  perform env desktop (.exchangeCapabilities mobileCapabilities)

def sendUpdatePrompt (env : Environment W) (required : Bool) (bodyText updateDestination : Option String)
    (desktop : RoutedDesktop) : Phone W → Execution W UpdatePromptResponse :=
  perform env desktop (.sendUpdatePrompt required bodyText updateDestination)

end Client

-- PreparedTransferAsset of an exported asset: one without a creation date is not looked up.
def existenceCandidate (asset : ExportedTransferAsset) : Option TransferAssetExistenceCandidate :=
  asset.createdAt.map fun createdAt => ⟨asset.assetID,asset.contentSHA1,asset.fileSize,createdAt⟩

structure PreparedTransferUploadResult where
  existingMatch : Option TransferAssetExistenceMatch := none
  response : Option TransferServerResponse := none
  errorDescription : Option String := none
  terminalFailureCode : Option TransferFailureCode := none
  terminalFailureMessage : Option String := none

-- `uploads` is a ghost: what became of the upload on each transport it was tried on.
structure PerformedUpload (W : Type) where
  result : PreparedTransferUploadResult
  uploads : List Tried
  phone : Phone W

section Upload
variable {W : Type}

def failedUpload (env : Environment W) (error : Thrown) : PreparedTransferUploadResult :=
  match error with
  | .client clientError => {
      errorDescription:=some (env.describe error)
      terminalFailureCode:=clientError.terminalFailureCode
      terminalFailureMessage:=some clientError.message}
  | error => {errorDescription:=some (env.describe error)}

-- Up to the second Task.checkCancellation: a match ends the upload before it is made.
def checkExistence (env : Environment W) (asset : ExportedTransferAsset) (desktop : RoutedDesktop)
    (preferredTransport : Option Transport) (phone : Phone W) : Except Thrown (Option TransferAssetExistenceMatch) × Phone W :=
  if env.isCancelled phone.world then (.error .cancellation,phone)
  else
  let looked : Except Thrown (Option TransferAssetExistenceMatch) × Phone W :=
    match existenceCandidate asset with
    | none => (.ok none,phone)
    | some candidate =>
      let execution := lookupExistingAssets env [candidate] desktop preferredTransport phone
      (execution.result.map fun matched => matched.lookup asset.assetID,execution.phone)
  match looked with
  | (.ok none,phone) => if env.isCancelled phone.world then (.error .cancellation,phone) else (.ok none,phone)
  | looked => looked

def performPreparedAssetUpload (env : Environment W) (asset : ExportedTransferAsset) (desktop : RoutedDesktop)
    (preferredTransport : Option Transport) (onChunkTransferred : Option (Nat → Phone W → Phone W)) (phone : Phone W) :
    PerformedUpload W :=
  match checkExistence env asset desktop preferredTransport phone with
  | (.error error,phone) => ⟨failedUpload env error,[],phone⟩
  | (.ok (some existingMatch),phone) => ⟨{existingMatch:=some existingMatch},[],phone⟩
  | (.ok none,phone) =>
    let execution := uploadAsset env asset desktop preferredTransport onChunkTransferred phone
    match execution.result with
    | .ok response => ⟨{response:=some response},execution.attempts,execution.phone⟩
    | .error error => ⟨failedUpload env error,execution.attempts,execution.phone⟩

end Upload

def PreparedTransferUploadResult.pipelineResult (result : PreparedTransferUploadResult) :
    ExportPipelines.PreparedTransferUploadResult :=
  if result.terminalFailureCode = some .diskFull then .failed true
  else match result.existingMatch,result.response with
  | some _,_ => .existingMatch
  | none,some response => .response response.status
  | none,none => .failed false

end ImageSearch.AdaptiveTransfers
