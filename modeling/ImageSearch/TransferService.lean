import ImageSearch.MobileStore

namespace ImageSearch.TransferService
open Payload BackupState BackupFolder MobileStore

def mobileTransferSchema : String := "dtis.mobile-transfer.v1"
def diskFullMessage : String :=
  "Desktop storage is full. Free up disk space on this PC and retry the mobile backup."
def failureCodeDiskFull : String := "disk_full"
def trustProofContext : String := "dtis.mobile-trust-proof.v1"
def startProofPurpose : String := "transfer.start"
def existenceProofPurpose : String := "transfer.existence"
def assetProofPurpose : String := "transfer.asset"
def completeProofPurpose : String := "transfer.complete"
def streamChunkSizeBytes : Nat := 100 * 1024 * 1024

structure MobileTransferSessionRequest where
  schema : String
  sessionId : String
  deviceUuid : String
  trustProof : String
  totalAssets : Option Int
  transferredCount : Option Int
  failedCount : Option Int

structure MobileTransferAssetMetadata where
  schema : String
  sessionId : String
  deviceUuid : String
  trustProof : String
  assetId : String
  assetVersion : Option String
  contentSha1 : Option String
  fileSizeBytes : Option Int
  filename : String
  mediaType : Option String
  createdAt : Option DateTime
  updatedAt : Option DateTime

structure MobileTransferAssetSignature where
  assetId : String
  contentSha1 : String
  fileSizeBytes : Int
  createdAt : DateTime

structure MobileTransferAssetExistenceRequest where
  session : MobileTransferSessionRequest
  assets : List MobileTransferAssetSignature

def parseTransferSessionRequest (payload : Fields) (requireTotalAssets requireCompletionCounts : Bool) :
    Except Raised MobileTransferSessionRequest := do
  let schema ← requireNonEmptyString payload "schema"
  let sessionId ← requireNonEmptyString payload "session_id"
  let deviceUuid ← requireNonEmptyString payload "device_uuid"
  let trustProof ← requireNonEmptyString payload "trust_proof"
  let totalAssets ← if requireTotalAssets then some <$> requireNonNegativeInt payload "total_assets" else pure none
  let transferredCount ←
    if requireCompletionCounts then some <$> requireNonNegativeInt payload "transferred_count" else pure none
  let failedCount ← if requireCompletionCounts then some <$> requireNonNegativeInt payload "failed_count" else pure none
  return ⟨schema,sessionId,deviceUuid,trustProof,totalAssets,transferredCount,failedCount⟩

def parseTransferAssetMetadata (lib : Libraries) (payload : Fields) : Except Raised MobileTransferAssetMetadata := do
  let schema ← requireNonEmptyString payload "schema"
  let sessionId ← requireNonEmptyString payload "session_id"
  let deviceUuid ← requireNonEmptyString payload "device_uuid"
  let trustProof ← requireNonEmptyString payload "trust_proof"
  let assetId ← requireNonEmptyString payload "asset_id"
  let assetVersion ← optionalNonEmptyString payload "asset_version"
  let contentSha1 ← optionalSha1Hex payload "sha1"
  let fileSizeBytes ← optionalNonNegativeInt payload "file_size"
  let filename ← requireNonEmptyString payload "filename"
  let mediaType ← optionalNonEmptyString payload "media_type"
  let createdAt ← parseOptionalTimestamp lib (← optionalNonEmptyString payload "created_at")
  let updatedAt ← parseOptionalTimestamp lib (← optionalNonEmptyString payload "updated_at")
  return ⟨schema,sessionId,deviceUuid,trustProof,assetId,assetVersion,contentSha1,fileSizeBytes,filename,mediaType,
    createdAt,updatedAt⟩

def parseAssetSignature (lib : Libraries) : Json → Except Raised MobileTransferAssetSignature
  | .object asset => do
    let assetId ← requireNonEmptyString asset "asset_id"
    let contentSha1 ← requireSha1Hex asset "sha1"
    let fileSizeBytes ← requireNonNegativeInt asset "file_size"
    let createdAt ← requireTimestamp lib asset "created_at"
    return ⟨assetId,contentSha1,fileSizeBytes,createdAt⟩
  | _ => .error (.valueError "The transfer request field 'assets' must contain only JSON object items.")

def parseTransferAssetExistenceRequest (lib : Libraries) (payload : Fields) :
    Except Raised MobileTransferAssetExistenceRequest := do
  let session ← parseTransferSessionRequest payload false false
  match get payload "assets" with
  | .array items => return ⟨session,← items.mapM (parseAssetSignature lib)⟩
  | _ => throw (.valueError "The transfer request field 'assets' must be a JSON array.")

inductive ReplyStatus where
  | rejected | accepted | checked | skipped | stored | completed
  deriving DecidableEq, Repr

def ReplyStatus.value : ReplyStatus → String
  | .rejected => "rejected"
  | .accepted => "accepted"
  | .checked => "checked"
  | .skipped => "skipped"
  | .stored => "stored"
  | .completed => "completed"

structure MatchedAsset where
  assetId : String
  localRelativePath : RelativePath
  deriving DecidableEq, Repr

-- The status code and the fields of the answer; an absent field is not sent.
structure Response where
  statusCode : Nat
  status : ReplyStatus
  message : String
  failureCode : Option String := none
  sessionId : Option String := none
  deviceUuid : Option String := none
  totalAssets : Option Int := none
  matchedAssets : Option (List MatchedAsset) := none
  localRelativePath : Option RelativePath := none
  deriving DecidableEq, Repr

def Response.payload (response : Response) : Fields :=
  [("schema",.string mobileTransferSchema),("status",.string response.status.value),
    ("message",.string response.message)] ++
  (response.failureCode.map fun code => ("failure_code",Json.string code)).toList ++
  (response.sessionId.map fun text => ("session_id",Json.string text)).toList ++
  (response.deviceUuid.map fun text => ("device_uuid",Json.string text)).toList ++
  (response.totalAssets.map fun count => ("total_assets",Json.int count)).toList ++
  (response.matchedAssets.map fun found => ("matches",Json.array (found.map fun asset => .object
    [("asset_id",.string asset.assetId),("local_relative_path",.string asset.localRelativePath.asPosix)]))).toList ++
  (response.localRelativePath.map fun path => ("local_relative_path",Json.string path.asPosix)).toList

def rejected (statusCode : Nat) (message : String) : Response := {statusCode,status:=.rejected,message}

def sessionRejected : Response := rejected 403 "Desktop rejected the transfer session."
def schemaRejected : Response := rejected 400 "The transfer request schema version is unsupported."
def diskFullRejected : Response := {rejected 507 diskFullMessage with failureCode:=some failureCodeDiskFull}

def deriveTrustProofB64 (lib : Libraries) (trustKeyB64 purpose schema sessionId deviceUuid : String) : String :=
  lib.hmacSha256B64 trustKeyB64
    (trustProofContext ++ "\n" ++ purpose ++ "\n" ++ schema ++ "\n" ++ sessionId ++ "\n" ++ deviceUuid)

-- hmac.compare_digest raises TypeError on a text that is not ASCII.
def isValidTrustProof (lib : Libraries) (trustKeyB64 purpose schema sessionId deviceUuid trustProofB64 : String) :
    Except Raised Bool :=
  if trustProofB64.toList.all fun c => c.toNat < 128 then
    .ok (deriveTrustProofB64 lib trustKeyB64 purpose schema sessionId deviceUuid = trustProofB64)
  else .error .typeError

-- The three checks every transfer request passes; `none` is the 403.
def authoriseTransfer (lib : Libraries) (store : Store) (purpose : String) (statuses : List SessionStatus)
    (schema sessionId deviceUuid trustProof : String) : Except Raised (Option MobileTransferContext) :=
  match getMobileTransferContext store sessionId deviceUuid with
  | none => .ok none
  | some context =>
    if context.sessionStatus ∉ statuses then .ok none else
    match isValidTrustProof lib context.trustKeyB64 purpose schema sessionId deviceUuid trustProof with
    | .error raised => .error raised
    | .ok valid => .ok (if valid then some context else none)

inductive BusEvent where
  | transferStarted (sessionId deviceUuid folderPath : String)
  | diskFull (sessionId deviceUuid folderPath : String)
  deriving DecidableEq, Repr

structure Desktop where
  store : Store
  files : Files
  published : List BusEvent

inductive FileOperation where
  | mkdir | openPart | writeChunk (index : Nat) | closePart | unlinkPart | statStaged | readStaged | replace
  | copyStaged | unlinkStaged | utime | cleanup
  deriving DecidableEq

-- What one call of handle_asset_upload is handed and meets: its arguments, the clock,
-- the part file's uuid, the operating system's failures (and how much of a copy was
-- written when it failed), and what the body's successive reads return.
structure UploadCall where
  metadataPayload : Fields
  bodyStream : Option (List (Except OSError Bytes))
  contentLength : Int
  tempFilePath : Option String
  contentSha1 : Option String
  currentTime : DateTime
  partToken : String
  faults : FileOperation → Option OSError
  copied : Nat

structure StoredMobileTransferAsset where
  localRelativePath : RelativePath
  contentSha1 : String
  fileSizeBytes : Nat
  deriving DecidableEq, Repr

def targetMonthDirectory (metadata : MobileTransferAssetMetadata) (clock : DateTime) : String :=
  strftimeYearMonth ((metadata.createdAt.or metadata.updatedAt).getD clock)

def incompleteBody : OSError := .plain "Desktop received an incomplete asset body."

-- The loop that copies the body to the part file: the error that ended it, if one
-- did, and what it wrote. A read never returns more than it was asked for.
def receiveBody (faults : FileOperation → Option OSError) :
    List (Except OSError Bytes) → Nat → Nat → Bytes → Option OSError × Bytes
  | _,_,0,written => (none,written)
  | [],_,_+1,written => (some incompleteBody,written)
  | .error error :: _,_,_+1,written => (some error,written)
  | .ok bytes :: rest,index,remaining+1,written =>
    let chunk := bytes.take (min streamChunkSizeBytes (remaining+1))
    if chunk = [] then (some incompleteBody,written) else
    match faults (.writeChunk index) with
    | some error => (some error,written)
    | none => receiveBody faults rest (index+1) (remaining+1-chunk.length) (written ++ chunk)

-- os.utime runs only when the metadata carries a timestamp.
def utimeFault (call : UploadCall) (metadata : MobileTransferAssetMetadata) : Option OSError :=
  if (metadata.updatedAt.or metadata.createdAt).isSome then call.faults .utime else none

-- `finally: if temp_path.exists(): temp_path.unlink()` after a failure.
def discardPart (call : UploadCall) (files : Files) (part : Location) (error : OSError) : OSError × Files :=
  match call.faults .unlinkPart with
  | some second => ({second with chained:=(error.errno,error.winerror) :: error.chained ++ second.chained},files)
  | none => (error,unlink files part)

def targetPath (call : UploadCall) (metadata : MobileTransferAssetMetadata) (folderPath : String) (files : Files) :
    RelativePath :=
  resolveConflictSafePath files folderPath (targetMonthDirectory metadata call.currentTime)
    (sanitizeFilename metadata.filename)

def writeAssetToFolder (lib : Libraries) (call : UploadCall) (metadata : MobileTransferAssetMetadata)
    (folderPath : String) (reads : List (Except OSError Bytes)) (files : Files) :
    Except OSError StoredMobileTransferAsset × Files :=
  match call.faults .mkdir,call.faults .openPart with
  | some error,_ | none,some error => (.error error,files)
  | none,none =>
    let finalPath := targetPath call metadata folderPath files
    let part := Location.asset folderPath ⟨finalPath.monthDirectory,partName finalPath.name call.partToken⟩
    let received := receiveBody call.faults reads 0 call.contentLength.toNat []
    let opened := writeFile files part received.2
    match received.1.or ((call.faults .closePart).or (call.faults .replace)) with
    | some error =>
      let discarded := discardPart call opened part error
      (.error discarded.1,discarded.2)
    | none =>
      let claimed := replace opened part (.asset folderPath finalPath)
      match utimeFault call metadata with
      | some error => (.error error,claimed)
      | none => (.ok ⟨finalPath,lib.sha1 received.2,received.2.length⟩,claimed)

def isCrossDevice (error : OSError) : Bool := error.errno == some errnoCrossDevice

-- replace, or shutil.move where the two are on different devices: a copy, then an
-- unlink. The error that ends it, if one does.
def moveStaged (call : UploadCall) (files : Files) (staged final : Location) (content : Bytes) :
    Option OSError × Files :=
  match call.faults .replace with
  | none => (none,replace files staged final)
  | some error =>
    if isCrossDevice error then
      match call.faults .copyStaged,call.faults .unlinkStaged with
      | some error,_ => (some error,writeFile files final (content.take call.copied))
      | none,some error => (some error,writeFile files final content)
      | none,none => (none,unlink (writeFile files final content) staged)
    else (some error,files)

def providedSha1 (call : UploadCall) : String := lower (strip (call.contentSha1.getD ""))

def checkStaged (lib : Libraries) (call : UploadCall) (metadata : MobileTransferAssetMetadata) (content : Bytes) :
    Except OSError String :=
  match call.faults .statStaged with
  | some error => .error error
  | none =>
    if (content.length : Int) ≠ call.contentLength then
      .error (.plain "Desktop received a staged asset file with a mismatched byte length.")
    else
    match if providedSha1 call = "" then call.faults .readStaged else none with
    | some error => .error error
    | none =>
      let contentSha1 := if providedSha1 call = "" then lib.sha1 content else providedSha1 call
      if metadata.contentSha1.any fun expected => contentSha1 ≠ lower expected then
        .error (.plain "Desktop received a staged asset file with a mismatched SHA-1 digest.")
      else .ok contentSha1

def moveStagedAssetToFolder (lib : Libraries) (call : UploadCall) (metadata : MobileTransferAssetMetadata)
    (folderPath stagedFilePath : String) (files : Files) : Except OSError StoredMobileTransferAsset × Files :=
  match call.faults .mkdir with
  | some error => (.error error,files)
  | none =>
    let finalPath := targetPath call metadata folderPath files
    match readFile files (.staged stagedFilePath) with
    | none => (.error (.plain "Desktop transfer staged file is missing."),files)
    | some content =>
      match checkStaged lib call metadata content with
      | .error error => (.error error,files)
      | .ok contentSha1 =>
        let moved := moveStaged call files (.staged stagedFilePath) (.asset folderPath finalPath) content
        match moved.1.or (utimeFault call metadata) with
        | some error => (.error error,moved.2)
        | none => (.ok ⟨finalPath,contentSha1,content.length⟩,moved.2)

def cleanupTempUploadFile (call : UploadCall) (files : Files) : Files :=
  match call.tempFilePath,call.faults .cleanup with
  | some staged,none => unlink files (.staged staged)
  | _,_ => files

def Desktop.cleaned (d : Desktop) (call : UploadCall) : Desktop := {d with files:=cleanupTempUploadFile call d.files}

-- _mark_transfer_failed. The event is published only when the folder's state changes.
def markTransferFailed (d : Desktop) (context : MobileTransferContext) (currentTime : DateTime)
    (publishDiskFullEvent : Bool) : Except Raised Desktop :=
  match resolveNextBackupState context.folderTransferState .transferFailed .transferInProgress with
  | none => .error (.runtimeError "Unsupported mobile backup transition")
  | some next =>
    let folderTransferState := folderTransferStateFromBackupState next
    let wasAlreadyFailed := context.folderTransferState == some folderTransferState
    .ok {d with
      store:=updateMobileTransferState d.store context.sessionId context.deviceUuid .failed folderTransferState
        currentTime (some currentTime) none none none
      published:=if !wasAlreadyFailed && publishDiskFullEvent then
        d.published ++ [.diskFull context.sessionId context.deviceUuid context.folderPath] else d.published}

def failTransfer (context : MobileTransferContext) (currentTime : DateTime) (publishDiskFullEvent : Bool)
    (response : Response) (d : Desktop) : Except Raised Response × Desktop :=
  match markTransferFailed d context currentTime publishDiskFullEvent with
  | .error raised => (.error raised,d)
  | .ok marked => (.ok response,marked)

def refuseUpload (call : UploadCall) (metadata : MobileTransferAssetMetadata) : Option Response :=
  if metadata.schema ≠ mobileTransferSchema then some schemaRejected
  else if call.contentLength < 0 then some (rejected 400 "Desktop received an invalid transfer content length.")
  else if metadata.fileSizeBytes.any fun declared => declared ≠ call.contentLength then
    some (rejected 400
      "Desktop received an asset body whose content length did not match the declared file size.")
  else none

-- The signature is looked up only when the metadata declares all of it.
def existingSignatureAsset (d : Desktop) (metadata : MobileTransferAssetMetadata) : Except Raised (Option AssetRow) :=
  match metadata.contentSha1,metadata.fileSizeBytes,metadata.createdAt with
  | some contentSha1,some fileSizeBytes,some createdAt =>
    if bindsAsInteger fileSizeBytes then
      .ok (getMobileAssetRecordBySignature d.store d.files metadata.deviceUuid
        (mobileAssetSignatureKey contentSha1 fileSizeBytes createdAt))
    else .error .overflowError
  | _,_,_ => .ok none

def existingAssetVersion (d : Desktop) (metadata : MobileTransferAssetMetadata) (folderPath : String) :
    Option AssetRow :=
  (getMobileAssetRecord d.store metadata.deviceUuid metadata.assetId).filter fun row =>
    row.remoteAssetVersion = metadata.assetVersion && fileExists d.files (.asset folderPath row.localRelativePath)

def countTransferred (store : Store) (metadata : MobileTransferAssetMetadata) : Store :=
  incrementMobileBackupSessionTransferredCount store metadata.sessionId metadata.deviceUuid 1

def skippedResponse (message : String) (row : AssetRow) : Response :=
  {statusCode:=200,status:=.skipped,message,localRelativePath:=some row.localRelativePath}

def skipUpload (call : UploadCall) (metadata : MobileTransferAssetMetadata) (message : String) (row : AssetRow)
    (d : Desktop) : Except Raised Response × Desktop :=
  (.ok (skippedResponse message row),
    {d with files:=cleanupTempUploadFile call d.files,store:=countTransferred d.store metadata})

def storeAssetFile (lib : Libraries) (call : UploadCall) (metadata : MobileTransferAssetMetadata)
    (folderPath : String) (files : Files) : Except OSError StoredMobileTransferAsset × Files :=
  match call.tempFilePath,call.bodyStream with
  | some staged,_ => moveStagedAssetToFolder lib call metadata folderPath staged files
  | none,some reads => writeAssetToFolder lib call metadata folderPath reads files
  | none,none => (.error (.plain "Desktop did not receive transfer asset stream content."),files)

def storedResponse (stored : StoredMobileTransferAsset) : Response :=
  {statusCode:=200,status:=.stored,message:="Desktop stored the asset successfully."
   localRelativePath:=some stored.localRelativePath}

def storeFailedResponse (error : OSError) : Response :=
  if isDiskFullOsError error then diskFullRejected
  else rejected 500 ("Desktop failed while writing the incoming asset: " ++ error.message)

def storedRow (metadata : MobileTransferAssetMetadata) (currentTime : DateTime)
    (stored : StoredMobileTransferAsset) : AssetRow where
  deviceUuid := metadata.deviceUuid
  remoteAssetId := metadata.assetId
  remoteAssetVersion := metadata.assetVersion
  contentSha1 := some (lower stored.contentSha1)
  fileSizeBytes := some stored.fileSizeBytes
  assetCreatedAt := metadata.createdAt
  localRelativePath := stored.localRelativePath
  lastTransferredAt := currentTime

def storeUpload (lib : Libraries) (call : UploadCall) (metadata : MobileTransferAssetMetadata)
    (context : MobileTransferContext) (d : Desktop) : Except Raised Response × Desktop :=
  match storeAssetFile lib call metadata context.folderPath d.files with
  | (.error error,files) =>
    failTransfer context call.currentTime (isDiskFullOsError error) (storeFailedResponse error)
      {d with files:=cleanupTempUploadFile call files}
  | (.ok stored,files) =>
    (.ok (storedResponse stored),{d with
      files
      store:=countTransferred (upsertMobileAssetRecord d.store (storedRow metadata call.currentTime stored)) metadata})

def uploadAuthorised (lib : Libraries) (call : UploadCall) (metadata : MobileTransferAssetMetadata)
    (context : MobileTransferContext) (d : Desktop) : Except Raised Response × Desktop :=
  match existingSignatureAsset d metadata with
  | .error raised => (.error raised,d)
  | .ok (some row) => skipUpload call metadata "Desktop already has the transferred asset content." row d
  | .ok none =>
    match existingAssetVersion d metadata context.folderPath with
    | some row => skipUpload call metadata "Desktop already has the current asset version." row d
    | none => storeUpload lib call metadata context d

-- What the checks before the lookups decide. Two of the refusals leave a staged file behind.
inductive UploadCheck where
  | refused (cleans : Bool) (result : Except Raised Response)
  | passed (metadata : MobileTransferAssetMetadata) (context : MobileTransferContext)

def checkUpload (lib : Libraries) (call : UploadCall) (store : Store) : UploadCheck :=
  if call.bodyStream.isNone && call.tempFilePath.isNone then
    .refused false (.ok (rejected 400 "Desktop did not receive transfer asset content."))
  else
  match parseTransferAssetMetadata lib call.metadataPayload with
  | .error (.valueError message) => .refused true (.ok (rejected 400 message))
  | .error raised => .refused false (.error raised)
  | .ok metadata =>
    match refuseUpload call metadata with
    | some refusal => .refused true (.ok refusal)
    | none =>
      match authoriseTransfer lib store assetProofPurpose [.transferring] metadata.schema metadata.sessionId
          metadata.deviceUuid metadata.trustProof with
      | .error raised => .refused false (.error raised)
      | .ok none => .refused true (.ok sessionRejected)
      | .ok (some context) => .passed metadata context

def handleAssetUpload (lib : Libraries) (call : UploadCall) (d : Desktop) : Except Raised Response × Desktop :=
  match checkUpload lib call d.store with
  | .refused cleans result => (result,if cleans then d.cleaned call else d)
  | .passed metadata context => uploadAuthorised lib call metadata context d

-- The parse, the schema and the authorisation of a session request; the error is the
-- answer that is given instead.
def checkSession {Request : Type} (session : Request → MobileTransferSessionRequest) (lib : Libraries) (store : Store)
    (parsed : Except Raised Request) (purpose : String) (statuses : List SessionStatus) :
    Except (Except Raised Response) (Request × MobileTransferContext) :=
  match parsed with
  | .error (.valueError message) => .error (.ok (rejected 400 message))
  | .error raised => .error (.error raised)
  | .ok request =>
    if (session request).schema ≠ mobileTransferSchema then .error (.ok schemaRejected) else
    match authoriseTransfer lib store purpose statuses (session request).schema (session request).sessionId
        (session request).deviceUuid (session request).trustProof with
    | .error raised => .error (.error raised)
    | .ok none => .error (.ok sessionRejected)
    | .ok (some context) => .ok (request,context)

def assetCountText (count : Option Int) : String := toString (count.getD 0)

def checkStart (lib : Libraries) (store : Store) (payload : Fields) :=
  checkSession id lib store (parseTransferSessionRequest payload true false) startProofPurpose [.paired,.transferring]

def acceptStart (request : MobileTransferSessionRequest) (context : MobileTransferContext) (currentTime : DateTime)
    (d : Desktop) : Except Raised Response × Desktop :=
  match resolveNextBackupState context.folderTransferState .transferStarted .pairingCompleted with
  | none => (.error (.runtimeError "Unsupported mobile backup transition"),d)
  | some next =>
    if !bindsAsInteger (request.totalAssets.getD 0) then (.error .overflowError,d) else
    (.ok {
      statusCode:=200,status:=.accepted
      message:="Desktop is ready to receive " ++ assetCountText request.totalAssets ++ " assets."
      sessionId:=some request.sessionId,deviceUuid:=some request.deviceUuid
      totalAssets:=some (request.totalAssets.getD 0)},{d with
      store:=updateMobileTransferState d.store request.sessionId request.deviceUuid .transferring
        (folderTransferStateFromBackupState next) currentTime none request.totalAssets (some 0) (some 0)
      published:=d.published ++ [.transferStarted request.sessionId request.deviceUuid context.folderPath]})

def handleStartRequest (lib : Libraries) (payload : Fields) (currentTime : DateTime) (d : Desktop) :
    Except Raised Response × Desktop :=
  match checkStart lib d.store payload with
  | .error result => (result,d)
  | .ok (request,context) => acceptStart request context currentTime d

def signatureKeys (assets : List MobileTransferAssetSignature) : List SignatureKey :=
  assets.map fun asset => mobileAssetSignatureKey asset.contentSha1 asset.fileSizeBytes asset.createdAt

def matchedAssets (found : List (SignatureKey × AssetRow)) (assets : List MobileTransferAssetSignature) :
    List MatchedAsset :=
  assets.filterMap fun asset =>
    (found.lookup (mobileAssetSignatureKey asset.contentSha1 asset.fileSizeBytes asset.createdAt)).map fun row =>
      ⟨asset.assetId,row.localRelativePath⟩

def checkExistence (lib : Libraries) (store : Store) (payload : Fields) :=
  checkSession MobileTransferAssetExistenceRequest.session lib store (parseTransferAssetExistenceRequest lib payload)
    existenceProofPurpose [.transferring]

def answerExistence (request : MobileTransferAssetExistenceRequest) (d : Desktop) : Except Raised Response :=
  if request.assets.any fun asset => !bindsAsInteger asset.fileSizeBytes then .error .overflowError else
  let answered := matchedAssets (getMobileAssetRecordsBySignatures d.store d.files request.session.deviceUuid
    (signatureKeys request.assets)) request.assets
  .ok {
    statusCode:=200,status:=.checked
    message:="Desktop matched " ++ toString answered.length ++ " of " ++ toString request.assets.length ++
      " candidate transfer assets."
    sessionId:=some request.session.sessionId,deviceUuid:=some request.session.deviceUuid
    matchedAssets:=some answered}

def handleAssetExistenceRequest (lib : Libraries) (payload : Fields) (d : Desktop) : Except Raised Response :=
  match checkExistence lib d.store payload with
  | .error result => result
  | .ok (request,_) => answerExistence request d

structure Completion where
  sessionStatus : SessionStatus
  transitionEvent : MobileBackupEvent
  message : String

def completionOf (request : MobileTransferSessionRequest) (interruptionReason : Option String) : Completion :=
  let counted := assetCountText request.transferredCount ++ " assets with " ++ assetCountText request.failedCount ++
    " failures."
  if interruptionReason = some "stopped_by_user" then
    ⟨.stoppedByMobile,.transferStopped,"Desktop marked the transfer session as stopped after receiving " ++ counted⟩
  else if request.failedCount.getD 0 = 0 then
    ⟨.completed,.transferCompleted,"Desktop finished the transfer session after receiving " ++ counted⟩
  else ⟨.failed,.transferFailed,"Desktop finished the transfer session after receiving " ++ counted⟩

def checkComplete (lib : Libraries) (store : Store) (payload : Fields) :=
  checkSession id lib store (parseTransferSessionRequest payload false true) completeProofPurpose [.transferring]

def finishTransfer (payload : Fields) (request : MobileTransferSessionRequest) (context : MobileTransferContext)
    (currentTime : DateTime) (d : Desktop) : Except Raised Response × Desktop :=
  match optionalNonEmptyString payload "interruption_reason" with
  | .error raised => (.error raised,d)
  | .ok interruptionReason =>
    let completion := completionOf request interruptionReason
    match resolveNextBackupState context.folderTransferState completion.transitionEvent .transferInProgress with
    | none => (.error (.runtimeError "Unsupported mobile backup transition"),d)
    | some next =>
      if !bindsAsInteger (request.transferredCount.getD 0) || !bindsAsInteger (request.failedCount.getD 0) then
        (.error .overflowError,d)
      else (.ok {
        statusCode:=200,status:=.completed,message:=completion.message
        sessionId:=some request.sessionId,deviceUuid:=some request.deviceUuid},{d with
        store:=updateMobileTransferState d.store request.sessionId request.deviceUuid completion.sessionStatus
          (folderTransferStateFromBackupState next) currentTime (some currentTime) none
          (some (request.transferredCount.getD 0)) (some (request.failedCount.getD 0))})

def handleCompleteRequest (lib : Libraries) (payload : Fields) (currentTime : DateTime) (d : Desktop) :
    Except Raised Response × Desktop :=
  match checkComplete lib d.store payload with
  | .error result => (result,d)
  | .ok (request,context) => finishTransfer payload request context currentTime d

def streamErrorResponse (error : OSError) : Response :=
  if isDiskFullOsError error then diskFullRejected
  else rejected 500 ("Desktop failed while receiving transfer asset stream content: " ++ error.message)

-- `none` is a metadata payload that is missing or not an object.
def checkStreamError (lib : Libraries) (store : Store) (metadataPayload : Option Fields) (error : OSError) :
    Except (Except Raised Response) MobileTransferContext :=
  if !isDiskFullOsError error then .error (.ok (streamErrorResponse error)) else
  match metadataPayload.map (parseTransferAssetMetadata lib) with
  | none | some (.error (.valueError _)) => .error (.ok (streamErrorResponse error))
  | some (.error raised) => .error (.error raised)
  | some (.ok metadata) =>
    if metadata.schema ≠ mobileTransferSchema then .error (.ok (streamErrorResponse error)) else
    match authoriseTransfer lib store assetProofPurpose [.transferring] metadata.schema metadata.sessionId
        metadata.deviceUuid metadata.trustProof with
    | .error raised => .error (.error raised)
    | .ok none => .error (.ok (streamErrorResponse error))
    | .ok (some context) => .ok context

def handleAssetUploadStreamError (lib : Libraries) (metadataPayload : Option Fields) (error : OSError)
    (currentTime : DateTime) (d : Desktop) : Except Raised Response × Desktop :=
  match checkStreamError lib d.store metadataPayload error with
  | .error result => (result,d)
  | .ok context => failTransfer context currentTime true (streamErrorResponse error) d

end ImageSearch.TransferService
