import ImageSearch.StagedUploads
import ImageSearch.TransferService
import ImageSearch.PairingService

namespace ImageSearch.LanUploads
open Payload BackupState BackupFolder MobileStore TransferService StagedUploads AssetUploadStream

def mobileEncryptionSchema : String := "dtis.mobile-encryption.v1"
def encryptedBinaryChunkVersion : UInt8 := 1
def encryptedBinaryNonceBytes : Nat := 12
def encryptedBinaryTagBytes : Nat := 16
def encryptedBinaryChunkOverheadBytes : Nat := 1 + encryptedBinaryNonceBytes + encryptedBinaryTagBytes

-- base64.urlsafe_b64decode of the padded text, AES-GCM under the key derived from a
-- trust key, and json.loads.
structure Cipher where
  urlsafeB64decode : String → Option Bytes
  decrypt : String → Bytes → Bytes → Option Bytes
  loads : Bytes → Option Json

def isMobileEncryptedPayload (payload : Fields) : Bool :=
  match Payload.get payload "schema" with
  | .string schema => schema == mobileEncryptionSchema
  | _ => false

-- An empty key is the one derive_mobile_encryption_key refuses.
def deriveMobileEncryptionKey (trustKeyB64 : String) : Except String String :=
  if strip trustKeyB64 = "" then .error "Desktop rejected an empty mobile transfer trust key."
  else .ok (strip trustKeyB64)

def decodeRequiredBase64urlField (cipher : Cipher) (payload : Fields) (fieldName : String) : Except String Bytes :=
  match Payload.get payload fieldName with
  | .string value =>
    if strip value = "" then .error s!"Desktop rejected encrypted payload field '{fieldName}'."
    else match cipher.urlsafeB64decode (strip value) with
      | some bytes => .ok bytes
      | none => .error "Desktop rejected encrypted payload because base64url value is invalid."
  | _ => .error s!"Desktop rejected encrypted payload field '{fieldName}'."

def decryptMobileJsonPayload (cipher : Cipher) (payload : Fields) (trustKeyB64 : String) : Except String Fields := do
  let nonce ← decodeRequiredBase64urlField cipher payload "nonce"
  if nonce.length ≠ encryptedBinaryNonceBytes then throw "Desktop rejected encrypted payload nonce length."
  let ciphertext ← decodeRequiredBase64urlField cipher payload "ciphertext"
  let key ← deriveMobileEncryptionKey trustKeyB64
  let some plaintext := cipher.decrypt key nonce ciphertext
    | throw "Desktop could not decrypt the encrypted payload."
  match cipher.loads plaintext with
  | none => throw "Desktop decrypted an invalid encrypted payload JSON body."
  | some (.object fields) => return fields
  | some _ => throw "Desktop decrypted an encrypted payload that is not a JSON object."

def decryptMobileBinaryChunk (cipher : Cipher) (chunk : Bytes) (trustKeyB64 : String) : Except String Bytes := do
  if chunk.length < encryptedBinaryChunkOverheadBytes then throw "Desktop rejected encrypted transfer chunk framing."
  if chunk.head? ≠ some encryptedBinaryChunkVersion then throw "Desktop rejected encrypted transfer chunk version."
  let key ← deriveMobileEncryptionKey trustKeyB64
  match cipher.decrypt key ((chunk.drop 1).take encryptedBinaryNonceBytes) (chunk.drop (1 + encryptedBinaryNonceBytes)) with
  | some plaintext => return plaintext
  | none => throw "Desktop could not decrypt transfer chunk."

-- The answer as the phone reads it: the payload before encryption, and the trust key
-- and session locator it was encrypted with, if it was.
structure HttpResponse where
  statusCode : Nat
  payload : Fields
  encryptedFor : Option (String × String)

structure LanAdapter where
  staging : Staging
  desktop : Desktop

def rejectedPayload (message : String) : Fields :=
  [("schema",.string mobileTransferSchema),("status",.string "rejected"),("message",.string message)]

def acceptedPayload (message requestId : String) : Fields :=
  [("schema",.string mobileTransferSchema),("status",.string "accepted"),("message",.string message),
    ("request_id",.string requestId)]

-- _write_json_response. The encryption itself fails only for an empty key.
def writeJsonResponse (statusCode : Nat) (payload : Fields) (encryptionTrustKeyB64 locator : Option String) : HttpResponse :=
  match encryptionTrustKeyB64,locator with
  | none,_ => ⟨statusCode,payload,none⟩
  | some _,none => ⟨500,rejectedPayload "Desktop could not build encrypted response locators.",none⟩
  | some key,some sessionId => match deriveMobileEncryptionKey key with
    | .error message => ⟨500,rejectedPayload message,none⟩
    | .ok _ => ⟨statusCode,payload,some (key,sessionId)⟩

def transferResponseLocatorFields : Option Fields → Option String
  | none => none
  | some metadataPayload => match Payload.get metadataPayload "session_id" with
    | .string sessionId => if strip sessionId = "" then none else some (strip sessionId)
    | _ => none

-- What one POST of an asset stream carries, its path and query read. The content length
-- is `none` where the header is no integer.
inductive StreamMessage where
  | start (requestPayload : Fields)
  | chunk (contentLength : Option Int) (read : Except OSError Bytes)
  | complete

-- The request id, the name NamedTemporaryFile comes up with, the answers of the
-- operating system, and what the service's own upload call is handed.
structure Post where
  requestId : String
  message : StreamMessage
  name : String
  fileFaults : FileFaults
  now : DateTime
  partToken : String
  serviceFaults : FileOperation → Option OSError
  copied : Nat

def getMobileTransferContextBySessionId (store : Store) (sessionId : String) : Option MobileTransferContext :=
  (store.sessions.find? sessionId).bind fun row => getMobileTransferContext store sessionId row.deviceUuid

def resolveTransferTrustKey (store : Store) (sessionId : String) : Option String :=
  (getMobileTransferContextBySessionId store sessionId).map MobileTransferContext.trustKeyB64

def decryptTransferAssetStreamMetadata (cipher : Cipher) (store : Store) (metadataPayload : Fields) :
    Except String (Fields × Option String) :=
  match transferResponseLocatorFields (some metadataPayload) with
  | none => .error "Desktop rejected encrypted transfer asset metadata field 'session_id'."
  | some sessionId => match resolveTransferTrustKey store sessionId with
    | none => .error "Desktop rejected the transfer session."
    | some key => (decryptMobileJsonPayload cipher metadataPayload key).map fun decrypted => (decrypted,some key)

-- The metadata of a start message and the key its chunks are encrypted with.
def startMetadata (cipher : Cipher) (store : Store) (requestPayload : Fields) : Except String (Fields × Option String) :=
  let metadataPayload := requestPayload.filter fun field =>
    field.1 ≠ transferAssetStreamStateField && field.1 ≠ "chunk_size"
  if isMobileEncryptedPayload metadataPayload then decryptTransferAssetStreamMetadata cipher store metadataPayload
  else .ok (metadataPayload,none)

-- _write_transfer_asset_stream_error_response. An error of its own discard leaves it.
def writeTransferAssetStreamErrorResponse (lib : Libraries) (adapter : LanAdapter) (post : Post)
    (requestId : Option String) (metadataPayload : Option Fields) (error : OSError) (key : Option String) :
    Except Raised HttpResponse × LanAdapter :=
  let respond (metadataPayload : Option Fields) (key : Option String) (staging : Staging) :=
    match handleAssetUploadStreamError lib metadataPayload error post.now adapter.desktop with
    | (.error raised,desktop) => (.error raised,⟨staging,desktop⟩)
    | (.ok response,desktop) => (.ok (writeJsonResponse response.statusCode response.payload key
        (transferResponseLocatorFields metadataPayload)),⟨staging,desktop⟩)
  match requestId with
  | none => respond metadataPayload key adapter.staging
  | some requestId =>
    match adapter.staging.discard requestId post.fileFaults with
    | (.error second,staging) => (.error (.osError second),{adapter with staging})
    | (.ok discarded,staging) =>
      respond (metadataPayload.or discarded) (key.or (adapter.staging.encryptionTrustKey (some requestId))) staging

def handleStreamStart (lib : Libraries) (cipher : Cipher) (adapter : LanAdapter) (post : Post) (requestPayload : Fields) :
    Except Raised HttpResponse × LanAdapter :=
  match startMetadata cipher adapter.desktop.store requestPayload with
  | .error message => (.ok (writeJsonResponse 400 (rejectedPayload message) none none),adapter)
  | .ok (metadataPayload,key) =>
    match adapter.staging.start post.requestId metadataPayload key false post.name post.fileFaults with
    | (some error,staging) =>
      writeTransferAssetStreamErrorResponse lib {adapter with staging} post none (some metadataPayload) error key
    | (none,staging) => (.ok (writeJsonResponse 200
        (acceptedPayload "Desktop accepted transfer asset stream metadata." post.requestId) key
        (transferResponseLocatorFields (some metadataPayload))),{adapter with staging})

def refuseChunkLength : Option Int → Option String
  | none => some "Desktop received an invalid transfer asset stream chunk length."
  | some length =>
    if length ≤ 0 then some "Desktop received an invalid transfer asset stream chunk length."
    else if length > transferAssetStreamChunkSizeBytes + encryptedBinaryChunkOverheadBytes then
      some s!"Desktop rejected transfer asset stream chunk because it exceeded {transferAssetStreamChunkSizeBytes} bytes."
    else none

def decryptChunk (cipher : Cipher) (key : Option String) (chunk : Bytes) : Except String Bytes :=
  match key with
  | none => .ok chunk
  | some key => decryptMobileBinaryChunk cipher chunk key

def handleStreamChunk (lib : Libraries) (cipher : Cipher) (adapter : LanAdapter) (post : Post)
    (contentLength : Option Int) (read : Except OSError Bytes) : Except Raised HttpResponse × LanAdapter :=
  match refuseChunkLength contentLength with
  | some message => (.ok (writeJsonResponse 400 (rejectedPayload message) none none),adapter)
  | none => match read with
    | .error error => writeTransferAssetStreamErrorResponse lib adapter post (some post.requestId) none error none
    | .ok received =>
      if contentLength ≠ some (received.length : Int) then
        (.ok (writeJsonResponse 400
          (rejectedPayload "Desktop received an incomplete transfer asset stream chunk.") none none),adapter)
      else
      let key := adapter.staging.encryptionTrustKey (some post.requestId)
      let locator := transferResponseLocatorFields (adapter.staging.metadataPayload (some post.requestId))
      match decryptChunk cipher key received with
      | .error message => (.ok (writeJsonResponse 400 (rejectedPayload message) key locator),adapter)
      | .ok chunk =>
        match adapter.staging.appendChunk chunk (some post.requestId) post.fileFaults with
        | (.error error,staging) =>
          writeTransferAssetStreamErrorResponse lib {adapter with staging} post (some post.requestId) none error key
        | (.ok (some message),staging) =>
          (.ok (writeJsonResponse 400 (rejectedPayload message) key locator),{adapter with staging})
        | (.ok none,staging) => (.ok (writeJsonResponse 200
            (acceptedPayload "Desktop accepted transfer asset stream chunk." post.requestId) key locator),{adapter with staging})

-- _dispatch_transfer_asset_operation. The staged file is the service's from here on.
def dispatchTransferAsset (lib : Libraries) (adapter : LanAdapter) (post : Post) (payload : TransferAssetUploadPayload) :
    Except Raised HttpResponse × LanAdapter :=
  let content := (adapter.staging.files payload.tempFilePath).getD []
  let given := {adapter.staging with files:=Function.update adapter.staging.files payload.tempFilePath none}
  let call : UploadCall :=
    {metadataPayload:=payload.metadataPayload,bodyStream:=none,contentLength:=payload.contentLength
     tempFilePath:=some payload.tempFilePath,contentSha1:=some payload.contentSha1,currentTime:=post.now
     partToken:=post.partToken,faults:=post.serviceFaults,copied:=post.copied}
  match handleAssetUpload lib call
      {adapter.desktop with files:=writeFile adapter.desktop.files (.staged payload.tempFilePath) content} with
  | (.error raised,desktop) => (.error raised,⟨given,desktop⟩)
  | (.ok response,desktop) =>
    match payload.encryptionTrustKeyB64,transferResponseLocatorFields (some payload.metadataPayload) with
    | none,_ => (.ok ⟨response.statusCode,response.payload,none⟩,⟨given,desktop⟩)
    | some _,none => (.error (.valueError
        "Desktop rejected encrypted response payload because locator fields are missing."),⟨given,desktop⟩)
    | some key,some sessionId => match deriveMobileEncryptionKey key with
      | .error message => (.error (.valueError message),⟨given,desktop⟩)
      | .ok _ => (.ok ⟨response.statusCode,response.payload,some (key,sessionId)⟩,⟨given,desktop⟩)

def handleStreamComplete (lib : Libraries) (adapter : LanAdapter) (post : Post) : Except Raised HttpResponse × LanAdapter :=
  match adapter.staging.complete lib post.requestId post.fileFaults with
  | (.error error,staging) =>
    writeTransferAssetStreamErrorResponse lib {adapter with staging} post (some post.requestId) none error none
  | (.ok (.error message),staging) => (.ok (writeJsonResponse 400 (rejectedPayload message) none none),{adapter with staging})
  | (.ok (.ok payload),staging) => dispatchTransferAsset lib {adapter with staging} post payload

def unhandledResponse : HttpResponse :=
  writeJsonResponse 500 [("schema",.string PairingService.pairingProtocolSchema),
    ("backup_state",.string MobileBackupState.pendingPairing.value),
    ("message",.string ("Desktop failed while processing the pairing request. " ++
      "Retry pairing and check desktop logs if the issue persists."))] none none

-- The asset stream branch of do_POST, whose last resort is the handler's own except.
def doPost (lib : Libraries) (cipher : Cipher) (adapter : LanAdapter) (post : Post) : HttpResponse × LanAdapter :=
  let handled := match post.message with
    | .start requestPayload => handleStreamStart lib cipher adapter post requestPayload
    | .chunk contentLength read => handleStreamChunk lib cipher adapter post contentLength read
    | .complete => handleStreamComplete lib adapter post
  match handled with
  | (.ok response,answered) => (response,answered)
  | (.error _,answered) => (unhandledResponse,answered)

end ImageSearch.LanUploads
