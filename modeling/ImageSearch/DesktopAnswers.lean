import ImageSearch.LanUploads
import ImageSearch.TransferClients
import ImageSearch.ThrowingHandlers
import ImageSearch.UpdatePrompts

namespace ImageSearch.DesktopAnswers
open Payload BackupFolder MobileStore TransferService StagedUploads LanUploads
open CapabilityExchange UpdatePrompts ThrowingHandlers

inductive UsbTransport where
  | usbWebSocket | aoaUsb
  deriving DecidableEq, Repr

inductive Transport where
  | lanHttp
  | usb (transport : UsbTransport)
  deriving DecidableEq, Repr

inductive Operation where
  | transferStart | transferExistence | transferComplete | capabilityExchange | updatePrompt
  deriving DecidableEq, Repr

def Operation.responseSchema : Operation → String
  | .transferStart | .transferExistence | .transferComplete => mobileTransferSchema
  | .capabilityExchange => mobileCapabilityExchangeSchema
  | .updatePrompt => mobileUpdatePromptSchema

def Operation.rejectedMessage : Operation → String
  | .transferStart | .transferExistence | .transferComplete => "Desktop rejected the transfer session."
  | .capabilityExchange => "Desktop rejected the capability exchange request."
  | .updatePrompt => "Desktop rejected the update prompt request."

structure Answer where
  statusCode : Nat
  payload : Fields

structure Services where
  desktopCapabilities : List String
  urlparse : String → Except String (String × String)

def Operation.handle (lib : Libraries) (services : Services) (operation : Operation) (payload : Fields) (now : DateTime)
    (d : Desktop) : Except Raised Answer × Desktop :=
  let answered (response : Response) : Answer := ⟨response.statusCode,response.payload⟩
  match operation with
  | .transferStart =>
    let handled := handleStartRequest lib payload now d
    (handled.1.map answered,handled.2)
  | .transferExistence => ((handleAssetExistenceRequest lib payload d).map answered,d)
  | .transferComplete =>
    let handled := handleCompleteRequest lib payload now d
    (handled.1.map answered,handled.2)
  | .capabilityExchange => ((handleExchangeRequest lib services.desktopCapabilities payload d.store).map fun response =>
      ⟨response.statusCode,response.payload⟩,d)
  | .updatePrompt => ((handlePromptRequest lib services.urlparse payload d.store).map fun response =>
      ⟨response.1.statusCode,response.1.payload⟩,d)

def jsonRejectedResponse (statusCode : Nat) (schema message : String) : HttpResponse :=
  ⟨statusCode,[("schema",.string schema),("status",.string "rejected"),("message",.string message)],none⟩

-- The payload that goes to the handler and the key it was decrypted with, or the answer given instead.
def decryptTransferPayloadIfNeeded (cipher : Cipher) (store : Store) (operation : Operation) (requestPayload : Fields) :
    Except HttpResponse (Fields × Option String) :=
  if !isMobileEncryptedPayload requestPayload then .ok (requestPayload,none)
  else match transferResponseLocatorFields (some requestPayload) with
    | none => .error (jsonRejectedResponse 400 operation.responseSchema
        "The transfer request is missing the required field 'session_id'.")
    | some sessionId => match resolveTransferTrustKey store sessionId with
      | none => .error (jsonRejectedResponse 403 operation.responseSchema operation.rejectedMessage)
      | some key => match decryptMobileJsonPayload cipher requestPayload key with
        | .error message => .error (jsonRejectedResponse 400 operation.responseSchema message)
        | .ok decrypted => .ok (decrypted,some key)

def encryptResponsePayloadIfNeeded (answer : Answer) (trustKeyB64 sessionId : Option String) : Except Raised HttpResponse :=
  match trustKeyB64,sessionId with
  | none,_ => .ok ⟨answer.statusCode,answer.payload,none⟩
  | some _,none => .error (.valueError
      "Desktop rejected encrypted response payload because locator fields are missing.")
  | some key,some sessionId => match deriveMobileEncryptionKey key with
    | .error message => .error (.valueError message)
    | .ok _ => .ok ⟨answer.statusCode,answer.payload,some (key,sessionId)⟩

def dispatchOperation (lib : Libraries) (services : Services) (cipher : Cipher) (operation : Operation)
    (requestPayload : Fields) (now : DateTime) (d : Desktop) : Except Raised HttpResponse × Desktop :=
  match decryptTransferPayloadIfNeeded cipher d.store operation requestPayload with
  | .error refusal => (.ok refusal,d)
  | .ok (decrypted,key) =>
    let handled := operation.handle lib services decrypted now d
    let sessionId := (transferResponseLocatorFields (some decrypted)).or (transferResponseLocatorFields (some requestPayload))
    (handled.1.bind fun answer => encryptResponsePayloadIfNeeded answer key sessionId,handled.2)

def transportErrorResponse (message : String) : HttpResponse :=
  ⟨400,[("schema",.string TransferClients.mobileTransportEnvelopeSchema),("status",.string "rejected"),
    ("message",.string message)],none⟩

-- _complete_pending_asset_upload of the USB adapters, and the operation it is routed to.
def completePendingAssetUpload (lib : Libraries) (adapter : LanAdapter) (post : Post) :
    Except Raised HttpResponse × LanAdapter :=
  match adapter.staging.complete lib post.requestId post.fileFaults with
  | (.error error,staging) => (.error (.osError error),{adapter with staging})
  | (.ok (.error message),staging) => (.ok (transportErrorResponse message),{adapter with staging})
  | (.ok (.ok payload),staging) => dispatchTransferAsset lib {adapter with staging} post payload

-- A request that is answered. Each transport has a stream of its own; the stream's start
-- and its chunks are messages without an answer over USB.
inductive Request where
  | operation (transport : Transport) (operation : Operation) (requestPayload : Fields) (now : DateTime)
  | post (post : Post)
  | usbComplete (transport : UsbTransport) (post : Post)

def Request.transport : Request → Transport
  | .operation transport .. => transport
  | .post _ => .lanHttp
  | .usbComplete transport _ => .usb transport

-- do_POST answers an exception; over USB it ends the session.
def Transport.unhandled : Transport → Option HttpResponse
  | .lanHttp => some unhandledResponse
  | .usb _ => none

def Transport.reply (transport : Transport) : Except Raised HttpResponse → Option HttpResponse
  | .ok response => some response
  | .error _ => transport.unhandled

-- `databaseFault` is what a call of the database leaves that raised while the request was
-- handled, if one did.
def answerRequest (lib : Libraries) (services : Services) (cipher : Cipher) (adapter : LanAdapter) (request : Request)
    (databaseFault : Option LanAdapter) : Option HttpResponse × LanAdapter :=
  match databaseFault with
  | some left => (request.transport.unhandled,left)
  | none => match request with
    | .operation transport operation requestPayload now =>
      let dispatched := dispatchOperation lib services cipher operation requestPayload now adapter.desktop
      (transport.reply dispatched.1,{adapter with desktop:=dispatched.2})
    | .post post =>
      let answered := doPost lib cipher adapter post
      (some answered.1,answered.2)
    | .usbComplete transport post =>
      let completed := completePendingAssetUpload lib adapter post
      ((Transport.usb transport).reply completed.1,completed.2)

structure Written where
  answer : Answer
  key : Option String
  locator : Option String

def Written.response (written : Written) : HttpResponse :=
  writeJsonResponse written.answer.statusCode written.answer.payload written.key written.locator

def errorWritten (lib : Libraries) (adapter : LanAdapter) (post : Post) (requestId : Option String)
    (metadataPayload : Option Fields) (error : OSError) (key : Option String) : Except Raised Written :=
  let handled (metadataPayload : Option Fields) (key : Option String) :=
    (handleAssetUploadStreamError lib metadataPayload error post.now adapter.desktop).1.map fun response =>
      (⟨⟨response.statusCode,response.payload⟩,key,transferResponseLocatorFields metadataPayload⟩ : Written)
  match requestId with
  | none => handled metadataPayload key
  | some requestId => match (adapter.staging.discard requestId post.fileFaults).1 with
    | .error second => .error (.osError second)
    | .ok discarded => handled (metadataPayload.or discarded) (key.or (adapter.staging.encryptionTrustKey (some requestId)))

def startWritten (lib : Libraries) (cipher : Cipher) (adapter : LanAdapter) (post : Post) (requestPayload : Fields) :
    Except Raised Written :=
  match startMetadata cipher adapter.desktop.store requestPayload with
  | .error message => .ok ⟨⟨400,rejectedPayload message⟩,none,none⟩
  | .ok (metadataPayload,key) =>
    match (adapter.staging.start post.requestId metadataPayload key false post.name post.fileFaults).1 with
    | some error => errorWritten lib adapter post none (some metadataPayload) error key
    | none => .ok ⟨⟨200,acceptedPayload "Desktop accepted transfer asset stream metadata." post.requestId⟩,key,
        transferResponseLocatorFields (some metadataPayload)⟩

def receivedWritten (lib : Libraries) (cipher : Cipher) (adapter : LanAdapter) (post : Post) (received : Bytes) :
    Except Raised Written :=
  let key := adapter.staging.encryptionTrustKey (some post.requestId)
  let locator := transferResponseLocatorFields (adapter.staging.metadataPayload (some post.requestId))
  match decryptChunk cipher key received with
  | .error message => .ok ⟨⟨400,rejectedPayload message⟩,key,locator⟩
  | .ok chunk =>
    let appended := adapter.staging.appendChunk chunk (some post.requestId) post.fileFaults
    match appended.1 with
    | .error error => errorWritten lib {adapter with staging:=appended.2} post (some post.requestId) none error key
    | .ok (some message) => .ok ⟨⟨400,rejectedPayload message⟩,key,locator⟩
    | .ok none => .ok ⟨⟨200,acceptedPayload "Desktop accepted transfer asset stream chunk." post.requestId⟩,key,locator⟩

def chunkWritten (lib : Libraries) (cipher : Cipher) (adapter : LanAdapter) (post : Post) (contentLength : Option Int)
    (read : Except OSError Bytes) : Except Raised Written :=
  match refuseChunkLength contentLength with
  | some message => .ok ⟨⟨400,rejectedPayload message⟩,none,none⟩
  | none => match read with
    | .error error => errorWritten lib adapter post (some post.requestId) none error none
    | .ok received =>
      if contentLength ≠ some (received.length : Int) then
        .ok ⟨⟨400,rejectedPayload "Desktop received an incomplete transfer asset stream chunk."⟩,none,none⟩
      else receivedWritten lib cipher adapter post received

-- The service's call for a completed upload, whose staged file is its own by then.
def uploadCall (post : Post) (payload : TransferAssetUploadPayload) : UploadCall :=
  {metadataPayload:=payload.metadataPayload,bodyStream:=none,contentLength:=payload.contentLength
   tempFilePath:=some payload.tempFilePath,contentSha1:=some payload.contentSha1,currentTime:=post.now
   partToken:=post.partToken,faults:=post.serviceFaults,copied:=post.copied}

def uploadHandled (lib : Libraries) (staging : Staging) (d : Desktop) (post : Post) (payload : TransferAssetUploadPayload) :
    Except Raised Answer :=
  (handleAssetUpload lib (uploadCall post payload)
    {d with files:=writeFile d.files (.staged payload.tempFilePath) ((staging.files payload.tempFilePath).getD [])}).1.map
    fun response => ⟨response.statusCode,response.payload⟩

-- The status code and the object that the request's handler comes back with, before they
-- are encrypted: the service's, or what do_POST and the USB adapters answer themselves.
def handled (lib : Libraries) (services : Services) (cipher : Cipher) (adapter : LanAdapter) : Request → Except Raised Answer
  | .operation _ operation requestPayload now =>
    match decryptTransferPayloadIfNeeded cipher adapter.desktop.store operation requestPayload with
    | .error refusal => .ok ⟨refusal.statusCode,refusal.payload⟩
    | .ok (decrypted,_) => (operation.handle lib services decrypted now adapter.desktop).1
  | .post post => match post.message with
    | .start requestPayload => (startWritten lib cipher adapter post requestPayload).map Written.answer
    | .chunk contentLength read => (chunkWritten lib cipher adapter post contentLength read).map Written.answer
    | .complete =>
      let completed := adapter.staging.complete lib post.requestId post.fileFaults
      match completed.1 with
      | .error error => (errorWritten lib {adapter with staging:=completed.2} post (some post.requestId) none error none).map
          Written.answer
      | .ok (.error message) => .ok ⟨400,rejectedPayload message⟩
      | .ok (.ok payload) => uploadHandled lib completed.2 adapter.desktop post payload
  | .usbComplete _ post =>
    let completed := adapter.staging.complete lib post.requestId post.fileFaults
    match completed.1 with
    | .error error => .error (.osError error)
    | .ok (.error message) => .ok ⟨(transportErrorResponse message).statusCode,(transportErrorResponse message).payload⟩
    | .ok (.ok payload) => uploadHandled lib completed.2 adapter.desktop post payload

-- A full disk, and metadata that overflows or is compared with a proof that is not ASCII.
def StreamErrorThrows (lib : Libraries) (store : Store) (metadataPayload : Fields) (error : OSError) : Prop :=
  isDiskFullOsError error = true ∧ (MetadataOverflows lib metadataPayload ∨
    ∃ metadata, parseTransferAssetMetadata lib metadataPayload = .ok metadata ∧ metadata.schema = mobileTransferSchema ∧
      ∃ context, Compared store [.transferring] metadata.sessionId metadata.deviceUuid context ∧ ¬ Ascii metadata.trustProof)

def PromptThrows (urlparse : String → Except String (String × String)) (store : Store) (payload : Fields) : Prop :=
  ∃ request, parseUpdatePromptRequest urlparse payload = .ok request ∧ request.schema = mobileUpdatePromptSchema ∧
    (getMobileTransferContext store request.sessionId request.deviceUuid).isSome ∧ ¬ Ascii request.trustProof

def Operation.HandlerThrows (lib : Libraries) (services : Services) (store : Store) (payload : Fields) : Operation → Prop
  | .transferStart => StartThrows lib store payload
  | .transferExistence => ExistenceThrows lib store payload
  | .transferComplete => CompleteThrows lib store payload
  | .capabilityExchange => ExchangeThrows store payload
  | .updatePrompt => PromptThrows services.urlparse store payload

variable {lib : Libraries} {services : Services} {cipher : Cipher} {adapter : LanAdapter} {post : Post} {store : Store}
  {given : Option String} {payload metadataPayload requestPayload : Fields} {error : OSError} {d : Desktop} {now : DateTime}
  {operation : Operation} {contentLength : Option Int} {read : Except OSError Bytes}

theorem stream_error_throws : Throws (handleAssetUploadStreamError lib (some metadataPayload) error now d).1 ↔
    StreamErrorThrows lib d.store metadataPayload error := by
  have parsing := @escapes_metadata lib metadataPayload
  unfold handleAssetUploadStreamError checkStreamError StreamErrorThrows
  rw [← parsing]
  cases full : isDiskFullOsError error with
  | false => exact iff_of_false answered_returns (by simp)
  | true =>
      rw [if_neg (by simp),and_iff_right rfl,Option.map_some]
      cases parsed : parseTransferAssetMetadata lib metadataPayload with
      | error raised =>
          have unparsed : ∀ metadata, (.error raised : Except Raised MobileTransferAssetMetadata) ≠ .ok metadata := by simp
          cases raised with
          | valueError message =>
              refine iff_of_false answered_returns ?_
              rintro (escapes | ⟨metadata,equal,-⟩)
              · exact escapes_value escapes
              · exact unparsed metadata equal
          | _ => exact iff_of_true ⟨_,rfl⟩ (.inl ⟨_,rfl,by simp⟩)
      | ok metadata =>
          rw [or_iff_right escapes_ok]
          dsimp only
          by_cases schema : metadata.schema = mobileTransferSchema
          · rw [if_neg (not_not.mpr schema)]
            have checked := @authorise_throws lib d.store Response assetProofPurpose metadata.schema metadata.sessionId
              metadata.deviceUuid metadata.trustProof [.transferring] (streamErrorResponse error)
              (fun context => (failTransfer context now true (streamErrorResponse error) d).1) (fun _ => False)
              fun _ => iff_of_false fail_returns id
            refine Iff.trans (Eq.to_iff (congrArg Throws ?_)) (checked.trans ⟨?_,?_⟩)
            · rcases authoriseTransfer lib d.store assetProofPurpose [.transferring] metadata.schema metadata.sessionId
                metadata.deviceUuid metadata.trustProof with raised | granted
              · rfl
              · cases granted <;> rfl
            · rintro ⟨context,compared,wide | ⟨-,never⟩⟩
              · exact ⟨metadata,rfl,schema,context,compared,wide⟩
              · exact never.elim
            · rintro ⟨other,equal,-,context,compared,wide⟩
              cases equal
              exact ⟨context,compared,.inl wide⟩
          · rw [if_pos schema]
            refine iff_of_false answered_returns ?_
            rintro ⟨other,equal,there,-⟩
            cases equal
            exact schema there

theorem prompt_field_checks {fieldName : String} : ¬ Escapes (requirePromptField payload fieldName) := by
  unfold requirePromptField
  split
  · split
    · exact escapes_value
    · exact escapes_ok
  · exact escapes_value

theorem prompt_text_checks {fieldName : String} : ¬ Escapes (normalizeOptionalText payload fieldName) := by
  unfold normalizeOptionalText
  split
  · exact escapes_ok
  · exact escapes_ok
  · exact escapes_value

theorem prompt_checks {urlparse : String → Except String (String × String)} :
    ¬ Escapes (parseUpdatePromptRequest urlparse payload) := by
  have bool : ¬ Escapes (requireBool payload) := by
    unfold requireBool
    split
    · exact escapes_ok
    · exact escapes_value
  have destination : ∀ text, ¬ Escapes (validateDestination urlparse text) := by
    intro text
    unfold validateDestination
    split
    · exact escapes_value
    · split
      · exact escapes_value
      · exact escapes_ok
  unfold parseUpdatePromptRequest
  refine checks_after prompt_field_checks fun schema => ?_
  refine checks_after prompt_field_checks fun sessionId => ?_
  refine checks_after prompt_field_checks fun deviceUuid => ?_
  refine checks_after prompt_field_checks fun trustProof => ?_
  refine checks_after bool fun required => ?_
  refine checks_after prompt_text_checks fun bodyText => ?_
  refine checks_after prompt_text_checks fun updateDestination => ?_
  cases updateDestination with
  | none => exact checks_after escapes_ok fun _ => escapes_ok
  | some text => exact checks_after (destination text) fun _ => escapes_ok

theorem prompt_throws {urlparse : String → Except String (String × String)} :
    Throws (handlePromptRequest lib urlparse payload store) ↔ PromptThrows urlparse store payload := by
  unfold handlePromptRequest PromptThrows
  cases parsed : parseUpdatePromptRequest urlparse payload with
  | error raised =>
      cases raised with
      | valueError message =>
          refine iff_of_false answered_returns ?_
          rintro ⟨request,equal,-⟩
          cases equal
      | _ => exact absurd ⟨_,parsed,by simp⟩ prompt_checks
  | ok request =>
      dsimp only
      by_cases schema : request.schema = mobileUpdatePromptSchema
      · rw [if_neg (not_not.mpr schema)]
        refine proof_throws.trans ⟨fun throws => ⟨request,rfl,schema,throws⟩,?_⟩
        rintro ⟨other,equal,-,throws⟩
        cases equal
        exact throws
      · rw [if_pos schema]
        refine iff_of_false answered_returns ?_
        rintro ⟨other,equal,there,-⟩
        cases equal
        exact schema there

theorem map_throws {α β : Type} {f : α → β} {result : Except Raised α} : Throws (result.map f) ↔ Throws result := by
  cases result with
  | error raised => exact iff_of_true ⟨raised,rfl⟩ ⟨raised,rfl⟩
  | ok value => exact iff_of_false answered_returns answered_returns

theorem operation_throws : Throws (operation.handle lib services payload now d).1 ↔
    operation.HandlerThrows lib services d.store payload := by
  cases operation with
  | transferStart => exact map_throws.trans start_throws
  | transferExistence => exact map_throws.trans existence_throws
  | transferComplete => exact map_throws.trans complete_throws
  | capabilityExchange => exact map_throws.trans exchange_throws
  | updatePrompt => exact map_throws.trans prompt_throws

theorem error_written {id : Option String} {metadata : Option Fields} :
    (writeTransferAssetStreamErrorResponse lib adapter post id metadata error given).1 =
      (errorWritten lib adapter post id metadata error given).map Written.response := by
  unfold writeTransferAssetStreamErrorResponse errorWritten
  dsimp only
  cases id with
  | none =>
      dsimp only
      rcases handleAssetUploadStreamError lib metadata error post.now adapter.desktop with ⟨raised | response,left⟩ <;> rfl
  | some requestId =>
      dsimp only
      rcases adapter.staging.discard requestId post.fileFaults with ⟨second | discarded,staging⟩
      · rfl
      · dsimp only
        rcases handleAssetUploadStreamError lib (metadata.or discarded) error post.now adapter.desktop with
          ⟨raised | response,left⟩ <;> rfl

theorem start_written : (handleStreamStart lib cipher adapter post requestPayload).1 =
    (startWritten lib cipher adapter post requestPayload).map Written.response := by
  unfold handleStreamStart startWritten
  rcases startMetadata cipher adapter.desktop.store requestPayload with message | ⟨metadataPayload,given⟩
  · rfl
  · dsimp only
    rcases adapter.staging.start post.requestId metadataPayload given false post.name post.fileFaults with ⟨fault,staging⟩
    cases fault with
    | none => rfl
    | some error => exact error_written

theorem chunk_written : (handleStreamChunk lib cipher adapter post contentLength read).1 =
    (chunkWritten lib cipher adapter post contentLength read).map Written.response := by
  unfold handleStreamChunk chunkWritten
  cases refuseChunkLength contentLength with
  | some message => rfl
  | none =>
      cases read with
      | error error => exact error_written
      | ok received =>
          dsimp only
          split
          · rfl
          · unfold receivedWritten
            dsimp only
            rcases decryptChunk cipher (adapter.staging.encryptionTrustKey (some post.requestId)) received with
              message | chunk
            · rfl
            · dsimp only
              rcases adapter.staging.appendChunk chunk (some post.requestId) post.fileFaults with
                ⟨error | message,staging⟩
              · exact error_written
              · cases message <;> rfl

theorem handled_reply {result : Except Raised HttpResponse × LanAdapter} : some (match result with
    | (.ok response,answered) => (response,answered)
    | (.error _,answered) => (unhandledResponse,answered) : HttpResponse × LanAdapter).1 =
      Transport.lanHttp.reply result.1 := by
  obtain ⟨raised | response,left⟩ := result <;> rfl

theorem start_reply (sent : post.message = .start requestPayload) : some (doPost lib cipher adapter post).1 =
    Transport.lanHttp.reply (handleStreamStart lib cipher adapter post requestPayload).1 := by
  unfold doPost
  rw [sent]
  exact handled_reply

theorem chunk_reply (sent : post.message = .chunk contentLength read) : some (doPost lib cipher adapter post).1 =
    Transport.lanHttp.reply (handleStreamChunk lib cipher adapter post contentLength read).1 := by
  unfold doPost
  rw [sent]
  exact handled_reply

theorem complete_reply (sent : post.message = .complete) : some (doPost lib cipher adapter post).1 =
    Transport.lanHttp.reply (handleStreamComplete lib adapter post).1 := by
  unfold doPost
  rw [sent]
  exact handled_reply

end ImageSearch.DesktopAnswers
