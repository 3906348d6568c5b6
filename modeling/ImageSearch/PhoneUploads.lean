import ImageSearch.DiskFullUploads
import ImageSearch.StagedOrphans
import ImageSearch.Base64
import ImageSearch.TransferClients

namespace ImageSearch.PhoneUploads
open Payload Tables Transitions MobileStore TransferService UploadOutcomes StagedUploads StagedContents LanUploads
open StagedOrphans DiskFullUploads AssetUploadStream

-- TransferAssetStreamProtocol.chunkSizeBytes of the phone; the desktop's limit is another.
def chunkSizeBytes : Nat := 5 * 1024 * 1024

structure TrustedDesktopRecord where
  sharedKeyBase64 : String
  lastSessionID : String
  mobileDeviceUUID : String
  encryptionEnabled : Bool
  strictSecurityEnabled : Bool

structure ExportedTransferAsset where
  assetID : String
  assetVersion : String
  filename : String
  mediaType : String
  createdAt : Option String
  updatedAt : Option String
  contentSHA1 : String
  content : Bytes

def ExportedTransferAsset.fileSize (asset : ExportedTransferAsset) : Nat := asset.content.length

-- What CryptoKit and Foundation do for the phone: AES-GCM under the key derived from a
-- trimmed trust key, ciphertext and tag in one, and the JSON text of an object.
structure PhoneLibraries where
  sealBox : String → Bytes → Bytes → Bytes
  jsonData : Fields → Bytes

-- What one upload call draws, is handed, and meets: its ids, the trust proof, the trace
-- context, the nonces, and the name of the desktop's temporary file.
structure Upload where
  requestID : String
  trustProof : String
  traceContext : Option (String × Option String)
  startNonce : Bytes
  chunkNonce : Nat → Bytes
  tempName : String
  now : DateTime

def mobileBase64URLEncodedString (data : Bytes) : String :=
  String.ofList (((Base64.sextets data).map Base64.symbol).map Base64.urlsafe)

def deriveKey (trustKeyBase64 : String) : Option String :=
  if strip trustKeyBase64 = "" then none else some (strip trustKeyBase64)

def encryptPayloadObject (phone : PhoneLibraries) (payload : Fields) (trustKeyBase64 sessionID : String) (nonce : Bytes) :
    Option Fields :=
  (deriveKey trustKeyBase64).map fun key =>
    [("schema",.string mobileEncryptionSchema),("nonce",.string (mobileBase64URLEncodedString nonce)),
      ("ciphertext",.string (mobileBase64URLEncodedString (phone.sealBox key nonce (phone.jsonData payload)))),
      ("session_id",.string sessionID)]

def encryptBinaryChunk (phone : PhoneLibraries) (chunk : Bytes) (trustKeyBase64 : String) (nonce : Bytes) : Option Bytes :=
  (deriveKey trustKeyBase64).map fun key => encryptedBinaryChunkVersion :: (nonce ++ phone.sealBox key nonce chunk)

def chunkPayloadData (phone : PhoneLibraries) (desktop : TrustedDesktopRecord) (chunkData nonce : Bytes) : Option Bytes :=
  if desktop.encryptionEnabled then encryptBinaryChunk phone chunkData desktop.sharedKeyBase64 nonce else some chunkData

def traceContextPayloadFields : Option (String × Option String) → Fields
  | none => []
  | some (traceParent,traceState) => ("traceparent",.string traceParent) ::
      ((traceState.filter fun text => text ≠ "").toList.map fun text => ("tracestate",.string text))

def dateField (fieldName : String) (date : Option String) : Fields :=
  date.toList.map fun text => (fieldName,.string text)

def metadataFields (upload : Upload) (desktop : TrustedDesktopRecord) (asset : ExportedTransferAsset) : Fields :=
  [("schema",.string mobileTransferSchema),("session_id",.string desktop.lastSessionID),
    ("device_uuid",.string desktop.mobileDeviceUUID),("trust_proof",.string upload.trustProof),
    ("asset_id",.string asset.assetID),("asset_version",.string asset.assetVersion),("sha1",.string asset.contentSHA1),
    ("file_size",.int asset.fileSize),("filename",.string asset.filename),("media_type",.string asset.mediaType)] ++
    dateField "created_at" asset.createdAt ++ dateField "updated_at" asset.updatedAt

def transferAssetChunkSizeBytes (desktop : TrustedDesktopRecord) : Nat :=
  if desktop.encryptionEnabled then max 1 (chunkSizeBytes - encryptedBinaryChunkOverheadBytes) else chunkSizeBytes

def startRequest (upload : Upload) (desktop : TrustedDesktopRecord) (asset : ExportedTransferAsset) : Fields :=
  metadataFields upload desktop asset ++
    [(transferAssetStreamStateField,.string transferAssetStreamStateStart),
      ("chunk_size",.int (transferAssetChunkSizeBytes desktop))] ++ traceContextPayloadFields upload.traceContext

def encodeRequestBody (phone : PhoneLibraries) (desktop : TrustedDesktopRecord) (body : Fields) (nonce : Bytes) : Option Fields :=
  if desktop.encryptionEnabled then encryptPayloadObject phone body desktop.sharedKeyBase64 desktop.lastSessionID nonce
  else some body

-- decodeResponsePayloadData; an answer in clear does not do in an encrypted session, and
-- an encrypted one has none of the fields of an answer.
def decodeResponse (desktop : TrustedDesktopRecord) (response : HttpResponse) : Option Fields :=
  match response.encryptedFor with
  | none => if desktop.encryptionEnabled then none else some response.payload
  | some (key,_) =>
    if desktop.encryptionEnabled && strip key == strip desktop.sharedKeyBase64 then some response.payload else none

def accepted (desktop : TrustedDesktopRecord) (response : HttpResponse) : Bool :=
  match decodeResponse desktop response with
  | none => false
  | some payload => TransferClients.responseOk response.statusCode &&
      match Payload.get payload "schema",Payload.get payload "status" with
      | .string schema,.string status => schema == mobileTransferSchema && status == "accepted"
      | _,_ => false

section Requests
variable (lib : Libraries) (cipher : Cipher) (phone : PhoneLibraries) (upload : Upload) (desktop : TrustedDesktopRecord)

def Upload.post (upload : Upload) (message : StreamMessage) : Post :=
  ⟨upload.requestID,message,upload.tempName,noFaults,upload.now,"",fun _ => none,0⟩

def send (message : StreamMessage) (adapter : LanAdapter) : Bool × LanAdapter :=
  let answered := doPost lib cipher adapter (upload.post message)
  (accepted desktop answered.1,answered.2)

def sendBytes (data : Bytes) (adapter : LanAdapter) : Bool × LanAdapter :=
  send lib cipher upload desktop (.chunk (some data.length) (.ok data)) adapter

def startChunkedAssetUpload (asset : ExportedTransferAsset) (adapter : LanAdapter) : Bool × LanAdapter :=
  match encodeRequestBody phone desktop (startRequest upload desktop asset) upload.startNonce with
  | none => (false,adapter)
  | some body => send lib cipher upload desktop (.start body) adapter

def uploadChunkedAssetBytes (chunkData : Bytes) (nonce : Bytes) (adapter : LanAdapter) : Bool × LanAdapter :=
  if chunkData = [] then (true,adapter)
  else if transferAssetChunkSizeBytes desktop < chunkData.length then (false,adapter)
  else match chunkPayloadData phone desktop chunkData nonce with
    | none => (false,adapter)
    | some payloadData => sendBytes lib cipher upload desktop payloadData adapter

def uploadChunkedAssetFile (fileData : Bytes) (nonce : Bytes) (adapter : LanAdapter) : Bool × LanAdapter :=
  if desktop.encryptionEnabled then uploadChunkedAssetBytes lib cipher phone upload desktop fileData nonce adapter
  else sendBytes lib cipher upload desktop fileData adapter

end Requests

-- FileHandle.read(upToCount:) until it comes back empty; a size of zero is refused before.
def readChunks (chunkSize : Nat) (content : Bytes) : List Bytes :=
  if _ended : content = [] ∨ chunkSize = 0 then []
  else content.take chunkSize :: readChunks chunkSize (content.drop chunkSize)
termination_by content.length
decreasing_by
  have bytes := List.length_pos_iff.mpr (not_or.mp _ended).1
  simp only [List.length_drop]
  omega

section Transfer
variable (lib : Libraries) (cipher : Cipher) (phone : PhoneLibraries) (upload : Upload) (desktop : TrustedDesktopRecord)

-- streamFile hands each chunk to the upload; the nonces are drawn one after another.
def streamChunks : Nat → List Bytes → LanAdapter → Bool × LanAdapter
  | _,[],adapter => (true,adapter)
  | n,chunk :: rest,adapter =>
    match uploadChunkedAssetBytes lib cipher phone upload desktop chunk (upload.chunkNonce n) adapter with
    | (false,adapter) => (false,adapter)
    | (true,adapter) => streamChunks (n + 1) rest adapter

def streamFile (asset : ExportedTransferAsset) (adapter : LanAdapter) : Bool × LanAdapter :=
  let chunks := readChunks (transferAssetChunkSizeBytes desktop) asset.content
  match streamChunks lib cipher phone upload desktop 0 chunks adapter with
  | (false,adapter) => (false,adapter)
  | (true,adapter) => (chunks.flatten.length == asset.fileSize,adapter)

def sendContent (asset : ExportedTransferAsset) (adapter : LanAdapter) : Bool × LanAdapter :=
  if asset.fileSize ≤ transferAssetChunkSizeBytes desktop then
    uploadChunkedAssetFile lib cipher phone upload desktop asset.content (upload.chunkNonce 0) adapter
  else streamFile lib cipher phone upload desktop asset adapter

-- What the service is handed: the metadata but for the two fields of the stream, the
-- bytes of the staged file, and what was counted and digested of them.
structure StagedAsset where
  metadata : Fields
  content : Bytes
  contentLength : Nat
  contentSha1 : String

structure Outcome where
  accepted : Bool
  staged : Option StagedAsset

def completed (requestID : String) (staging : Staging) : Option StagedAsset :=
  match staging.complete lib requestID noFaults with
  | (.ok (.ok payload),after) => (after.files payload.tempFilePath).map fun content =>
      ⟨payload.metadataPayload.filter fun field => field.1 ≠ transferAssetStreamStateField && field.1 ≠ "chunk_size",content,
        payload.contentLength,payload.contentSha1⟩
  | _ => none

def uploadAssetInternal (asset : ExportedTransferAsset) (adapter : LanAdapter) : Outcome :=
  match startChunkedAssetUpload lib cipher phone upload desktop asset adapter with
  | (false,_) => ⟨false,none⟩
  | (true,adapter) => match sendContent lib cipher phone upload desktop asset adapter with
    | (false,_) => ⟨false,none⟩
    | (true,adapter) => ⟨true,completed lib upload.requestID adapter.staging⟩

end Transfer

structure Paired (store : Store) (desktop : TrustedDesktopRecord) : Prop where
  session : strip desktop.lastSessionID ≠ ""
  key : strip desktop.sharedKeyBase64 ≠ ""
  shared : ∃ trustKey, resolveTransferTrustKey store (strip desktop.lastSessionID) = some trustKey ∧
    strip trustKey = strip desktop.sharedKeyBase64

-- AES-GCM with a tag of 16 bytes, of one plaintext.
structure Opens (cipher : Cipher) (phone : PhoneLibraries) (key : String) (nonce plaintext : Bytes) : Prop where
  nonceLength : nonce.length = encryptedBinaryNonceBytes
  tag : (phone.sealBox key nonce plaintext).length = plaintext.length + encryptedBinaryTagBytes
  decrypts : cipher.decrypt key nonce (phone.sealBox key nonce plaintext) = some plaintext

-- What the desktop's libraries make of what the phone's made for this upload.
structure Understands (cipher : Cipher) (phone : PhoneLibraries) (upload : Upload) (desktop : TrustedDesktopRecord)
    (asset : ExportedTransferAsset) : Prop where
  start : Opens cipher phone (strip desktop.sharedKeyBase64) upload.startNonce
    (phone.jsonData (startRequest upload desktop asset))
  body : cipher.loads (phone.jsonData (startRequest upload desktop asset)) = some (.object (startRequest upload desktop asset))
  chunks : ∀ n, ∀ chunk ∈ asset.content :: readChunks (transferAssetChunkSizeBytes desktop) asset.content,
    Opens cipher phone (strip desktop.sharedKeyBase64) (upload.chunkNonce n) chunk
  base64 : ∀ data, data = upload.startNonce ∨ data = phone.sealBox (strip desktop.sharedKeyBase64) upload.startNonce
    (phone.jsonData (startRequest upload desktop asset)) →
    cipher.urlsafeB64decode (mobileBase64URLEncodedString data) = some data

def assetFields (upload : Upload) (desktop : TrustedDesktopRecord) (asset : ExportedTransferAsset) : Fields :=
  metadataFields upload desktop asset ++ traceContextPayloadFields upload.traceContext

variable {lib : Libraries} {cipher : Cipher} {phone : PhoneLibraries} {upload : Upload} {desktop : TrustedDesktopRecord}
  {asset : ExportedTransferAsset} {adapter : LanAdapter} {staging after : Staging} {requestID name : String} {d : Desktop}
  {acceptance : Acceptance} {metadataPayload : Fields} {key locator : Option String} {chunk content data nonce : Bytes} {size : Nat}

theorem separate_kept : KeptByStream lib cipher Separate fun _ => True where
  new := new_separate
  prepared _ := trivial
  start separate _ free := start_separate separate free
  append := append_separate
  complete separate := narrowed_separate (complete_narrowed lib separate) separate
  given {staging after requestId faults payload} separate outcome := by
    have kept : Separate (staging.complete lib requestId faults).2 :=
      narrowed_separate (complete_narrowed lib separate) separate
    obtain ⟨pending,found,rfl,-⟩ := complete_parts (congrArg Prod.fst outcome)
    have gone : pending.tempFilePath ∉ paths (staging.forget requestId) := by
      intro there
      exact ((paths_pop separate found).mp there).2 rfl
    have rows : after.pendingByRequestId = (staging.forget requestId).pendingByRequestId := by
      have result := congrArg Prod.snd outcome
      simp only [Staging.complete,found] at result
      rw [← result]
    rw [outcome] at kept
    refine ⟨kept.distinct,fun other member => ?_⟩
    have different : other.tempFilePath ≠ pending.tempFilePath := by
      intro same
      rw [rows] at member
      exact gone (same ▸ List.mem_map_of_mem member)
    simpa [different] using kept.present other member
  discard separate := narrowed_separate (discard_narrowed separate) separate
  clear := ⟨List.nodup_nil,fun _ member => absurd member (List.not_mem_nil)⟩

def Uploading (staging : Staging) (requestID : String) (acceptance : Acceptance) : Prop :=
  ∃ pending, staging.pending? requestID = some pending ∧ Holds staging.files pending acceptance

theorem started (separate : Separate staging) (free : staging.files name = none) : ∃ after,
    staging.start requestID metadataPayload key false name noFaults = (none,after) ∧
      Uploading after requestID ⟨metadataPayload,key,[]⟩ := by
  have done : (staging.start requestID metadataPayload key false name noFaults).1 = none := by
    simp only [Staging.start,noFaults,Bool.false_eq_true,if_false]
    unfold Staging.register
    split
    · rfl
    · simp [PendingUpload.close]
  rcases @start_parts staging noFaults requestID name metadataPayload key false separate free with
    ⟨error,failed,-⟩ | ⟨-,middle,-,absent,empty,-,result⟩
  · rw [failed] at done
    cases done
  · refine ⟨_,Prod.ext done result,newUpload requestID metadataPayload key name,?_,holds_new empty⟩
    have row : newUpload requestID metadataPayload key name ∈
        (middle.put (newUpload requestID metadataPayload key name)).pendingByRequestId.rows := by
      rw [put_rows absent]
      simp
    exact find_of_mem row

theorem appended (uploading : Uploading staging requestID acceptance) (some_bytes : chunk ≠ [])
    (small : chunk.length ≤ transferAssetStreamChunkSizeBytes) : ∃ after,
    staging.appendChunk chunk (some requestID) noFaults = (.ok none,after) ∧ Uploading after requestID (acceptance.add chunk) := by
  obtain ⟨pending,found,holds⟩ := uploading
  have named := (pending_mem found).2
  subst named
  have resolved : staging.resolve (some pending.requestId) = some pending := found
  refine ⟨(staging.appendTo pending chunk noFaults).2,?_,(pending.appendChunk chunk none).2,appendTo_found found,?_⟩
  · simp only [Staging.appendChunk,some_bytes,if_false,Nat.not_lt.mpr small,resolved]
    rfl
  · rw [appendTo_files]
    exact holds_appended holds

theorem completed_staged (uploading : Uploading staging requestID acceptance) :
    completed lib requestID staging = some ⟨acceptance.metadataPayload.filter fun field =>
      field.1 ≠ transferAssetStreamStateField && field.1 ≠ "chunk_size",acceptance.chunks.flatten,
      acceptance.chunks.flatten.length,lib.sha1 acceptance.chunks.flatten⟩ := by
  obtain ⟨pending,found,holds⟩ := uploading
  have flushed := holds_flushed holds
  simp only [completed,Staging.complete,found,PendingUpload.toPayload,noFaults,Except.map,flushed,Option.map_some,
    holds.metadata,holds.length,holds.digest]

-- The key that the upload's chunks are read with is the one the phone writes them with.
def KeyFor (desktop : TrustedDesktopRecord) : Option String → Prop
  | none => desktop.encryptionEnabled = false
  | some key => desktop.encryptionEnabled = true ∧ strip key = strip desktop.sharedKeyBase64 ∧
      strip desktop.sharedKeyBase64 ≠ ""

theorem accepted_answer (keyFor : KeyFor desktop key) (located : locator.isSome) (message : String) :
    accepted desktop (writeJsonResponse 200 (acceptedPayload message requestID) key locator) = true := by
  obtain ⟨sessionId,rfl⟩ := Option.isSome_iff_exists.mp located
  have schema : Payload.get (acceptedPayload message requestID) "schema" = .string mobileTransferSchema := rfl
  have status : Payload.get (acceptedPayload message requestID) "status" = .string "accepted" := rfl
  cases key with
  | none =>
      have clear : desktop.encryptionEnabled = false := keyFor
      simp [writeJsonResponse,accepted,decodeResponse,clear,schema,status,TransferClients.responseOk]
  | some key =>
      obtain ⟨encrypted,same,usable⟩ := keyFor
      simp [writeJsonResponse,deriveMobileEncryptionKey,accepted,decodeResponse,encrypted,same,usable,schema,status,
        TransferClients.responseOk]

theorem chunk_sent (uploading : Uploading adapter.staging upload.requestID acceptance)
    (keyFor : KeyFor desktop acceptance.encryptionTrustKeyB64)
    (located : (transferResponseLocatorFields (some acceptance.metadataPayload)).isSome)
    (decrypts : decryptChunk cipher acceptance.encryptionTrustKeyB64 data = .ok chunk) (some_bytes : chunk ≠ [])
    (small : chunk.length ≤ transferAssetStreamChunkSizeBytes) (some_data : data ≠ [])
    (short : data.length ≤ transferAssetStreamChunkSizeBytes + encryptedBinaryChunkOverheadBytes) : ∃ next,
    sendBytes lib cipher upload desktop data adapter = (true,next) ∧
      Uploading next.staging upload.requestID (acceptance.add chunk) := by
  obtain ⟨after,append,more⟩ := appended uploading some_bytes small
  obtain ⟨pending,found,holds⟩ := uploading
  have key : adapter.staging.encryptionTrustKey (some upload.requestID) = acceptance.encryptionTrustKeyB64 := by
    simp [Staging.encryptionTrustKey,Staging.resolve,found,holds.key]
  have metadata : adapter.staging.metadataPayload (some upload.requestID) = some acceptance.metadataPayload := by
    simp [Staging.metadataPayload,Staging.resolve,found,holds.metadata]
  have length := List.length_pos_iff.mpr some_data
  have declared : refuseChunkLength (some (data.length : Int)) = none := by
    have positive : ¬ (data.length : Int) ≤ 0 := by omega
    have bounded : ¬ (data.length : Int) > transferAssetStreamChunkSizeBytes + encryptedBinaryChunkOverheadBytes := by omega
    simp only [refuseChunkLength,positive,bounded,if_false]
  refine ⟨{adapter with staging:=after},?_,more⟩
  simp only [sendBytes,send,doPost,Upload.post,handleStreamChunk,declared,ne_eq,not_true,if_false,key,metadata,decrypts,append]
  rw [accepted_answer keyFor located]

theorem decrypt_framed (opens : Opens cipher phone (strip desktop.sharedKeyBase64) nonce chunk) {trustKey : String}
    (same : strip trustKey = strip desktop.sharedKeyBase64) (usable : strip desktop.sharedKeyBase64 ≠ "") :
    decryptChunk cipher (some trustKey)
      (encryptedBinaryChunkVersion :: (nonce ++ phone.sealBox (strip desktop.sharedKeyBase64) nonce chunk)) = .ok chunk := by
  have long : ¬ 1 + nonce.length + (phone.sealBox (strip desktop.sharedKeyBase64) nonce chunk).length <
      encryptedBinaryChunkOverheadBytes := by
    rw [opens.nonceLength,opens.tag,encryptedBinaryChunkOverheadBytes]
    omega
  have first : (nonce ++ phone.sealBox (strip desktop.sharedKeyBase64) nonce chunk).take encryptedBinaryNonceBytes = nonce := by
    rw [← opens.nonceLength,List.take_left]
  have rest : (nonce ++ phone.sealBox (strip desktop.sharedKeyBase64) nonce chunk).drop encryptedBinaryNonceBytes =
      phone.sealBox (strip desktop.sharedKeyBase64) nonce chunk := by
    rw [← opens.nonceLength,List.drop_left]
  have framed : ¬ (encryptedBinaryChunkVersion :: (nonce ++ phone.sealBox (strip desktop.sharedKeyBase64) nonce chunk)).length <
      encryptedBinaryChunkOverheadBytes := by
    simp only [List.length_cons,List.length_append]
    omega
  simp only [decryptChunk,decryptMobileBinaryChunk,framed,if_false,List.head?_cons,ne_eq,not_true,deriveMobileEncryptionKey,
    same,usable,List.drop_succ_cons,List.drop_zero,first,Nat.add_comm 1,rest,bind,Except.bind,opens.decrypts]
  rfl

def Readable (cipher : Cipher) (phone : PhoneLibraries) (desktop : TrustedDesktopRecord) (nonce chunk : Bytes) : Prop :=
  desktop.encryptionEnabled = true → Opens cipher phone (strip desktop.sharedKeyBase64) nonce chunk

theorem chunk_size_bound : transferAssetChunkSizeBytes desktop ≤ chunkSizeBytes := by
  unfold transferAssetChunkSizeBytes
  split <;> decide

theorem bytes_uploaded (uploading : Uploading adapter.staging upload.requestID acceptance)
    (keyFor : KeyFor desktop acceptance.encryptionTrustKeyB64)
    (located : (transferResponseLocatorFields (some acceptance.metadataPayload)).isSome) (some_bytes : chunk ≠ [])
    (small : chunk.length ≤ transferAssetChunkSizeBytes desktop) (readable : Readable cipher phone desktop nonce chunk) :
    ∃ next, uploadChunkedAssetBytes lib cipher phone upload desktop chunk nonce adapter = (true,next) ∧
      Uploading next.staging upload.requestID (acceptance.add chunk) := by
  have bound := Nat.le_trans small chunk_size_bound
  have large : chunkSizeBytes ≤ transferAssetStreamChunkSizeBytes := by decide
  cases key : acceptance.encryptionTrustKeyB64 with
  | none =>
      rw [key] at keyFor
      have clear : desktop.encryptionEnabled = false := keyFor
      obtain ⟨next,sent,more⟩ := @chunk_sent lib cipher upload desktop adapter acceptance chunk chunk uploading (by rwa [key])
        located (by rw [key]; rfl) some_bytes (by omega) some_bytes (by omega)
      refine ⟨next,?_,more⟩
      simp only [uploadChunkedAssetBytes,some_bytes,if_false,Nat.not_lt.mpr small,chunkPayloadData,clear,Bool.false_eq_true,sent]
  | some trustKey =>
      rw [key] at keyFor
      obtain ⟨encrypted,same,usable⟩ := keyFor
      have opens := readable encrypted
      have decrypts := decrypt_framed opens same usable
      obtain ⟨next,sent,more⟩ := @chunk_sent lib cipher upload desktop adapter acceptance chunk _ uploading
        (by rw [key]; exact ⟨encrypted,same,usable⟩) located (by rw [key]; exact decrypts) some_bytes (by omega) (by simp)
        (by simp only [List.length_cons,List.length_append,opens.nonceLength,opens.tag,encryptedBinaryChunkOverheadBytes]; omega)
      refine ⟨next,?_,more⟩
      simp only [uploadChunkedAssetBytes,some_bytes,if_false,Nat.not_lt.mpr small,chunkPayloadData,encrypted,if_true,
        encryptBinaryChunk,deriveKey,usable,Option.map_some,sent]

theorem readChunks_flatten (positive : 0 < size) : (readChunks size content).flatten = content := by
  induction content using readChunks.induct size with
  | case1 content ended =>
      rw [readChunks,dif_pos ended]
      rcases ended with rfl | zero
      · rfl
      · omega
  | case2 content more ih =>
      rw [readChunks,dif_neg more,List.flatten_cons,ih,List.take_append_drop]

theorem readChunks_bounds : ∀ chunk ∈ readChunks size content, chunk ≠ [] ∧ chunk.length ≤ size := by
  induction content using readChunks.induct size with
  | case1 content ended =>
      rw [readChunks,dif_pos ended]
      simp
  | case2 content more ih =>
      rw [readChunks,dif_neg more]
      obtain ⟨some_bytes,positive⟩ := not_or.mp more
      intro chunk member
      rcases List.mem_cons.mp member with rfl | later
      · refine ⟨?_,List.length_take_le _ _⟩
        simp [some_bytes,positive]
      · exact ih chunk later

def Acceptance.addAll (acceptance : Acceptance) (chunks : List Bytes) : Acceptance :=
  {acceptance with chunks:=acceptance.chunks ++ chunks}

theorem chunks_uploaded {chunks : List Bytes} {n : Nat} (uploading : Uploading adapter.staging upload.requestID acceptance)
    (keyFor : KeyFor desktop acceptance.encryptionTrustKeyB64)
    (located : (transferResponseLocatorFields (some acceptance.metadataPayload)).isSome)
    (bounds : ∀ chunk ∈ chunks, chunk ≠ [] ∧ chunk.length ≤ transferAssetChunkSizeBytes desktop)
    (readable : ∀ n, ∀ chunk ∈ chunks, Readable cipher phone desktop (upload.chunkNonce n) chunk) :
    ∃ next, streamChunks lib cipher phone upload desktop n chunks adapter = (true,next) ∧
      Uploading next.staging upload.requestID (Acceptance.addAll acceptance chunks) := by
  induction chunks generalizing adapter acceptance n with
  | nil => exact ⟨adapter,rfl,by simpa [Acceptance.addAll] using uploading⟩
  | cons chunk rest ih =>
      obtain ⟨some_bytes,small⟩ := bounds chunk (by simp)
      obtain ⟨middle,sent,more⟩ := @bytes_uploaded lib cipher phone upload desktop adapter acceptance chunk
        (upload.chunkNonce n) uploading keyFor located some_bytes small (readable n chunk (by simp))
      obtain ⟨next,streamed,all⟩ := ih more keyFor located (fun chunk member => bounds chunk (by simp [member]))
        (fun n chunk member => readable n chunk (by simp [member])) (n:=n + 1)
      refine ⟨next,?_,?_⟩
      · simp only [streamChunks,sent,streamed]
      · simpa [Acceptance.addAll,Acceptance.add] using all

theorem chunk_size_positive : 0 < transferAssetChunkSizeBytes desktop := by
  unfold transferAssetChunkSizeBytes
  split <;> decide

-- The whole content arrives, in one chunk or in many, unless it is an empty one in clear.
theorem content_sent (uploading : Uploading adapter.staging upload.requestID acceptance)
    (keyFor : KeyFor desktop acceptance.encryptionTrustKeyB64)
    (located : (transferResponseLocatorFields (some acceptance.metadataPayload)).isSome)
    (sendable : desktop.encryptionEnabled = true ∨ asset.content ≠ [])
    (readable : ∀ n, ∀ chunk ∈ asset.content :: readChunks (transferAssetChunkSizeBytes desktop) asset.content,
      Readable cipher phone desktop (upload.chunkNonce n) chunk) :
    ∃ next chunks, sendContent lib cipher phone upload desktop asset adapter = (true,next) ∧
      Uploading next.staging upload.requestID (Acceptance.addAll acceptance chunks) ∧ chunks.flatten = asset.content := by
  by_cases whole : asset.fileSize ≤ transferAssetChunkSizeBytes desktop
  · by_cases empty : asset.content = []
    · have encrypted : desktop.encryptionEnabled = true := sendable.resolve_right (not_not.mpr empty)
      refine ⟨adapter,[],?_,by simpa [Acceptance.addAll] using uploading,empty.symm⟩
      simp [sendContent,whole,uploadChunkedAssetFile,encrypted,uploadChunkedAssetBytes,empty]
    · obtain ⟨next,sent,more⟩ := @bytes_uploaded lib cipher phone upload desktop adapter acceptance asset.content
        (upload.chunkNonce 0) uploading keyFor located empty whole (readable 0 asset.content (by simp))
      refine ⟨next,[asset.content],?_,more,by simp⟩
      rw [← sent]
      have small : ¬ transferAssetChunkSizeBytes desktop < asset.content.length := Nat.not_lt.mpr whole
      cases encrypted : desktop.encryptionEnabled <;>
        simp [sendContent,whole,uploadChunkedAssetFile,uploadChunkedAssetBytes,chunkPayloadData,encrypted,empty,small]
  · obtain ⟨next,sent,more⟩ := @chunks_uploaded lib cipher phone upload desktop adapter acceptance
      (readChunks (transferAssetChunkSizeBytes desktop) asset.content) 0 uploading keyFor located readChunks_bounds
      fun n chunk member => readable n chunk (by simp [member])
    have flat := @readChunks_flatten asset.content _ (@chunk_size_positive desktop)
    refine ⟨next,_,?_,more,flat⟩
    simp only [sendContent,whole,if_false,streamFile,sent,flat]
    simp [ExportedTransferAsset.fileSize]

-- An empty body is one whose declared length the desktop refuses.
theorem empty_refused (clear : desktop.encryptionEnabled = false) (empty : asset.content = []) :
    (sendContent lib cipher phone upload desktop asset adapter).1 = false := by
  have whole : asset.fileSize ≤ transferAssetChunkSizeBytes desktop := by simp [ExportedTransferAsset.fileSize,empty]
  have refused : refuseChunkLength (some ((([] : Bytes).length : Nat) : Int)) =
      some "Desktop received an invalid transfer asset stream chunk length." := rfl
  simp only [sendContent,whole,if_true,uploadChunkedAssetFile,clear,Bool.false_eq_true,if_false,empty,sendBytes,send,doPost,
    Upload.post,handleStreamChunk,refused]
  simp [writeJsonResponse,accepted,decodeResponse,clear,TransferClients.responseOk]

theorem symbol_unspaced : ∀ n < 64, isSpace (Base64.urlsafe (Base64.symbol n)) = false := by decide

theorem strip_encoded (data : Bytes) : strip (mobileBase64URLEncodedString data) = mobileBase64URLEncodedString data := by
  have unspaced : ∀ c ∈ ((Base64.sextets data).map Base64.symbol).map Base64.urlsafe, isSpace c = false := by
    intro c member
    obtain ⟨symbol,there,rfl⟩ := List.mem_map.mp member
    obtain ⟨n,present,rfl⟩ := List.mem_map.mp there
    exact symbol_unspaced n (Base64.sextets_bound data n present)
  rw [mobileBase64URLEncodedString,strip,String.toList_ofList,stripChars_self unspaced]

theorem encoded_nonempty (some_data : data ≠ []) : mobileBase64URLEncodedString data ≠ "" := by
  intro empty
  have chars : ((Base64.sextets data).map Base64.symbol).map Base64.urlsafe = [] := by
    rw [← String.toList_ofList (l:=((Base64.sextets data).map Base64.symbol).map Base64.urlsafe)]
    exact congrArg String.toList empty
  have sextets := List.map_eq_nil_iff.mp (List.map_eq_nil_iff.mp chars)
  match data,sextets with
  | [],_ => exact some_data rfl
  | [_],sextets | [_,_],sextets | _ :: _ :: _ :: _,sextets => simp [Base64.sextets] at sextets

theorem decode_field {payload : Fields} {fieldName : String} (some_data : data ≠ [])
    (decodes : cipher.urlsafeB64decode (mobileBase64URLEncodedString data) = some data)
    (carried : Payload.get payload fieldName = .string (mobileBase64URLEncodedString data)) :
    decodeRequiredBase64urlField cipher payload fieldName = .ok data := by
  simp only [decodeRequiredBase64urlField,carried,strip_encoded,encoded_nonempty some_data,if_false,decodes]

theorem stream_fields_dropped : (startRequest upload desktop asset).filter (fun field =>
    field.1 ≠ transferAssetStreamStateField && field.1 ≠ "chunk_size") = assetFields upload desktop asset := by
  obtain ⟨requestID,trustProof,traceContext,startNonce,chunkNonce,tempName,now⟩ := upload
  obtain ⟨assetID,assetVersion,filename,mediaType,createdAt,updatedAt,contentSHA1,content⟩ := asset
  have traced : (traceContextPayloadFields traceContext).filter (fun field =>
      field.1 ≠ transferAssetStreamStateField && field.1 ≠ "chunk_size") = traceContextPayloadFields traceContext := by
    rw [List.filter_eq_self]
    intro field member
    match traceContext with
    | none => simp [traceContextPayloadFields] at member
    | some (parent,state) =>
        rcases List.mem_cons.mp member with rfl | later
        · rfl
        · obtain ⟨text,-,rfl⟩ := List.mem_map.mp later
          rfl
  have dated : ∀ fieldName ∈ ["created_at","updated_at"], ∀ date, (dateField fieldName date).filter (fun field =>
      field.1 ≠ transferAssetStreamStateField && field.1 ≠ "chunk_size") = dateField fieldName date := by
    intro fieldName member date
    rw [List.filter_eq_self]
    intro field there
    obtain ⟨text,-,rfl⟩ := List.mem_map.mp there
    simp only [List.mem_cons,List.not_mem_nil,or_false] at member
    rcases member with rfl | rfl <;> rfl
  have dropped : ([(transferAssetStreamStateField,.string transferAssetStreamStateStart),
      ("chunk_size",.int (transferAssetChunkSizeBytes desktop))] : Fields).filter (fun field =>
      field.1 ≠ transferAssetStreamStateField && field.1 ≠ "chunk_size") = [] := rfl
  simp only [startRequest,assetFields,metadataFields,List.filter_append,traced,dropped,List.append_nil,
    dated "created_at" (by simp),dated "updated_at" (by simp)]
  rfl

theorem start_locator {payload : Fields} (carried : Payload.get payload "session_id" = .string desktop.lastSessionID)
    (present : strip desktop.lastSessionID ≠ "") :
    transferResponseLocatorFields (some payload) = some (strip desktop.lastSessionID) := by
  simp only [transferResponseLocatorFields,carried,present,if_false]

theorem start_in_clear (store : Store) :
    startMetadata cipher store (startRequest upload desktop asset) = .ok (assetFields upload desktop asset,none) := by
  have unencrypted : isMobileEncryptedPayload (assetFields upload desktop asset) = false := rfl
  simp only [startMetadata,stream_fields_dropped,unencrypted,Bool.false_eq_true,if_false]

theorem start_encrypted {store : Store} (paired : Paired store desktop)
    (understands : Understands cipher phone upload desktop asset) : ∃ body trustKey,
    encryptPayloadObject phone (startRequest upload desktop asset) desktop.sharedKeyBase64 desktop.lastSessionID
        upload.startNonce = some body ∧
      startMetadata cipher store body = .ok (startRequest upload desktop asset,some trustKey) ∧
      strip trustKey = strip desktop.sharedKeyBase64 := by
  obtain ⟨trustKey,resolved,same⟩ := paired.shared
  have opens := understands.start
  obtain ⟨sealed,sealing⟩ : ∃ sealed, phone.sealBox (strip desktop.sharedKeyBase64) upload.startNonce
    (phone.jsonData (startRequest upload desktop asset)) = sealed := ⟨_,rfl⟩
  have decodes := understands.base64
  have tag := opens.tag
  have plaintext := opens.decrypts
  rw [sealing] at decodes tag plaintext
  obtain ⟨body,shape⟩ : ∃ body : Fields, body = [("schema",.string mobileEncryptionSchema),
    ("nonce",.string (mobileBase64URLEncodedString upload.startNonce)),
    ("ciphertext",.string (mobileBase64URLEncodedString sealed)),("session_id",.string desktop.lastSessionID)] := ⟨_,rfl⟩
  have some_nonce : upload.startNonce ≠ [] := by
    intro empty
    have length := opens.nonceLength
    rw [empty] at length
    cases length
  have some_sealed : sealed ≠ [] := by
    intro empty
    rw [empty,encryptedBinaryTagBytes] at tag
    simp at tag
  have nonce : decodeRequiredBase64urlField cipher body "nonce" = .ok upload.startNonce :=
    decode_field some_nonce (decodes _ (.inl rfl)) (by rw [shape]; rfl)
  have ciphertext : decodeRequiredBase64urlField cipher body "ciphertext" = .ok sealed :=
    decode_field some_sealed (decodes _ (.inr rfl)) (by rw [shape]; rfl)
  have decrypted : decryptMobileJsonPayload cipher body trustKey = .ok (startRequest upload desktop asset) := by
    simp only [decryptMobileJsonPayload,nonce,ciphertext,bind,Except.bind,opens.nonceLength,ne_eq,not_true,if_false,
      deriveMobileEncryptionKey,same,paired.key,plaintext,understands.body]
    rfl
  have kept : body.filter (fun field => field.1 ≠ transferAssetStreamStateField && field.1 ≠ "chunk_size") = body := by
    rw [shape]
    rfl
  have marked : isMobileEncryptedPayload body = true := by rw [shape]; rfl
  have located := @start_locator desktop body (by rw [shape]; rfl) paired.session
  refine ⟨body,trustKey,?_,?_,same⟩
  · simp only [encryptPayloadObject,deriveKey,paired.key,if_false,Option.map_some,sealing,shape]
  · simp only [startMetadata,kept,marked,if_true,decryptTransferAssetStreamMetadata,located,resolved,decrypted,Except.map]

theorem start_sent (separate : Separate adapter.staging) (free : adapter.staging.files upload.tempName = none)
    (paired : Paired adapter.desktop.store desktop)
    (understands : desktop.encryptionEnabled = true → Understands cipher phone upload desktop asset) :
    ∃ next metadataPayload key, startChunkedAssetUpload lib cipher phone upload desktop asset adapter = (true,next) ∧
      Uploading next.staging upload.requestID ⟨metadataPayload,key,[]⟩ ∧ KeyFor desktop key ∧
      (transferResponseLocatorFields (some metadataPayload)).isSome ∧
      metadataPayload.filter (fun field => field.1 ≠ transferAssetStreamStateField && field.1 ≠ "chunk_size") =
        assetFields upload desktop asset := by
  have sent : ∀ body metadataPayload key, startMetadata cipher adapter.desktop.store body = .ok (metadataPayload,key) →
      KeyFor desktop key → (transferResponseLocatorFields (some metadataPayload)).isSome → ∃ next,
      send lib cipher upload desktop (.start body) adapter = (true,next) ∧
        Uploading next.staging upload.requestID ⟨metadataPayload,key,[]⟩ := by
    intro body metadataPayload key prepared keyFor located
    obtain ⟨after,start,uploading⟩ := @started adapter.staging upload.requestID upload.tempName
      metadataPayload key separate free
    refine ⟨{adapter with staging:=after},?_,uploading⟩
    simp only [send,doPost,Upload.post,handleStreamStart,prepared,start]
    rw [accepted_answer keyFor located]
  cases encrypted : desktop.encryptionEnabled with
  | false =>
      have located := @start_locator desktop (assetFields upload desktop asset) rfl paired.session
      obtain ⟨next,accepted,uploading⟩ := sent _ _ none (start_in_clear adapter.desktop.store) encrypted (by rw [located]; rfl)
      refine ⟨next,assetFields upload desktop asset,none,?_,uploading,encrypted,by rw [located]; rfl,?_⟩
      · simp only [startChunkedAssetUpload,encodeRequestBody,encrypted,Bool.false_eq_true,if_false,accepted]
      · rw [← stream_fields_dropped,List.filter_filter]
        simp
  | true =>
      obtain ⟨body,trustKey,made,prepared,same⟩ := start_encrypted paired (understands encrypted)
      have located := @start_locator desktop (startRequest upload desktop asset) rfl paired.session
      have keyFor : KeyFor desktop (some trustKey) := ⟨encrypted,same,paired.key⟩
      obtain ⟨next,accepted,uploading⟩ := sent body _ _ prepared keyFor (by rw [located]; rfl)
      refine ⟨next,startRequest upload desktop asset,some trustKey,?_,uploading,keyFor,by rw [located]; rfl,
        stream_fields_dropped⟩
      simp only [startChunkedAssetUpload,encodeRequestBody,encrypted,if_true,made,accepted]

def delivered (lib : Libraries) (upload : Upload) (desktop : TrustedDesktopRecord) (asset : ExportedTransferAsset) : Outcome :=
  ⟨true,some ⟨assetFields upload desktop asset,asset.content,asset.content.length,lib.sha1 asset.content⟩⟩

theorem upload_delivered (separate : Separate adapter.staging) (free : adapter.staging.files upload.tempName = none)
    (paired : Paired adapter.desktop.store desktop)
    (understands : desktop.encryptionEnabled = true → Understands cipher phone upload desktop asset)
    (sendable : desktop.encryptionEnabled = true ∨ asset.content ≠ []) :
    uploadAssetInternal lib cipher phone upload desktop asset adapter = delivered lib upload desktop asset := by
  obtain ⟨middle,metadataPayload,key,started,uploading,keyFor,located,fields⟩ :=
    @start_sent lib cipher phone upload desktop asset adapter separate free paired understands
  obtain ⟨next,chunks,sent,more,flat⟩ := @content_sent lib cipher phone upload desktop asset middle
    ⟨metadataPayload,key,[]⟩ uploading keyFor located sendable
    fun n chunk member encrypted => (understands encrypted).chunks n chunk member
  have staged := @completed_staged lib _ _ _ more
  simp only [uploadAssetInternal,started,sent,staged,delivered]
  simp only [Acceptance.addAll,List.nil_append,flat,fields]

theorem upload_refused (clear : desktop.encryptionEnabled = false) (empty : asset.content = []) :
    uploadAssetInternal lib cipher phone upload desktop asset adapter = ⟨false,none⟩ := by
  unfold uploadAssetInternal
  split
  · rfl
  · rename_i next _
    have refused := @empty_refused lib cipher phone upload desktop asset next clear empty
    split
    · rfl
    · rename_i outcome
      rw [outcome] at refused
      cases refused

def TrustedDesktopRecord.withEncryption (desktop : TrustedDesktopRecord) (enabled : Bool) : TrustedDesktopRecord :=
  {desktop with encryptionEnabled:=enabled}

theorem file_delivered (path : Reachable (events lib cipher) ⟨.new,d⟩ adapter)
    (free : adapter.staging.files upload.tempName = none) (paired : Paired adapter.desktop.store desktop)
    (understands : Understands cipher phone upload (desktop.withEncryption true) asset) :
    (∀ enabled, uploadAssetInternal lib cipher phone upload (desktop.withEncryption enabled) asset adapter =
        delivered lib upload desktop asset ↔ enabled = true ∨ asset.content ≠ []) ∧
      (uploadAssetInternal lib cipher phone upload (desktop.withEncryption true) asset adapter =
        uploadAssetInternal lib cipher phone upload (desktop.withEncryption false) asset adapter ↔ asset.content ≠ []) := by
  have separate : Separate adapter.staging := kept_reaches separate_kept path
  have pairs : ∀ enabled, Paired adapter.desktop.store (desktop.withEncryption enabled) :=
    fun _ => ⟨paired.session,paired.key,paired.shared⟩
  have sends : ∀ enabled, enabled = true ∨ asset.content ≠ [] →
      uploadAssetInternal lib cipher phone upload (desktop.withEncryption enabled) asset adapter =
        delivered lib upload desktop asset := by
    intro enabled sendable
    apply upload_delivered separate free (pairs enabled) ?_ sendable
    intro encrypted
    cases enabled with
    | false => cases encrypted
    | true => exact understands
  have refuses : asset.content = [] →
      uploadAssetInternal lib cipher phone upload (desktop.withEncryption false) asset adapter = ⟨false,none⟩ :=
    fun empty => upload_refused rfl empty
  have differs : delivered lib upload desktop asset ≠ ⟨false,none⟩ := by simp [delivered]
  refine ⟨fun enabled => ⟨fun same => ?_,sends enabled⟩,fun same empty => ?_,fun present => ?_⟩
  · cases enabled with
    | true => exact .inl rfl
    | false => exact .inr fun empty => differs (same.symm.trans (refuses empty))
  · rw [refuses empty,sends true (.inl rfl)] at same
    exact differs same
  · rw [sends true (.inl rfl),sends false (.inr present)]

-- The JSON text of a one-byte upload's start and AES-256-GCM of it under the sample trust
-- key, then that of its one chunk.
def sampleNonce : Bytes := [0,1,2,3,4,5,6,7,8,9,10,11]
def sampleStartData : Bytes := [
  123,34,97,115,115,101,116,95,105,100,34,58,34,97,115,115,101,116,45,49,34,44,34,97,115,115,101,116,95,118,101,114,
  115,105,111,110,34,58,34,49,34,44,34,99,104,117,110,107,95,115,105,122,101,34,58,53,50,52,50,56,53,49,44,34,100,101,
  118,105,99,101,95,117,117,105,100,34,58,34,112,104,111,110,101,45,49,34,44,34,102,105,108,101,95,115,105,122,101,34,
  58,49,44,34,102,105,108,101,110,97,109,101,34,58,34,73,77,71,95,48,48,48,49,46,74,80,71,34,44,34,109,101,100,105,97,
  95,116,121,112,101,34,58,34,105,109,97,103,101,34,44,34,115,99,104,101,109,97,34,58,34,100,116,105,115,46,109,111,
  98,105,108,101,45,116,114,97,110,115,102,101,114,46,118,49,34,44,34,115,101,115,115,105,111,110,95,105,100,34,58,34,
  115,101,115,115,105,111,110,45,49,34,44,34,115,104,97,49,34,58,34,56,54,102,55,101,52,51,55,102,97,97,53,97,55,102,
  99,101,49,53,100,49,100,100,99,98,57,101,97,101,97,101,97,51,55,55,54,54,55,98,56,34,44,34,115,116,114,101,97,109,
  95,115,116,97,116,101,34,58,34,115,116,97,114,116,34,44,34,116,114,117,115,116,95,112,114,111,111,102,34,58,34,72,
  70,106,115,83,55,101,118,101,65,102,73,75,49,51,95,81,114,85,85,70,97,116,101,53,90,68,76,52,107,101,108,111,51,122,
  90,118,100,70,45,57,82,89,34,125]
def sampleSealedStart : Bytes := [
  141,29,243,248,221,90,239,101,241,83,255,227,174,85,20,140,209,194,238,237,116,123,72,94,116,196,92,15,80,94,162,
  149,219,4,137,64,191,148,154,56,122,20,122,153,52,3,37,79,41,85,177,114,149,230,247,215,98,62,46,180,7,164,255,246,
  53,11,207,128,84,217,78,7,42,242,79,247,129,253,120,118,40,202,93,177,67,88,161,92,1,146,8,151,137,216,227,159,110,
  72,120,47,21,184,158,41,141,7,34,191,89,48,243,120,15,160,202,65,149,245,61,39,120,37,58,162,60,45,66,169,127,202,
  232,6,255,12,175,168,189,101,176,38,105,2,79,203,84,214,101,218,143,96,66,224,47,71,185,189,204,126,155,130,186,38,
  26,47,254,2,207,58,33,223,59,21,94,10,236,181,189,228,74,7,238,212,234,65,221,16,97,206,56,205,140,148,22,211,151,
  130,59,63,210,155,165,204,148,137,75,239,212,166,134,77,153,124,85,249,72,115,116,23,228,254,125,97,170,15,46,152,
  151,255,180,87,181,22,96,138,96,226,123,131,14,23,216,144,153,178,52,87,180,130,113,128,125,66,176,155,231,150,166,
  184,216,95,14,16,149,114,87,77,184,119,44,243,120,253,204,241,190,95,50,8,22,164,0,52,56,218,166,243,7,41,99,205,
  217,128,39,28,75,152,168,49,26,210,75,79,129,42,186,93,184,132,105,2,216,231,179,65,120,250,119,149,161,24,167,220,
  197,79,166,26,164,220,93,192,203,70,169,209,244,191,39,218,138,240,111,124,44,141,28,206,166,154,191,205,40,50,93,
  137,62,125,37]
def sampleSealedChunk : Bytes := [151,40,13,19,11,71,15,18,120,244,178,206,147,219,65,198,80]

def sampleUpload : Upload :=
  ⟨"request-1","HFjsS7eveAfIK13_QrUUFate5ZDL4kelo3zZvdF-9RY",none,sampleNonce,fun _ => sampleNonce,"one.part",1704067200000000⟩

def sampleRecord (enabled : Bool) : TrustedDesktopRecord := ⟨"trust-key","session-1","phone-1",enabled,false⟩

def sampleAsset (content : Bytes) : ExportedTransferAsset :=
  ⟨"asset-1","1","IMG_0001.JPG","image",none,none,sampleLibraries.sha1 content,content⟩

def samplePhone : PhoneLibraries :=
  ⟨fun _ _ plaintext => if plaintext = [97] then sampleSealedChunk else sampleSealedStart,fun _ => sampleStartData⟩

def sampleCipher : Cipher where
  urlsafeB64decode text :=
    if text = mobileBase64URLEncodedString sampleNonce then some sampleNonce
    else if text = mobileBase64URLEncodedString sampleSealedStart then some sampleSealedStart
    else none
  decrypt key nonce ciphertext :=
    if key ≠ "trust-key" ∨ nonce ≠ sampleNonce then none
    else if ciphertext = sampleSealedStart then some sampleStartData
    else if ciphertext = sampleSealedChunk then some [97]
    else none
  loads text :=
    if text = sampleStartData then some (.object (startRequest sampleUpload (sampleRecord true) (sampleAsset [97]))) else none

theorem sample_paired {enabled : Bool} : Paired sampleDesktop.store (sampleRecord enabled) := by
  refine ⟨?_,?_,"trust-key",?_,rfl⟩
  · show strip "session-1" ≠ ""
    decide +kernel
  · show strip "trust-key" ≠ ""
    decide +kernel
  · show resolveTransferTrustKey sampleDesktop.store (strip "session-1") = some "trust-key"
    decide +kernel

-- The desktop refuses the chunk of no bytes that the phone sends for an empty file.
theorem empty_file_undelivered : ¬ ∀ (lib : Libraries) (cipher : Cipher) (phone : PhoneLibraries) (upload : Upload)
    (desktop : TrustedDesktopRecord) (asset : ExportedTransferAsset) (d : Desktop) (adapter : LanAdapter),
    Reachable (events lib cipher) ⟨.new,d⟩ adapter → adapter.staging.files upload.tempName = none →
    Paired adapter.desktop.store desktop →
    (desktop.encryptionEnabled = true → Understands cipher phone upload desktop asset) →
    uploadAssetInternal lib cipher phone upload desktop asset adapter = delivered lib upload desktop asset := by
  intro all
  have same := all sampleLibraries sampleCipher samplePhone sampleUpload (sampleRecord false) (sampleAsset [])
    sampleDesktop ⟨.new,sampleDesktop⟩ reaches_refl rfl sample_paired nofun
  rw [upload_refused rfl rfl] at same
  simp [delivered] at same

theorem sample_json (fields : Fields) : samplePhone.jsonData fields = sampleStartData := by
  simp only [samplePhone]

theorem sample_understood :
    Understands sampleCipher samplePhone sampleUpload ((sampleRecord false).withEncryption true) (sampleAsset [97]) := by
  have record : (sampleRecord false).withEncryption true = sampleRecord true := rfl
  have loads : ∀ text, sampleCipher.loads text = if text = sampleStartData then
      some (.object (startRequest sampleUpload (sampleRecord true) (sampleAsset [97]))) else none := fun _ => rfl
  rw [record]
  have size : transferAssetChunkSizeBytes (sampleRecord true) = 5242851 := by decide
  have pieces : readChunks 5242851 [97] = [[97]] := by
    rw [readChunks,dif_neg (by simp),readChunks,dif_pos (.inl (by simp))]
    rfl
  have key : strip (sampleRecord true).sharedKeyBase64 = "trust-key" := by
    show strip "trust-key" = "trust-key"
    decide +kernel
  refine ⟨?_,?_,?_,?_⟩
  · rw [key]
    refine ⟨by decide,by decide +kernel,by decide +kernel⟩
  · rw [sample_json,loads,if_pos rfl]
  · intro n chunk member
    rw [key]
    have only : chunk = [97] := by
      rw [size] at member
      have member : chunk ∈ [97] :: readChunks 5242851 [97] := member
      rw [pieces] at member
      simpa using member
    subst only
    refine ⟨?_,?_,?_⟩
    · show sampleNonce.length = encryptedBinaryNonceBytes
      decide
    · show sampleSealedChunk.length = 17
      rfl
    · show sampleCipher.decrypt "trust-key" sampleNonce (samplePhone.sealBox "trust-key" sampleNonce [97]) = some [97]
      decide +kernel
  · have decodes : ∀ text, sampleCipher.urlsafeB64decode text =
        if text = mobileBase64URLEncodedString sampleNonce then some sampleNonce
        else if text = mobileBase64URLEncodedString sampleSealedStart then some sampleSealedStart else none := fun _ => rfl
    have other : mobileBase64URLEncodedString sampleSealedStart ≠ mobileBase64URLEncodedString sampleNonce := by
      intro same
      exact absurd (Base64.encode_injective _ _ (String.ofList_injective same)) (by decide)
    have boxed : samplePhone.sealBox "trust-key" sampleNonce sampleStartData = sampleSealedStart := by decide +kernel
    intro data which
    have nonce : sampleUpload.startNonce = sampleNonce := rfl
    rw [key,sample_json,nonce,boxed] at which
    rcases which with same | same
    · rw [same,decodes,if_pos rfl]
    · rw [same,decodes,if_neg other,if_pos rfl]

theorem one_byte_delivered :
    uploadAssetInternal sampleLibraries sampleCipher samplePhone sampleUpload ((sampleRecord false).withEncryption false)
      (sampleAsset [97]) ⟨.new,sampleDesktop⟩ = delivered sampleLibraries sampleUpload (sampleRecord false) (sampleAsset [97]) ∧
    uploadAssetInternal sampleLibraries sampleCipher samplePhone sampleUpload ((sampleRecord false).withEncryption true)
      (sampleAsset [97]) ⟨.new,sampleDesktop⟩ = delivered sampleLibraries sampleUpload (sampleRecord false) (sampleAsset [97]) := by
  have each := @file_delivered sampleLibraries sampleCipher samplePhone sampleUpload (sampleRecord false)
    (sampleAsset [97]) ⟨.new,sampleDesktop⟩ sampleDesktop reaches_refl rfl sample_paired sample_understood
  have delivers := fun enabled => (each.1 enabled).mpr (.inr (by simp [sampleAsset]))
  exact ⟨delivers false,delivers true⟩

end ImageSearch.PhoneUploads
