import ImageSearch.LanUploads
import ImageSearch.StagedContents

namespace ImageSearch.DiskFullUploads
open Payload Tables Transitions BackupState MobileStore TransferService UploadOutcomes StagedUploads StagedContents LanUploads

-- Besides its own requests: whatever else changes the desktop, and the server's stop.
inductive Event where
  | post (post : Post)
  | desktop (desktop : Desktop)
  | stop (faults : FileFaults)

def offers (adapter : LanAdapter) : Event → Bool
  | .post post => match post.message with
    | .start _ => (adapter.staging.files post.name).isNone
    | _ => true
  | _ => true

def advance (lib : Libraries) (cipher : Cipher) (adapter : LanAdapter) : Event → LanAdapter
  | .post post => (doPost lib cipher adapter post).2
  | .desktop desktop => {adapter with desktop}
  | .stop faults => {adapter with staging:=(adapter.staging.clear faults).2}

def events (lib : Libraries) (cipher : Cipher) : System LanAdapter Event where
  step adapter event := if offers adapter event then some (advance lib cipher adapter event) else none

-- What the start message of the upload carried: the metadata, and the key of its chunks.
def uploadOf (cipher : Cipher) (adapter : LanAdapter) (post : Post) : Option (Fields × Option String) :=
  match post.message with
  | .start requestPayload => (startMetadata cipher adapter.desktop.store requestPayload).toOption
  | _ => (adapter.staging.pending? post.requestId).map fun pending =>
      (pending.metadataPayload,pending.encryptionTrustKeyB64)

-- The chunk that a POST hands to the stream, if it gets that far.
def receivedChunk (cipher : Cipher) (adapter : LanAdapter) (post : Post) (contentLength : Option Int)
    (read : Except OSError Bytes) : Option Bytes :=
  match refuseChunkLength contentLength,read with
  | none,.ok received =>
    if contentLength ≠ some (received.length : Int) then none
    else (decryptChunk cipher (adapter.staging.encryptionTrustKey (some post.requestId)) received).toOption
  | _,_ => none

-- The error the temporary-file layer raises in the phase the POST is.
def raisedIn (lib : Libraries) (cipher : Cipher) (adapter : LanAdapter) (post : Post) : Option OSError :=
  match post.message with
  | .start requestPayload => match startMetadata cipher adapter.desktop.store requestPayload with
    | .error _ => none
    | .ok (metadataPayload,key) =>
      (adapter.staging.start post.requestId metadataPayload key false post.name post.fileFaults).1
  | .chunk contentLength read => match receivedChunk cipher adapter post contentLength read with
    | none => none
    | some chunk => match (adapter.staging.appendChunk chunk (some post.requestId) post.fileFaults).1 with
      | .error error => some error
      | .ok _ => none
  | .complete => match (adapter.staging.complete lib post.requestId post.fileFaults).1 with
    | .error error => some error
    | .ok _ => none

-- Valid metadata with a valid proof, of a session that is transferring.
def AuthorisedFor (lib : Libraries) (store : Store) (metadataPayload : Fields) (sessionId : String) : Prop :=
  ∃ metadata context, parseTransferAssetMetadata lib metadataPayload = .ok metadata ∧
    metadata.schema = mobileTransferSchema ∧ metadata.sessionId = sessionId ∧
    authoriseTransfer lib store assetProofPurpose [.transferring] metadata.schema metadata.sessionId metadata.deviceUuid
      metadata.trustProof = .ok (some context)

structure FailsVisibly (sessionId requestId : String) (answered : HttpResponse × LanAdapter) : Prop where
  status : answered.1.statusCode = 507
  code : Payload.get answered.1.payload "failure_code" = .string failureCodeDiskFull
  session : ∃ row, answered.2.desktop.store.sessions.find? sessionId = some row ∧ row.status = .failed
  gone : answered.2.staging.pending? requestId = none

-- Where the error leaves the adapter with what it needs: at a start that had created its
-- file or had no earlier upload of the id, at a chunk whose upload's handle then closes.
def Recovers (adapter : LanAdapter) (post : Post) : Prop :=
  match post.message with
  | .start _ => post.fileFaults.create = none ∨ adapter.staging.pending? post.requestId = none
  | .chunk _ _ => ∀ pending ∈ adapter.staging.pending? post.requestId,
      post.fileFaults.close pending.tempFilePath = none
  | .complete => False

variable {lib : Libraries} {cipher : Cipher} {adapter next : LanAdapter} {post : Post} {event : Event} {error : OSError}
  {metadataPayload : Fields} {key : Option String} {sessionId requestId name : String} {d : Desktop} {now : DateTime}
  {staging after : Staging} {faults : FileFaults} {pending fresh : PendingUpload}

-- Every key was used once already, to decrypt the metadata it came with.
def Usable (key : Option String) : Prop := ∀ text ∈ key, strip text ≠ ""

def Keyed (staging : Staging) : Prop := ∀ pending ∈ staging.pendingByRequestId.rows, Usable pending.encryptionTrustKeyB64

theorem decrypted_usable {payload decrypted : Fields} {text : String}
    (done : decryptMobileJsonPayload cipher payload text = .ok decrypted) : strip text ≠ "" := by
  unfold decryptMobileJsonPayload at done
  obtain ⟨nonce,-,done⟩ := bind_parts done
  split at done
  · cases done
  · obtain ⟨-,-,done⟩ := bind_parts done
    obtain ⟨ciphertext,-,done⟩ := bind_parts done
    obtain ⟨derived,derives,-⟩ := bind_parts done
    unfold deriveMobileEncryptionKey at derives
    split at derives
    · cases derives
    · assumption

theorem start_usable {store : Store} {requestPayload : Fields}
    (prepared : startMetadata cipher store requestPayload = .ok (metadataPayload,key)) : Usable key := by
  unfold startMetadata at prepared
  dsimp only at prepared
  split at prepared
  · unfold decryptTransferAssetStreamMetadata at prepared
    split at prepared
    · cases prepared
    · split at prepared
      · cases prepared
      · rename_i text _
        cases outcome : decryptMobileJsonPayload cipher
            (requestPayload.filter fun field => field.1 ≠ AssetUploadStream.transferAssetStreamStateField && field.1 ≠ "chunk_size")
            text with
        | error message => rw [outcome] at prepared; cases prepared
        | ok decrypted =>
            rw [outcome] at prepared
            cases prepared
            intro given member
            cases member
            exact decrypted_usable outcome
  · cases prepared
    intro given member
    cases member

theorem keyed_subset (keyed : Keyed staging)
    (subset : ∀ pending ∈ after.pendingByRequestId.rows, pending ∈ staging.pendingByRequestId.rows) : Keyed after :=
  fun pending member => keyed pending (subset pending member)

theorem keyed_pop (keyed : Keyed staging) : Keyed (staging.pop requestId) :=
  keyed_subset keyed fun _ member => (mem_pop.mp member).1

theorem keyed_put (keyed : Keyed staging) (usable : Usable fresh.encryptionTrustKeyB64) : Keyed (staging.put fresh) := by
  intro pending member
  rcases mem_upsert member with rfl | ⟨old,-⟩ | ⟨old,-,-,rfl⟩
  · exact usable
  · exact keyed pending old
  · exact usable

theorem keyed_register (keyed : Keyed staging) (usable : Usable fresh.encryptionTrustKeyB64) :
    Keyed (staging.register fresh faults).2 := by
  unfold Staging.register
  split
  · exact keyed_put keyed usable
  · rename_i existing found
    have popped : Keyed (staging.pop fresh.requestId) := keyed_pop keyed
    dsimp only
    split
    · exact popped
    · rename_i closed _
      have closed : Keyed {staging.pop fresh.requestId with files:=closed} := popped
      exact keyed_put closed usable

theorem keyed_start (keyed : Keyed staging) (usable : Usable key) :
    Keyed (staging.start requestId metadataPayload key false name faults).2 := by
  unfold Staging.start
  split
  · exact keyed
  · have created : Keyed {staging with files:=Function.update staging.files name (some [])} := keyed
    exact keyed_register created usable

theorem keyed_append {chunk : Bytes} {given : Option String} (keyed : Keyed staging) :
    Keyed (staging.appendChunk chunk given faults).2 := by
  rcases @append_parts staging faults chunk given with ⟨same,-⟩ | ⟨pending,found,result⟩
  · rwa [same]
  · have member := (resolve_mem found).2
    rw [result]
    intro other present
    rcases appendTo_mem member present with rfl | ⟨old,-⟩
    · have same : (pending.appendChunk chunk faults.write).2.encryptionTrustKeyB64 = pending.encryptionTrustKeyB64 := by
        cases faults.write <;> rfl
      rw [same]
      exact keyed pending member
    · exact keyed other old

theorem keyed_complete (keyed : Keyed staging) : Keyed (staging.complete lib requestId faults).2 := by
  unfold Staging.complete
  split
  · exact keyed
  · have popped : Keyed (staging.pop requestId) := keyed_pop keyed
    exact popped

theorem keyed_discard (keyed : Keyed staging) : Keyed (staging.discard requestId faults).2 := by
  unfold Staging.discard
  split
  · exact keyed
  · have popped : Keyed (staging.pop requestId) := keyed_pop keyed
    dsimp only
    split <;> exact popped

-- An invariant of the staged uploads that every use of the stream keeps; `usable` is
-- what it needs of the key that a start message comes with.
structure KeptByStream (lib : Libraries) (cipher : Cipher) (invariant : Staging → Prop) (usable : Option String → Prop) :
    Prop where
  new : invariant .new
  prepared : ∀ {store requestPayload metadataPayload key},
    startMetadata cipher store requestPayload = .ok (metadataPayload,key) → usable key
  start : ∀ {staging requestId metadataPayload key name faults}, invariant staging → usable key →
    staging.files name = none → invariant (staging.start requestId metadataPayload key false name faults).2
  append : ∀ {staging chunk requestId faults}, invariant staging → invariant (staging.appendChunk chunk requestId faults).2
  complete : ∀ {staging requestId faults}, invariant staging → invariant (staging.complete lib requestId faults).2
  given : ∀ {staging after requestId faults payload}, invariant staging →
    staging.complete lib requestId faults = (.ok (.ok payload),after) →
    invariant {after with files:=Function.update after.files payload.tempFilePath none}
  discard : ∀ {staging requestId faults}, invariant staging → invariant (staging.discard requestId faults).2
  clear : ∀ {staging : Staging} {faults}, invariant (staging.clear faults).2

variable {invariant : Staging → Prop} {usable : Option String → Prop}

theorem kept_error {given : Option String} {metadata : Option Fields} (kept : KeptByStream lib cipher invariant usable)
    (holds : invariant adapter.staging) :
    invariant (writeTransferAssetStreamErrorResponse lib adapter post given metadata error key).2.staging := by
  unfold writeTransferAssetStreamErrorResponse
  dsimp only
  split
  · split <;> exact holds
  · rename_i requestId
    have discarded : invariant (adapter.staging.discard requestId post.fileFaults).2 := kept.discard holds
    split
    · rename_i outcome
      rw [outcome] at discarded
      exact discarded
    · rename_i outcome
      rw [outcome] at discarded
      split <;> exact discarded

theorem kept_stream_start {requestPayload : Fields} (kept : KeptByStream lib cipher invariant usable)
    (holds : invariant adapter.staging) (free : adapter.staging.files post.name = none) :
    invariant (handleStreamStart lib cipher adapter post requestPayload).2.staging := by
  unfold handleStreamStart
  split
  · exact holds
  · rename_i metadataPayload key prepared
    have started : invariant (adapter.staging.start post.requestId metadataPayload key false post.name post.fileFaults).2 :=
      kept.start holds (kept.prepared prepared) free
    split
    · rename_i outcome
      rw [outcome] at started
      apply kept_error kept
      exact started
    · rename_i outcome
      rw [outcome] at started
      exact started

theorem kept_stream_chunk {contentLength : Option Int} {read : Except OSError Bytes}
    (kept : KeptByStream lib cipher invariant usable) (holds : invariant adapter.staging) :
    invariant (handleStreamChunk lib cipher adapter post contentLength read).2.staging := by
  unfold handleStreamChunk
  split
  · exact holds
  · split
    · exact kept_error kept holds
    · split
      · exact holds
      · dsimp only
        split
        · exact holds
        · rename_i chunk _
          have appended : invariant (adapter.staging.appendChunk chunk (some post.requestId) post.fileFaults).2 :=
            kept.append holds
          split
          · rename_i outcome
            rw [outcome] at appended
            apply kept_error kept
            exact appended
          · rename_i outcome
            rw [outcome] at appended
            exact appended
          · rename_i outcome
            rw [outcome] at appended
            exact appended

theorem kept_stream_complete (kept : KeptByStream lib cipher invariant usable) (holds : invariant adapter.staging) :
    invariant (handleStreamComplete lib adapter post).2.staging := by
  have completed : invariant (adapter.staging.complete lib post.requestId post.fileFaults).2 := kept.complete holds
  unfold handleStreamComplete
  split
  · rename_i outcome
    rw [outcome] at completed
    apply kept_error kept
    exact completed
  · rename_i outcome
    rw [outcome] at completed
    exact completed
  · rename_i staging payload outcome
    have handed := kept.given holds outcome
    unfold dispatchTransferAsset
    dsimp only
    split
    · exact handed
    · split
      · exact handed
      · exact handed
      · split <;> exact handed

theorem kept_post (kept : KeptByStream lib cipher invariant usable) (holds : invariant adapter.staging)
    (offered : offers adapter (.post post) = true) : invariant (doPost lib cipher adapter post).2.staging := by
  unfold doPost
  dsimp only
  cases message : post.message with
  | start requestPayload =>
      have free : adapter.staging.files post.name = none := by simpa [offers,message] using offered
      have handled : invariant (handleStreamStart lib cipher adapter post requestPayload).2.staging :=
        kept_stream_start kept holds free
      dsimp only
      split <;> rename_i outcome <;> rw [outcome] at handled <;> exact handled
  | chunk contentLength read =>
      have handled : invariant (handleStreamChunk lib cipher adapter post contentLength read).2.staging :=
        kept_stream_chunk kept holds
      dsimp only
      split <;> rename_i outcome <;> rw [outcome] at handled <;> exact handled
  | complete =>
      have handled : invariant (handleStreamComplete lib adapter post).2.staging := kept_stream_complete kept holds
      dsimp only
      split <;> rename_i outcome <;> rw [outcome] at handled <;> exact handled

theorem kept_step (kept : KeptByStream lib cipher invariant usable) (holds : invariant adapter.staging)
    (taken : (events lib cipher).step adapter event = some next) : invariant next.staging := by
  have taken : (if offers adapter event then some (advance lib cipher adapter event) else none) = some next := taken
  split at taken
  · rename_i offered
    cases taken
    cases event with
    | post post => exact kept_post kept holds offered
    | desktop desktop => exact holds
    | stop faults => exact kept.clear
  · cases taken

theorem kept_reaches (kept : KeptByStream lib cipher invariant usable)
    (path : Reachable (events lib cipher) ⟨.new,d⟩ adapter) : invariant adapter.staging :=
  @reaches_preserves _ _ _ _ _ _ (fun adapter : LanAdapter => invariant adapter.staging)
    (fun _ _ _ holds _ taken => kept_step kept holds taken) kept.new path

theorem keyed_kept : KeptByStream lib cipher Keyed Usable where
  new _ member := absurd member (List.not_mem_nil)
  prepared := start_usable
  start keyed usable _ := keyed_start keyed usable
  append := keyed_append
  complete := keyed_complete
  given {staging after requestId faults payload} keyed outcome := by
    have completed : Keyed (staging.complete lib requestId faults).2 := keyed_complete keyed
    rw [outcome] at completed
    exact completed
  discard := keyed_discard
  clear _ member := absurd member (List.not_mem_nil)

theorem keyed_reaches (path : Reachable (events lib cipher) ⟨.new,d⟩ adapter) : Keyed adapter.staging :=
  kept_reaches keyed_kept path

theorem stream_error_fails (authorised : AuthorisedFor lib d.store metadataPayload sessionId)
    (full : isDiskFullOsError error = true) :
    ∃ marked, handleAssetUploadStreamError lib (some metadataPayload) error now d = (.ok diskFullRejected,marked) ∧
      ∃ row, marked.store.sessions.find? sessionId = some row ∧ row.status = .failed := by
  obtain ⟨metadata,context,parsed,schema,rfl,granted⟩ := authorised
  obtain ⟨located,-⟩ := authorise_parts granted
  obtain ⟨session,device,folder,found,owner,-,-,made⟩ := context_parts located
  have checked : checkStreamError lib d.store (some metadataPayload) error = .ok context := by
    simp [checkStreamError,full,parsed,schema]
    rw [schema] at granted
    rw [granted]
  have resolved : resolveNextBackupState context.folderTransferState .transferFailed .transferInProgress =
      some .transferFailed := resolve_ended _ rfl (by decide)
  have answer : streamErrorResponse error = diskFullRejected := by simp [streamErrorResponse,full]
  unfold handleAssetUploadStreamError
  rw [checked]
  simp only [failTransfer,markTransferFailed,resolved,answer]
  refine ⟨_,rfl,?_⟩
  have ids : context.sessionId = metadata.sessionId ∧ context.deviceUuid = metadata.deviceUuid := by rw [made]; exact ⟨rfl,rfl⟩
  refine ⟨_,by rw [update_find,ids.1,ids.2,found]; rfl,?_⟩
  simp [(find_mem found).2,owner]

theorem locator_present (authorised : AuthorisedFor lib d.store metadataPayload sessionId) :
    ∃ locator, transferResponseLocatorFields (some metadataPayload) = some locator := by
  obtain ⟨metadata,context,parsed,-⟩ := authorised
  unfold parseTransferAssetMetadata at parsed
  obtain ⟨schema,-,parsed⟩ := bind_parts parsed
  obtain ⟨session,named,-⟩ := bind_parts parsed
  unfold requireNonEmptyString at named
  split at named
  · rename_i value found
    split at named
    · cases named
    · rename_i present
      exact ⟨strip value,by simp [transferResponseLocatorFields,found,present]⟩
  · cases named

theorem response_written (usable : Usable key) {locator : String} (statusCode : Nat) (payload : Fields) :
    (writeJsonResponse statusCode payload key (some locator)).statusCode = statusCode ∧
      (writeJsonResponse statusCode payload key (some locator)).payload = payload := by
  cases key with
  | none => exact ⟨rfl,rfl⟩
  | some text => simp [writeJsonResponse,deriveMobileEncryptionKey,usable text rfl]

-- An error that reaches the service with its metadata is answered as the disk's being full.
theorem error_answered (authorised : AuthorisedFor lib d.store metadataPayload sessionId)
    (full : isDiskFullOsError error = true) (usable : Usable key) :
    ∃ response marked, handleAssetUploadStreamError lib (some metadataPayload) error now d = (.ok response,marked) ∧
      (writeJsonResponse response.statusCode response.payload key
        (transferResponseLocatorFields (some metadataPayload))).statusCode = 507 ∧
      (writeJsonResponse response.statusCode response.payload key
        (transferResponseLocatorFields (some metadataPayload))).payload = diskFullRejected.payload ∧
      ∃ row, marked.store.sessions.find? sessionId = some row ∧ row.status = .failed := by
  obtain ⟨marked,handled,row⟩ := @stream_error_fails lib error metadataPayload sessionId d now authorised full
  obtain ⟨locator,located⟩ := locator_present authorised
  refine ⟨diskFullRejected,marked,handled,?_,?_,row⟩ <;> rw [located]
  · exact (response_written usable 507 diskFullRejected.payload).1
  · exact (response_written usable 507 diskFullRejected.payload).2

theorem pop_gone : ∀ {active : Option String} {files : TempFiles},
    Staging.pending? ⟨(staging.pop requestId).pendingByRequestId,active,files⟩ requestId = none := pop_absent

theorem start_raised (raised : (staging.start requestId metadataPayload key false name faults).1 = some error) :
    (faults.create ≠ none ∧ (staging.start requestId metadataPayload key false name faults).2 = staging) ∨
      (faults.create = none ∧
        (staging.start requestId metadataPayload key false name faults).2.pending? requestId = none) := by
  unfold Staging.start at raised ⊢
  split at raised
  · rename_i failed
    exact .inl ⟨by simp [failed],rfl⟩
  · rename_i created
    refine .inr ⟨created,?_⟩
    dsimp only
    rw [if_neg (by decide)] at raised ⊢
    unfold Staging.register at raised ⊢
    split at raised
    · cases raised
    · dsimp only
      split at raised
      · rename_i failed
        rw [failed]
        exact pop_gone
      · cases raised

theorem doPost_start {requestPayload : Fields} (message : post.message = .start requestPayload) {response : HttpResponse}
    {answered : LanAdapter} (handled : handleStreamStart lib cipher adapter post requestPayload = (.ok response,answered)) :
    doPost lib cipher adapter post = (response,answered) := by
  simp [doPost,message,handled]

theorem start_exact {requestPayload : Fields} (message : post.message = .start requestPayload)
    (carried : startMetadata cipher adapter.desktop.store requestPayload = .ok (metadataPayload,key))
    (authorised : AuthorisedFor lib adapter.desktop.store metadataPayload sessionId)
    (raised : (adapter.staging.start post.requestId metadataPayload key false post.name post.fileFaults).1 = some error)
    (full : isDiskFullOsError error = true) :
    FailsVisibly sessionId post.requestId (doPost lib cipher adapter post) ↔
      (post.fileFaults.create = none ∨ adapter.staging.pending? post.requestId = none) := by
  obtain ⟨response,marked,handled,status,payload,row⟩ :=
    @error_answered lib error metadataPayload key sessionId adapter.desktop post.now authorised full (start_usable carried)
  obtain ⟨staging,left⟩ : ∃ staging,
      (adapter.staging.start post.requestId metadataPayload key false post.name post.fileFaults).2 = staging := ⟨_,rfl⟩
  have outcome : adapter.staging.start post.requestId metadataPayload key false post.name post.fileFaults =
      (some error,staging) := Prod.ext raised left
  have answered : doPost lib cipher adapter post = (writeJsonResponse response.statusCode response.payload key
      (transferResponseLocatorFields (some metadataPayload)),⟨staging,marked⟩) := by
    apply doPost_start message
    simp only [handleStreamStart,carried,outcome,writeTransferAssetStreamErrorResponse,handled]
  have visible : staging.pending? post.requestId = none →
      FailsVisibly sessionId post.requestId (doPost lib cipher adapter post) := by
    intro gone
    rw [answered]
    refine ⟨status,?_,row,gone⟩
    rw [payload]
    rfl
  rcases start_raised raised with ⟨failed,same⟩ | ⟨created,gone⟩
  · rw [left] at same
    subst same
    constructor
    · intro fails
      have gone := fails.gone
      rw [answered] at gone
      exact .inr gone
    · rintro (created | gone)
      · exact absurd created failed
      · exact visible gone
  · rw [left] at gone
    exact ⟨fun _ => .inl created,fun _ => visible gone⟩

theorem append_raised {chunk : Bytes} (raised : (staging.appendChunk chunk (some requestId) faults).1 = .error error) :
    ∃ pending, staging.pending? requestId = some pending ∧
      (staging.appendChunk chunk (some requestId) faults).2.pending? requestId =
        some (pending.appendChunk chunk faults.write).2 := by
  rcases @append_parts staging faults chunk (some requestId) with ⟨-,-⟩ | ⟨pending,found,result⟩
  · unfold Staging.appendChunk at raised ⊢
    split at raised
    · cases raised
    · split at raised
      · cases raised
      · split at raised
        · cases raised
        · rename_i empty large _ pending found
          have located : staging.pending? requestId = some pending := found
          obtain ⟨-,rfl⟩ := pending_mem located
          refine ⟨pending,located,?_⟩
          rw [if_neg empty,if_neg large]
          exact appendTo_found located
  · have located : staging.pending? requestId = some pending := found
    obtain ⟨-,rfl⟩ := pending_mem located
    exact ⟨pending,located,by rw [result]; exact appendTo_found located⟩

theorem discard_failed (found : staging.pending? requestId = some pending)
    (fails : faults.close pending.tempFilePath = some error) : (staging.discard requestId faults).1 = .error error := by
  simp [Staging.discard,found,PendingUpload.close,fails]

theorem discard_closed (found : staging.pending? requestId = some pending)
    (closes : faults.close pending.tempFilePath = none) :
    ∃ after, staging.discard requestId faults = (.ok (some pending.metadataPayload),after) ∧
      after.pending? requestId = none := by
  refine ⟨{staging.forget requestId with files:=(pending.close faults staging.files).2},?_,pop_gone⟩
  simp [Staging.discard,found,PendingUpload.close,closes]

theorem unhandled_status : unhandledResponse.statusCode = 500 := rfl

theorem chunk_exact {contentLength : Option Int} {read : Except OSError Bytes} {chunk : Bytes}
    (message : post.message = .chunk contentLength read)
    (received : receivedChunk cipher adapter post contentLength read = some chunk)
    (found : adapter.staging.pending? post.requestId = some pending) (usable : Usable pending.encryptionTrustKeyB64)
    (authorised : AuthorisedFor lib adapter.desktop.store pending.metadataPayload sessionId)
    (raised : (adapter.staging.appendChunk chunk (some post.requestId) post.fileFaults).1 = .error error)
    (full : isDiskFullOsError error = true) :
    FailsVisibly sessionId post.requestId (doPost lib cipher adapter post) ↔
      post.fileFaults.close pending.tempFilePath = none := by
  obtain ⟨staging,left⟩ : ∃ staging,
      (adapter.staging.appendChunk chunk (some post.requestId) post.fileFaults).2 = staging := ⟨_,rfl⟩
  have outcome : adapter.staging.appendChunk chunk (some post.requestId) post.fileFaults = (.error error,staging) :=
    Prod.ext raised left
  obtain ⟨other,same,appended⟩ := append_raised raised
  rw [found] at same
  cases same
  rw [left] at appended
  -- The handler is left with the error helper alone.
  have handled : handleStreamChunk lib cipher adapter post contentLength read =
      writeTransferAssetStreamErrorResponse lib {adapter with staging} post (some post.requestId) none error
        (adapter.staging.encryptionTrustKey (some post.requestId)) := by
    unfold receivedChunk at received
    split at received
    · rename_i bytes accepted
      split at received
      · cases received
      · rename_i whole
        cases decrypted : decryptChunk cipher (adapter.staging.encryptionTrustKey (some post.requestId)) bytes with
        | error problem => rw [decrypted] at received; cases received
        | ok plain =>
            rw [decrypted] at received
            cases received
            unfold handleStreamChunk
            simp only [accepted,if_neg whole,decrypted,outcome]
    · cases received
  have key : adapter.staging.encryptionTrustKey (some post.requestId) = pending.encryptionTrustKeyB64 := by
    simp [Staging.encryptionTrustKey,Staging.resolve,found]
  have path : (pending.appendChunk chunk post.fileFaults.write).2.tempFilePath = pending.tempFilePath := appended_path _
  have metadata : (pending.appendChunk chunk post.fileFaults.write).2.metadataPayload = pending.metadataPayload := by
    cases post.fileFaults.write <;> rfl
  have later : staging.encryptionTrustKey (some post.requestId) = pending.encryptionTrustKeyB64 := by
    have kept : (pending.appendChunk chunk post.fileFaults.write).2.encryptionTrustKeyB64 = pending.encryptionTrustKeyB64 := by
      cases post.fileFaults.write <;> rfl
    simp [Staging.encryptionTrustKey,Staging.resolve,appended,kept]
  cases closes : post.fileFaults.close pending.tempFilePath with
  | some second =>
      refine ⟨fun fails => ?_,fun closed => by cases closed⟩
      have failed := discard_failed appended (path.symm ▸ closes)
      have status : (doPost lib cipher adapter post).1 = unhandledResponse := by
        obtain ⟨discarded,there⟩ : ∃ discarded, staging.discard post.requestId post.fileFaults = (.error second,discarded) :=
          ⟨_,Prod.ext failed rfl⟩
        simp [doPost,message,handled,writeTransferAssetStreamErrorResponse,there]
      have visible := fails.status
      rw [status,unhandled_status] at visible
      cases visible
  | none =>
      refine ⟨fun _ => rfl,fun _ => ?_⟩
      obtain ⟨after,discarded,gone⟩ := discard_closed appended (path.symm ▸ closes)
      obtain ⟨response,marked,answered,status,payload,row⟩ :=
        @error_answered lib error pending.metadataPayload pending.encryptionTrustKeyB64 sessionId adapter.desktop post.now
          authorised full usable
      have either : pending.encryptionTrustKeyB64.or pending.encryptionTrustKeyB64 = pending.encryptionTrustKeyB64 := by
        cases pending.encryptionTrustKeyB64 <;> rfl
      have result : doPost lib cipher adapter post = (writeJsonResponse response.statusCode response.payload
          pending.encryptionTrustKeyB64 (transferResponseLocatorFields (some pending.metadataPayload)),⟨after,marked⟩) := by
        simp only [doPost,message,handled,writeTransferAssetStreamErrorResponse,discarded,key,later,metadata,Option.none_or,
          answered,either]
      rw [result]
      refine ⟨status,?_,row,gone⟩
      rw [payload]
      rfl

-- A completion has taken the upload out before it flushes: its metadata is gone, and
-- the session stays as it is.
theorem complete_exact (message : post.message = .complete)
    (found : adapter.staging.pending? post.requestId = some pending)
    (authorised : AuthorisedFor lib adapter.desktop.store metadataPayload sessionId)
    (raised : (adapter.staging.complete lib post.requestId post.fileFaults).1 = .error error)
    (full : isDiskFullOsError error = true) : ¬ FailsVisibly sessionId post.requestId (doPost lib cipher adapter post) := by
  intro fails
  obtain ⟨staging,left⟩ : ∃ staging, (adapter.staging.complete lib post.requestId post.fileFaults).2 = staging := ⟨_,rfl⟩
  have outcome : adapter.staging.complete lib post.requestId post.fileFaults = (.error error,staging) := Prod.ext raised left
  have gone : staging.pending? post.requestId = none := by
    rw [← left]
    unfold Staging.complete
    rw [found]
    exact pop_gone
  have discarded : staging.discard post.requestId post.fileFaults = (.ok none,staging) := by
    simp [Staging.discard,gone]
  have handled : handleAssetUploadStreamError lib none error post.now adapter.desktop =
      (.ok (streamErrorResponse error),adapter.desktop) := by
    simp [handleAssetUploadStreamError,checkStreamError,full]
  have kept : (doPost lib cipher adapter post).2.desktop = adapter.desktop := by
    simp [doPost,message,handleStreamComplete,outcome,writeTransferAssetStreamErrorResponse,discarded,handled]
  obtain ⟨row,there,failed⟩ := fails.session
  rw [kept] at there
  obtain ⟨metadata,context,-,-,rfl,granted⟩ := authorised
  obtain ⟨located,status⟩ := authorise_parts granted
  obtain ⟨session,device,folder,stored,-,-,-,made⟩ := context_parts located
  rw [stored] at there
  cases there
  rw [made] at status
  have transferring := List.mem_singleton.mp status
  rw [failed] at transferring
  cases transferring

-- Exactly these errors of the temporary-file layer fail the session visibly.
theorem disk_full_fails_visibly (path : Reachable (events lib cipher) ⟨.new,d⟩ adapter)
    (carried : uploadOf cipher adapter post = some (metadataPayload,key))
    (authorised : AuthorisedFor lib adapter.desktop.store metadataPayload sessionId)
    (raised : raisedIn lib cipher adapter post = some error) (full : isDiskFullOsError error = true) :
    FailsVisibly sessionId post.requestId (doPost lib cipher adapter post) ↔ Recovers adapter post := by
  have keyed := keyed_reaches path
  unfold uploadOf at carried
  unfold raisedIn at raised
  unfold Recovers
  cases message : post.message with
  | start requestPayload =>
      rw [message] at carried raised
      dsimp only at carried raised
      cases prepared : startMetadata cipher adapter.desktop.store requestPayload with
      | error problem => rw [prepared] at carried; cases carried
      | ok upload =>
          rw [prepared] at carried raised
          cases carried
          exact start_exact message prepared authorised raised full
  | chunk contentLength read =>
      rw [message] at carried raised
      dsimp only at carried raised
      obtain ⟨pending,found,made⟩ := Option.map_eq_some_iff.mp carried
      cases made
      split at raised
      · cases raised
      · rename_i chunk received
        split at raised
        · rename_i problem failed
          cases raised
          have exact_ := chunk_exact message received found (keyed pending (pending_mem found).1) authorised failed full
          simpa [found] using exact_
        · cases raised
  | complete =>
      rw [message] at carried raised
      dsimp only at carried raised
      obtain ⟨pending,found,made⟩ := Option.map_eq_some_iff.mp carried
      split at raised
      · rename_i problem failed
        cases raised
        exact iff_of_false (complete_exact message found authorised failed full) id
      · cases raised

def authorised (lib : Libraries) (store : Store) (metadataPayload : Fields) (sessionId : String) : Bool :=
  match parseTransferAssetMetadata lib metadataPayload with
  | .ok metadata => metadata.schema == mobileTransferSchema && metadata.sessionId == sessionId &&
      match authoriseTransfer lib store assetProofPurpose [.transferring] metadata.schema metadata.sessionId
          metadata.deviceUuid metadata.trustProof with
      | .ok (some _) => true
      | _ => false
  | .error _ => false

theorem authorised_for {store : Store} (checked : authorised lib store metadataPayload sessionId = true) :
    AuthorisedFor lib store metadataPayload sessionId := by
  unfold authorised at checked
  split at checked
  · rename_i metadata parsed
    simp only [Bool.and_eq_true,beq_iff_eq] at checked
    obtain ⟨⟨schema,session⟩,granted⟩ := checked
    split at granted
    · rename_i context authorises
      exact ⟨metadata,context,parsed,schema,session,authorises⟩
    · cases granted
  · cases checked

def diskFullError : OSError := ⟨"No space left on device",some errnoNoSpace,none,[]⟩

def plainCipher : Cipher := ⟨fun _ => none,fun _ _ _ => none,fun _ => none⟩

def meets (adapter : LanAdapter) (post : Post) : Bool :=
  (uploadOf plainCipher adapter post).any (fun upload =>
    authorised sampleLibraries adapter.desktop.store upload.1 "session-1") &&
  raisedIn sampleLibraries plainCipher adapter post == some diskFullError

structure Meets (adapter : LanAdapter) (post : Post) : Prop where
  upload : ∃ metadataPayload key, uploadOf plainCipher adapter post = some (metadataPayload,key) ∧
    AuthorisedFor sampleLibraries adapter.desktop.store metadataPayload "session-1"
  raised : raisedIn sampleLibraries plainCipher adapter post = some diskFullError

theorem meets_of (checked : meets adapter post = true) : Meets adapter post := by
  simp only [meets,Bool.and_eq_true,beq_iff_eq,Option.any_eq_true] at checked
  obtain ⟨⟨⟨metadataPayload,key⟩,carried,allowed⟩,raised⟩ := checked
  exact ⟨⟨metadataPayload,key,carried,authorised_for allowed⟩,raised⟩

def visible (sessionId requestId : String) (answered : HttpResponse × LanAdapter) : Bool :=
  answered.1.statusCode == 507 &&
    (answered.2.desktop.store.sessions.find? sessionId).any (fun row => row.status == .failed) &&
    (answered.2.staging.pending? requestId).isNone

theorem fails_visible {answered : HttpResponse × LanAdapter} (fails : FailsVisibly sessionId requestId answered) :
    visible sessionId requestId answered = true := by
  obtain ⟨row,there,failed⟩ := fails.session
  simp [visible,fails.status,there,failed,fails.gone]

def samplePost (message : StreamMessage) (name : String) (fileFaults : FileFaults) : Post :=
  ⟨"1",message,name,fileFaults,1704067200000000,"0f",fun _ => none,0⟩

def digestOfA : String := "86f7e437faa5a7fce15d1ddcb9eaeaea377667b8"
def startPost (name : String) (faults : FileFaults) : Post :=
  samplePost (.start (sampleMetadata "asset-1" digestOfA)) name faults
def chunkPost (faults : FileFaults) : Post := samplePost (.chunk (some 1) (.ok [97])) "" faults
def completePost (faults : FileFaults) : Post := samplePost .complete "" faults

def creationFails : FileFaults := {noFaults with create:=some diskFullError}
def writeFails : FileFaults := {noFaults with write:=some (diskFullError,0)}
def writeAndCloseFail : FileFaults := {writeFails with close:=fun _ => some diskFullError}
def flushFails : FileFaults := {noFaults with flush:=some diskFullError}

def begun : List Event := [.post (startPost "one.part" noFaults)]

-- After a start, a second start, a chunk whose discard fails again, and a completion
-- meet a full disk; none of them is answered as the law says.
theorem disk_full_unseen : ∃ adapter, Reachable (events sampleLibraries plainCipher) ⟨.new,sampleDesktop⟩ adapter ∧
    ∀ post ∈ [startPost "two.part" creationFails,chunkPost writeAndCloseFail,completePost flushFails],
      Meets adapter post ∧ ¬ FailsVisibly "session-1" "1" (doPost sampleLibraries plainCipher adapter post) := by
  obtain ⟨adapter,path,seen⟩ := checkedRun_exhibits (events sampleLibraries plainCipher) (fun _ _ => True)
    ⟨.new,sampleDesktop⟩ begun (fun adapter =>
      [startPost "two.part" creationFails,chunkPost writeAndCloseFail,completePost flushFails].all fun post =>
        meets adapter post && !visible "session-1" "1" (doPost sampleLibraries plainCipher adapter post)) (by decide +kernel)
  refine ⟨adapter,path,fun post member => ?_⟩
  have both := List.all_eq_true.mp seen post member
  rw [Bool.and_eq_true,Bool.not_eq_true'] at both
  refine ⟨meets_of both.1,fun fails => ?_⟩
  rw [fails_visible fails] at both
  cases both.2

-- A chunk whose upload can be discarded fails the session as the law says.
theorem disk_full_fails_visibly_chunk : ∃ adapter,
    Reachable (events sampleLibraries plainCipher) ⟨.new,sampleDesktop⟩ adapter ∧ Meets adapter (chunkPost writeFails) ∧
      FailsVisibly "session-1" "1" (doPost sampleLibraries plainCipher adapter (chunkPost writeFails)) := by
  obtain ⟨adapter,path,seen⟩ := checkedRun_exhibits (events sampleLibraries plainCipher) (fun _ _ => True)
    ⟨.new,sampleDesktop⟩ begun (fun adapter => meets adapter (chunkPost writeFails)) (by decide +kernel)
  have met := meets_of seen
  obtain ⟨metadataPayload,key,carried,allowed⟩ := met.upload
  refine ⟨adapter,path,met,?_⟩
  exact (disk_full_fails_visibly path carried allowed met.raised (by decide)).mpr fun _ _ => rfl

end ImageSearch.DiskFullUploads
