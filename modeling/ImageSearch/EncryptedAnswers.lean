import ImageSearch.DesktopAnswers
import ImageSearch.PhoneUploads

namespace ImageSearch.EncryptedAnswers
open Payload Tables BackupFolder MobileStore TransferService UploadOutcomes StagedUploads StagedContents LanUploads DiskFullUploads
open DesktopAnswers ThrowingHandlers AssetUploadStream

-- The start message of the request id was decrypted under the key, whatever the desktop's store was then.
def OpenedUpload (cipher : Cipher) (key requestId : String) : Prop :=
  ∃ (store : Store) (start : Post) (requestPayload metadataPayload : Fields), start.requestId = requestId ∧
    start.message = .start requestPayload ∧ startMetadata cipher store requestPayload = .ok (metadataPayload,some key)

-- The requests of the property, with the key each was encrypted under.
def Opened (cipher : Cipher) (store : Store) (key : String) : Request → Prop
  | .operation _ operation requestPayload _ =>
    ∃ decrypted, decryptTransferPayloadIfNeeded cipher store operation requestPayload = .ok (decrypted,some key)
  | .post post => match post.message with
    | .start requestPayload => ∃ metadataPayload, startMetadata cipher store requestPayload = .ok (metadataPayload,some key)
    | _ => OpenedUpload cipher key post.requestId
  | .usbComplete _ post => OpenedUpload cipher key post.requestId

def EncryptedOut (key : String) (handled : Except Raised Answer) (answer : Option HttpResponse) : Prop :=
  ∃ object sessionId, handled = .ok object ∧ answer = some ⟨object.statusCode,object.payload,some (key,sessionId)⟩

def NamesSession (metadataPayload : Fields) : Prop := (transferResponseLocatorFields (some metadataPayload)).isSome

-- The error a start meets: its own file is not created, or the file of the upload it replaces does not close.
def startFault (staging : Staging) (post : Post) : Option OSError :=
  post.fileFaults.create.or ((staging.pending? post.requestId).bind fun pending => post.fileFaults.close pending.tempFilePath)

-- The stream still has the upload, under the key, and its metadata names a session.
structure KeptUnder (staging : Staging) (requestId key : String) (pending : PendingUpload) : Prop where
  found : staging.pending? requestId = some pending
  key : pending.encryptionTrustKeyB64 = some key
  names : NamesSession pending.metadataPayload

-- What an upload that fails with the error needs to be answered: its handle closes, and
-- the handler of the error does not throw.
def ErrorAnswered (lib : Libraries) (store : Store) (post : Post) (pending : PendingUpload) (error : OSError) : Prop :=
  post.fileFaults.close pending.tempFilePath = none ∧ ¬ StreamErrorThrows lib store pending.metadataPayload error

def WriteFails (cipher : Cipher) (key : String) (post : Post) (received : Bytes) (error : OSError) : Prop :=
  ∃ chunk taken, decryptMobileBinaryChunk cipher received key = .ok chunk ∧ chunk ≠ [] ∧
    chunk.length ≤ transferAssetStreamChunkSizeBytes ∧ post.fileFaults.write = some (error,taken)

def ChunkAnswerable (lib : Libraries) (cipher : Cipher) (store : Store) (key : String) (post : Post)
    (contentLength : Option Int) (read : Except OSError Bytes) (pending : PendingUpload) : Prop :=
  refuseChunkLength contentLength = none ∧ match read with
    | .error error => ErrorAnswered lib store post pending error
    | .ok received => contentLength = some (received.length : Int) ∧
      ∀ error, WriteFails cipher key post received error → ErrorAnswered lib store post pending error

def PendingUpload.payload (lib : Libraries) (pending : PendingUpload) : TransferAssetUploadPayload :=
  ⟨pending.metadataPayload,pending.contentLength,pending.tempFilePath,lib.sha1 pending.contentSha1,
    pending.encryptionTrustKeyB64⟩

def CompletionAnswerable (lib : Libraries) (store : Store) (post : Post) (pending : PendingUpload) : Prop :=
  post.fileFaults.flush = none ∧ post.fileFaults.close pending.tempFilePath = none ∧
    ¬ UploadThrows lib store (uploadCall post (PendingUpload.payload lib pending))

-- What a request that was encrypted under the key needs for an encrypted answer.
def Answerable (lib : Libraries) (services : Services) (cipher : Cipher) (adapter : LanAdapter) (key : String) :
    Request → Prop
  | .operation _ operation requestPayload _ =>
    ∀ decrypted, decryptTransferPayloadIfNeeded cipher adapter.desktop.store operation requestPayload =
      .ok (decrypted,some key) → ¬ operation.HandlerThrows lib services adapter.desktop.store decrypted
  | .post post => match post.message with
    | .start requestPayload =>
      ∀ metadataPayload, startMetadata cipher adapter.desktop.store requestPayload = .ok (metadataPayload,some key) →
        NamesSession metadataPayload ∧ ∀ error ∈ startFault adapter.staging post,
          ¬ StreamErrorThrows lib adapter.desktop.store metadataPayload error
    | .chunk contentLength read => ∃ pending, KeptUnder adapter.staging post.requestId key pending ∧
        ChunkAnswerable lib cipher adapter.desktop.store key post contentLength read pending
    | .complete => ∃ pending, KeptUnder adapter.staging post.requestId key pending ∧
        CompletionAnswerable lib adapter.desktop.store post pending
  | .usbComplete _ post => ∃ pending, KeptUnder adapter.staging post.requestId key pending ∧
      CompletionAnswerable lib adapter.desktop.store post pending

variable {lib : Libraries} {services : Services} {cipher : Cipher} {adapter : LanAdapter} {post : Post} {request : Request}
  {key : String} {given locator : Option String} {store : Store} {payload metadataPayload requestPayload decrypted : Fields}
  {error : OSError} {d : Desktop} {now : DateTime} {operation : Operation} {transport : Transport} {answer : Answer}
  {pending : PendingUpload} {staging : Staging} {requestId name : String} {faults : FileFaults}
  {contentLength : Option Int} {read : Except OSError Bytes}

theorem written_encrypted (usable : strip key ≠ "") {written : Except Raised Written} :
    EncryptedOut key (written.map Written.answer) (Transport.lanHttp.reply (written.map Written.response)) ↔
      ∃ done, written = .ok done ∧ done.key = some key ∧ done.locator.isSome := by
  cases written with
  | error raised =>
      refine iff_of_false ?_ ?_
      · rintro ⟨object,sessionId,failed,-⟩
        cases failed
      · rintro ⟨done,failed,-⟩
        cases failed
  | ok written =>
      obtain ⟨answer,given,locator⟩ := written
      constructor
      · rintro ⟨object,sessionId,handled,answered⟩
        refine ⟨_,rfl,?_⟩
        have answered : writeJsonResponse answer.statusCode answer.payload given locator =
            ⟨object.statusCode,object.payload,some (key,sessionId)⟩ := Option.some.inj answered
        have under := congrArg HttpResponse.encryptedFor answered
        unfold writeJsonResponse at under
        split at under
        · cases under
        · cases under
        · split at under
          · cases under
          · cases under
            exact ⟨rfl,rfl⟩
      · rintro ⟨done,equal,keyed,located⟩
        cases equal
        obtain ⟨sessionId,located⟩ := Option.isSome_iff_exists.mp located
        refine ⟨answer,sessionId,rfl,?_⟩
        have keyed : given = some key := keyed
        have located : locator = some sessionId := located
        subst keyed located
        simp [Except.map,Transport.reply,Written.response,writeJsonResponse,deriveMobileEncryptionKey,usable]

theorem stream_answered {given : Option String} : (∃ done,
    ((handleAssetUploadStreamError lib (some metadataPayload) error now d).1.map fun response =>
      (⟨⟨response.statusCode,response.payload⟩,given,transferResponseLocatorFields (some metadataPayload)⟩ : Written)) =
        .ok done ∧ done.key = some key ∧ done.locator.isSome) ↔
    given = some key ∧ NamesSession metadataPayload ∧ ¬ StreamErrorThrows lib d.store metadataPayload error := by
  have throws : Throws (handleAssetUploadStreamError lib (some metadataPayload) error now d).1 ↔ _ := stream_error_throws
  rw [← throws,← returns_iff]
  cases (handleAssetUploadStreamError lib (some metadataPayload) error now d).1 with
  | error raised => simp [Returns,Except.map]
  | ok response =>
      constructor
      · rintro ⟨done,equal,keyed,located⟩
        cases equal
        exact ⟨keyed,located,response,rfl⟩
      · rintro ⟨keyed,located,-⟩
        exact ⟨_,rfl,keyed,located⟩

theorem opened_parts (opened : decryptTransferPayloadIfNeeded cipher store operation requestPayload = .ok (decrypted,some key)) :
    strip key ≠ "" ∧ (transferResponseLocatorFields (some requestPayload)).isSome := by
  unfold decryptTransferPayloadIfNeeded at opened
  split at opened
  · cases opened
  · split at opened
    · cases opened
    · rename_i located
      split at opened
      · cases opened
      · split at opened
        · cases opened
        · rename_i done
          cases opened
          exact ⟨decrypted_usable done,by rw [located]; rfl⟩

theorem unhandled_clear {handled : Except Raised Answer} : ¬ EncryptedOut key handled transport.unhandled := by
  rintro ⟨object,sessionId,-,answered⟩
  cases transport with
  | lanHttp =>
      have under := congrArg HttpResponse.encryptedFor (Option.some.inj answered)
      cases under
  | usb _ => cases answered

theorem operation_encrypted
    (opened : decryptTransferPayloadIfNeeded cipher d.store operation requestPayload = .ok (decrypted,some key)) :
    EncryptedOut key (operation.handle lib services decrypted now d).1
      (transport.reply (dispatchOperation lib services cipher operation requestPayload now d).1) ↔
    ¬ operation.HandlerThrows lib services d.store decrypted := by
  obtain ⟨usable,named⟩ := opened_parts opened
  obtain ⟨sessionId,located⟩ : ∃ sessionId, (transferResponseLocatorFields (some decrypted)).or
      (transferResponseLocatorFields (some requestPayload)) = some sessionId := by
    obtain ⟨sessionId,named⟩ := Option.isSome_iff_exists.mp named
    cases transferResponseLocatorFields (some decrypted) with
    | none => exact ⟨sessionId,by simpa using named⟩
    | some own => exact ⟨own,rfl⟩
  have throws : Throws (operation.handle lib services decrypted now d).1 ↔ _ := operation_throws
  rw [← throws,← returns_iff]
  unfold dispatchOperation
  rw [opened]
  dsimp only
  rw [located]
  cases (operation.handle lib services decrypted now d).1 with
  | error raised =>
      refine iff_of_false unhandled_clear ?_
      rintro ⟨answer,failed⟩
      cases failed
  | ok answer =>
      refine iff_of_true ⟨answer,sessionId,rfl,?_⟩ ⟨answer,rfl⟩
      simp [Except.bind,encryptResponsePayloadIfNeeded,deriveMobileEncryptionKey,usable,Transport.reply]

theorem start_fault : (adapter.staging.start post.requestId metadataPayload given false post.name post.fileFaults).1 =
    startFault adapter.staging post := by
  unfold Staging.start startFault
  cases post.fileFaults.create with
  | some error => rfl
  | none =>
      rw [if_neg (by simp),Option.none_or]
      unfold Staging.register
      have same : ({adapter.staging with files:=Function.update adapter.staging.files post.name (some [])} : Staging).pending?
        (newUpload post.requestId metadataPayload given post.name).requestId = adapter.staging.pending? post.requestId := rfl
      rw [same]
      cases adapter.staging.pending? post.requestId with
      | none => rfl
      | some existing =>
          dsimp only [Option.bind_some]
          unfold PendingUpload.close
          cases post.fileFaults.close existing.tempFilePath <;> rfl

theorem start_encrypted (prepared : startMetadata cipher adapter.desktop.store requestPayload = .ok (metadataPayload,some key)) :
    (∃ done, startWritten lib cipher adapter post requestPayload = .ok done ∧ done.key = some key ∧ done.locator.isSome) ↔
    NamesSession metadataPayload ∧ ∀ error ∈ startFault adapter.staging post,
      ¬ StreamErrorThrows lib adapter.desktop.store metadataPayload error := by
  unfold startWritten
  rw [prepared]
  dsimp only
  rw [start_fault]
  cases startFault adapter.staging post with
  | none =>
      constructor
      · rintro ⟨done,equal,-,located⟩
        cases equal
        exact ⟨located,by simp⟩
      · exact fun names => ⟨_,rfl,rfl,names.1⟩
  | some error =>
      dsimp only
      unfold errorWritten
      dsimp only
      rw [stream_answered]
      simp

theorem key_none (absent : staging.pending? requestId = none) : staging.encryptionTrustKey (some requestId) = none := by
  simp [Staging.encryptionTrustKey,Staging.resolve,absent]

-- Without the upload there is no key to encrypt an error's answer with.
theorem error_clear (absent : adapter.staging.pending? post.requestId = none) {metadata : Option Fields} :
    ¬ ∃ done, errorWritten lib adapter post (some post.requestId) metadata error none = .ok done ∧ done.key = some key := by
  rintro ⟨done,equal,keyed⟩
  unfold errorWritten at equal
  dsimp only at equal
  rw [key_none absent] at equal
  have discarded : (adapter.staging.discard post.requestId post.fileFaults).1 = .ok none := by
    simp [Staging.discard,absent]
  rw [discarded] at equal
  dsimp only at equal
  cases outcome : (handleAssetUploadStreamError lib (metadata.or none) error post.now adapter.desktop).1 with
  | error raised =>
      rw [outcome] at equal
      cases equal
  | ok response =>
      rw [outcome] at equal
      cases equal
      cases keyed

theorem error_encrypted (found : adapter.staging.pending? post.requestId = some pending) (mine : given = none ∨
      given = pending.encryptionTrustKeyB64) :
    (∃ done, errorWritten lib adapter post (some post.requestId) none error given = .ok done ∧ done.key = some key ∧
      done.locator.isSome) ↔
    pending.encryptionTrustKeyB64 = some key ∧ NamesSession pending.metadataPayload ∧
      ErrorAnswered lib adapter.desktop.store post pending error := by
  have own : given.or (adapter.staging.encryptionTrustKey (some post.requestId)) = pending.encryptionTrustKeyB64 := by
    have held : adapter.staging.encryptionTrustKey (some post.requestId) = pending.encryptionTrustKeyB64 := by
      simp [Staging.encryptionTrustKey,Staging.resolve,found]
    rcases mine with rfl | rfl
    · rw [held,Option.none_or]
    · rw [held,Option.or_self]
  unfold errorWritten ErrorAnswered
  dsimp only
  rw [own]
  unfold Staging.discard
  rw [found]
  dsimp only [PendingUpload.close]
  cases post.fileFaults.close pending.tempFilePath with
  | some second =>
      refine iff_of_false ?_ ?_
      · rintro ⟨done,failed,-⟩
        cases failed
      · rintro ⟨-,-,failed,-⟩
        cases failed
  | none =>
      dsimp only [Option.none_or]
      rw [stream_answered]
      simp

theorem keyed_found (found : staging.pending? requestId = some pending) :
    staging.encryptionTrustKey (some requestId) = pending.encryptionTrustKeyB64 ∧
    transferResponseLocatorFields (staging.metadataPayload (some requestId)) =
      transferResponseLocatorFields (some pending.metadataPayload) := by
  simp [Staging.encryptionTrustKey,Staging.metadataPayload,Staging.resolve,found]

theorem append_result {chunk : Bytes} (found : staging.pending? requestId = some pending) :
    (∃ message, (staging.appendChunk chunk (some requestId) faults).1 = .ok message ∧
      ∀ error taken, ¬ (chunk ≠ [] ∧ chunk.length ≤ transferAssetStreamChunkSizeBytes ∧ faults.write = some (error,taken))) ∨
    ∃ error taken, chunk ≠ [] ∧ chunk.length ≤ transferAssetStreamChunkSizeBytes ∧ faults.write = some (error,taken) ∧
      (staging.appendChunk chunk (some requestId) faults).1 = .error error ∧
      (staging.appendChunk chunk (some requestId) faults).2.pending? requestId =
        some (pending.appendChunk chunk faults.write).2 := by
  have resolved : staging.resolve (some requestId) = some pending := by simp [Staging.resolve,found]
  unfold Staging.appendChunk
  by_cases empty : chunk = []
  · rw [if_pos empty]
    exact .inl ⟨none,rfl,fun _ _ written => written.1 empty⟩
  · rw [if_neg empty]
    by_cases large : transferAssetStreamChunkSizeBytes < chunk.length
    · rw [if_pos large]
      exact .inl ⟨_,rfl,fun _ _ written => absurd written.2.1 (Nat.not_le.mpr large)⟩
    · rw [if_neg large,resolved]
      dsimp only
      have named := (pending_mem found).2
      subst named
      have after := @appendTo_found staging pending faults chunk found
      cases write : faults.write with
      | none =>
          refine .inl ⟨none,?_,fun _ _ written => by cases written.2.2⟩
          simp [Staging.appendTo,PendingUpload.appendChunk,write]
      | some fault =>
          obtain ⟨error,taken⟩ := fault
          rw [write] at after
          refine .inr ⟨error,taken,empty,Nat.not_lt.mp large,rfl,?_,after⟩
          simp [Staging.appendTo,PendingUpload.appendChunk,write]

theorem append_absent {chunk : Bytes} (absent : staging.pending? requestId = none) :
    ∃ message, (staging.appendChunk chunk (some requestId) faults).1 = .ok message := by
  unfold Staging.appendChunk
  split
  · exact ⟨_,rfl⟩
  · split
    · exact ⟨_,rfl⟩
    · simp [Staging.resolve,absent]

theorem kept_found {property : PendingUpload → Prop} (found : staging.pending? requestId = some pending) :
    (∃ other, KeptUnder staging requestId key other ∧ property other) ↔
      pending.encryptionTrustKeyB64 = some key ∧ NamesSession pending.metadataPayload ∧ property pending := by
  constructor
  · rintro ⟨other,kept,holds⟩
    have same := kept.found
    rw [found] at same
    cases same
    exact ⟨kept.key,kept.names,holds⟩
  · rintro ⟨keyed,names,holds⟩
    exact ⟨pending,⟨found,keyed,names⟩,holds⟩

theorem kept_absent {property : PendingUpload → Prop} (absent : staging.pending? requestId = none) :
    ¬ ∃ other, KeptUnder staging requestId key other ∧ property other := by
  rintro ⟨other,kept,-⟩
  have found := kept.found
  rw [absent] at found
  cases found

theorem wrote_iff {answer : Answer} : (∃ done, (.ok ⟨answer,given,locator⟩ : Except Raised Written) = .ok done ∧
    done.key = some key ∧ done.locator.isSome) ↔ given = some key ∧ locator.isSome := by
  constructor
  · rintro ⟨done,equal,holds⟩
    cases equal
    exact holds
  · exact fun holds => ⟨_,rfl,holds⟩

theorem received_encrypted {received : Bytes} (found : adapter.staging.pending? post.requestId = some pending) :
    (∃ done, receivedWritten lib cipher adapter post received = .ok done ∧ done.key = some key ∧ done.locator.isSome) ↔
    pending.encryptionTrustKeyB64 = some key ∧ NamesSession pending.metadataPayload ∧
      ∀ error, WriteFails cipher key post received error → ErrorAnswered lib adapter.desktop.store post pending error := by
  unfold receivedWritten
  dsimp only
  rw [(keyed_found found).1,(keyed_found found).2]
  cases opens : decryptChunk cipher pending.encryptionTrustKeyB64 received with
  | error message =>
      dsimp only
      rw [wrote_iff]
      refine ⟨fun ⟨keyed,names⟩ => ⟨keyed,names,?_⟩,fun ⟨keyed,names,_⟩ => ⟨keyed,names⟩⟩
      rintro error ⟨chunk,taken,decrypts,-⟩
      rw [keyed] at opens
      cases opens.symm.trans decrypts
  | ok chunk =>
      dsimp only
      rcases @append_result pending adapter.staging post.requestId post.fileFaults chunk found with
        ⟨message,result,unfailed⟩ | ⟨error,taken,some_bytes,small,written,result,after⟩
      · have quiet : pending.encryptionTrustKeyB64 = some key → ∀ error, ¬ WriteFails cipher key post received error := by
          rintro keyed error ⟨other,taken,decrypts,rest⟩
          rw [keyed] at opens
          cases opens.symm.trans decrypts
          exact unfailed error taken rest
        rw [result]
        cases message <;>
        · dsimp only
          rw [wrote_iff]
          exact ⟨fun ⟨keyed,names⟩ => ⟨keyed,names,fun error fails => absurd fails (quiet keyed error)⟩,
            fun ⟨keyed,names,_⟩ => ⟨keyed,names⟩⟩
      · have same : (pending.appendChunk chunk post.fileFaults.write).2.encryptionTrustKeyB64 =
            pending.encryptionTrustKeyB64 ∧
            (pending.appendChunk chunk post.fileFaults.write).2.metadataPayload = pending.metadataPayload ∧
            (pending.appendChunk chunk post.fileFaults.write).2.tempFilePath = pending.tempFilePath := by
          rw [written]
          exact ⟨rfl,rfl,rfl⟩
        have answers := @error_encrypted lib
          {adapter with staging:=(adapter.staging.appendChunk chunk (some post.requestId) post.fileFaults).2} post key
          pending.encryptionTrustKeyB64 error _ after (.inr same.1.symm)
        rw [result]
        dsimp only
        unfold ErrorAnswered at answers ⊢
        rw [same.1,same.2.1,same.2.2] at answers
        rw [answers]
        refine ⟨fun ⟨keyed,names,answered⟩ => ⟨keyed,names,?_⟩,fun ⟨keyed,names,answered⟩ => ⟨keyed,names,?_⟩⟩
        · rintro other ⟨chunk',taken',-,-,-,failed⟩
          cases written.symm.trans failed
          exact answered
        · refine answered error ⟨chunk,taken,?_,some_bytes,small,written⟩
          rw [keyed] at opens
          exact opens

theorem chunk_encrypted : (∃ done, chunkWritten lib cipher adapter post contentLength read = .ok done ∧
      done.key = some key ∧ done.locator.isSome) ↔
    ∃ pending, KeptUnder adapter.staging post.requestId key pending ∧
      ChunkAnswerable lib cipher adapter.desktop.store key post contentLength read pending := by
  unfold chunkWritten ChunkAnswerable
  cases refuseChunkLength contentLength with
  | some message =>
      dsimp only
      rw [wrote_iff]
      exact iff_of_false (by simp) (by simp)
  | none =>
      dsimp only
      cases read with
      | error error =>
          cases found : adapter.staging.pending? post.requestId with
          | none =>
              refine iff_of_false ?_ (kept_absent found)
              rintro ⟨done,equal,keyed,-⟩
              exact error_clear found ⟨done,equal,keyed⟩
          | some pending =>
              rw [kept_found found]
              dsimp only
              rw [error_encrypted found (.inl rfl)]
              simp
      | ok received =>
          dsimp only
          by_cases whole : contentLength = some (received.length : Int)
          · rw [if_neg (not_not.mpr whole)]
            cases found : adapter.staging.pending? post.requestId with
            | none =>
                refine iff_of_false ?_ (kept_absent found)
                unfold receivedWritten
                dsimp only
                rw [key_none found]
                rintro ⟨done,equal,keyed,-⟩
                obtain ⟨message,result⟩ := @append_absent adapter.staging post.requestId post.fileFaults received found
                dsimp only [decryptChunk] at equal
                rw [result] at equal
                cases message <;>
                · cases equal
                  cases keyed
            | some pending =>
                rw [kept_found found,received_encrypted found]
                simp [whole]
          · rw [if_pos whole,wrote_iff]
            refine iff_of_false (by simp) ?_
            rintro ⟨pending,-,-,equal,-⟩
            exact whole equal

theorem upload_encrypted (usable : strip key ≠ "") {payload : TransferAssetUploadPayload} :
    EncryptedOut key (uploadHandled lib adapter.staging adapter.desktop post payload)
      (transport.reply (dispatchTransferAsset lib adapter post payload).1) ↔
    payload.encryptionTrustKeyB64 = some key ∧ NamesSession payload.metadataPayload ∧
      ¬ UploadThrows lib adapter.desktop.store (uploadCall post payload) := by
  have throws := @handle_upload_throws lib {adapter.desktop with
    files:=writeFile adapter.desktop.files (.staged payload.tempFilePath) ((adapter.staging.files payload.tempFilePath).getD [])}
    (uploadCall post payload)
  unfold uploadHandled dispatchTransferAsset
  dsimp only [uploadCall] at throws ⊢
  rw [← throws]
  rcases handleAssetUpload lib _ _ with ⟨raised | response,left⟩
  · refine iff_of_false unhandled_clear ?_
    rintro ⟨-,-,returns⟩
    exact returns ⟨raised,rfl⟩
  · dsimp only
    have named : NamesSession payload.metadataPayload ↔
      (transferResponseLocatorFields (some payload.metadataPayload)).isSome := Iff.rfl
    rw [named]
    cases payload.encryptionTrustKeyB64 with
    | none =>
        refine iff_of_false ?_ (by simp)
        rintro ⟨object,sessionId,-,answered⟩
        have under := congrArg HttpResponse.encryptedFor (Option.some.inj answered)
        cases under
    | some own =>
        cases transferResponseLocatorFields (some payload.metadataPayload) with
        | none => exact iff_of_false unhandled_clear (by simp)
        | some sessionId =>
            constructor
            · rintro ⟨object,located,-,answered⟩
              dsimp only at answered
              split at answered
              · have unanswered : ¬ EncryptedOut key (.ok object) transport.unhandled := unhandled_clear
                exact absurd ⟨object,located,rfl,answered⟩ unanswered
              · have under := congrArg HttpResponse.encryptedFor (Option.some.inj answered)
                cases under
                exact ⟨rfl,rfl,answered_returns⟩
            · rintro ⟨same,-,-⟩
              cases same
              refine ⟨⟨response.statusCode,response.payload⟩,sessionId,rfl,?_⟩
              simp [deriveMobileEncryptionKey,usable,Transport.reply]

theorem complete_absent (absent : staging.pending? requestId = none) :
    (staging.complete lib requestId faults).1 = .ok (.error (unmatchedCompletion staging.hasPending)) := by
  unfold Staging.complete
  rw [absent]

-- The ways a completion of an upload that is there ends; it is gone then.
theorem complete_found (found : staging.pending? requestId = some pending) :
    (staging.complete lib requestId faults).2.pending? requestId = none ∧
    (((faults.flush = none ∧ faults.close pending.tempFilePath = none) ∧
      (staging.complete lib requestId faults).1 = .ok (.ok (PendingUpload.payload lib pending))) ∨
    (¬ (faults.flush = none ∧ faults.close pending.tempFilePath = none) ∧
      ∃ error, (staging.complete lib requestId faults).1 = .error error)) := by
  have gone : (staging.pop requestId).pending? requestId = none := pop_absent
  unfold Staging.complete
  rw [found]
  dsimp only
  refine ⟨gone,?_⟩
  unfold PendingUpload.toPayload
  cases faults.flush with
  | some error => exact .inr ⟨by simp,error,rfl⟩
  | none =>
      dsimp only
      cases faults.close pending.tempFilePath with
      | some error => exact .inr ⟨by simp,error,rfl⟩
      | none => exact .inl ⟨⟨rfl,rfl⟩,rfl⟩

theorem clear_unencrypted {handled : Except Raised Answer} {response : HttpResponse} (clear : response.encryptedFor = none) :
    ¬ EncryptedOut key handled (some response) := by
  rintro ⟨object,sessionId,-,answered⟩
  have under := congrArg HttpResponse.encryptedFor (Option.some.inj answered)
  rw [clear] at under
  cases under

-- The completion of an upload that is gone, or whose file fails, is not answered under the
-- key; where it is handed over, the service answers it.
theorem completion_encrypted (transport : Transport) (usable : strip key ≠ "") {handled : Except Raised Answer}
    {answered : Option HttpResponse}
    (refused : ∀ message, (adapter.staging.complete lib post.requestId post.fileFaults).1 = .ok (.error message) →
      ¬ EncryptedOut key handled answered)
    (failed : ∀ error, (adapter.staging.complete lib post.requestId post.fileFaults).1 = .error error →
      ¬ EncryptedOut key handled answered)
    (given : ∀ payload, (adapter.staging.complete lib post.requestId post.fileFaults).1 = .ok (.ok payload) →
      let left := (adapter.staging.complete lib post.requestId post.fileFaults).2
      handled = uploadHandled lib left adapter.desktop post payload ∧
      answered = transport.reply (dispatchTransferAsset lib {adapter with staging:=left} post payload).1) :
    EncryptedOut key handled answered ↔ ∃ pending, KeptUnder adapter.staging post.requestId key pending ∧
      CompletionAnswerable lib adapter.desktop.store post pending := by
  cases found : adapter.staging.pending? post.requestId with
  | none => exact iff_of_false (refused _ (complete_absent found)) (kept_absent found)
  | some pending =>
      rw [kept_found found]
      unfold CompletionAnswerable
      obtain ⟨-,ended⟩ := @complete_found lib pending adapter.staging post.requestId post.fileFaults found
      rcases ended with ⟨closed,handedOver⟩ | ⟨unclosed,error,raised⟩
      · obtain ⟨returned,replied⟩ := given _ handedOver
        have uploads := @upload_encrypted lib
          {adapter with staging:=(adapter.staging.complete lib post.requestId post.fileFaults).2} post key transport usable
          (PendingUpload.payload lib pending)
        rw [returned,replied]
        refine uploads.trans ⟨?_,?_⟩
        · exact fun ⟨keyed,names,returns⟩ => ⟨keyed,names,closed.1,closed.2,returns⟩
        · exact fun ⟨keyed,names,_,_,returns⟩ => ⟨keyed,names,returns⟩
      · refine iff_of_false (failed error raised) ?_
        rintro ⟨-,-,flushed,closed,-⟩
        exact unclosed ⟨flushed,closed⟩

theorem usb_completion (usable : strip key ≠ "") {transport : UsbTransport} :
    EncryptedOut key (handled lib services cipher adapter (.usbComplete transport post))
      ((Transport.usb transport).reply (completePendingAssetUpload lib adapter post).1) ↔
    ∃ pending, KeptUnder adapter.staging post.requestId key pending ∧
      CompletionAnswerable lib adapter.desktop.store post pending := by
  rcases outcome : adapter.staging.complete lib post.requestId post.fileFaults with ⟨result,left⟩
  refine completion_encrypted (.usb transport) usable ?_ ?_ ?_
  · intro message completed
    rw [outcome] at completed
    cases completed
    unfold completePendingAssetUpload
    rw [outcome]
    exact clear_unencrypted rfl
  · intro error completed
    rw [outcome] at completed
    cases completed
    unfold completePendingAssetUpload
    rw [outcome]
    have unanswered : ¬ EncryptedOut key (handled lib services cipher adapter (.usbComplete transport post))
        (Transport.usb transport).unhandled := unhandled_clear
    exact unanswered
  · intro payload completed
    rw [outcome] at completed
    cases completed
    unfold completePendingAssetUpload
    simp only [handled,outcome]
    exact ⟨trivial,trivial⟩

theorem lan_completion (usable : strip key ≠ "") (sent : post.message = .complete) :
    EncryptedOut key (handled lib services cipher adapter (.post post)) (some (doPost lib cipher adapter post).1) ↔
    ∃ pending, KeptUnder adapter.staging post.requestId key pending ∧
      CompletionAnswerable lib adapter.desktop.store post pending := by
  rw [complete_reply sent]
  rcases outcome : adapter.staging.complete lib post.requestId post.fileFaults with ⟨result,left⟩
  refine completion_encrypted .lanHttp usable ?_ ?_ ?_
  · intro message completed
    rw [outcome] at completed
    cases completed
    unfold handleStreamComplete
    rw [outcome]
    exact clear_unencrypted rfl
  · intro error completed
    -- The error's answer looks for a key that went with the upload.
    have absent : left.pending? post.requestId = none := by
      have gone := congrArg Prod.snd outcome
      subst gone
      cases found : adapter.staging.pending? post.requestId with
      | none =>
          rw [complete_absent found] at completed
          cases completed
      | some pending => exact (complete_found found).1
    have clear : ¬ ∃ done, errorWritten lib {adapter with staging:=left} post (some post.requestId) none error none =
        .ok done ∧ done.key = some key := error_clear absent
    rw [outcome] at completed
    cases completed
    have returned : handled lib services cipher adapter (.post post) =
        (errorWritten lib {adapter with staging:=left} post (some post.requestId) none error none).map Written.answer := by
      simp only [handled,sent,outcome]
    unfold handleStreamComplete
    rw [outcome,returned]
    dsimp only
    rw [error_written,written_encrypted usable]
    exact fun ⟨done,equal,keyed,_⟩ => clear ⟨done,equal,keyed⟩
  · intro payload completed
    rw [outcome] at completed
    cases completed
    unfold handleStreamComplete
    simp only [handled,sent,outcome]
    exact ⟨trivial,trivial⟩

-- What both phone clients make of the answer: under a key they share, its object.
structure Recovered (key : String) (response : HttpResponse) : Prop where
  ios : ∀ desktop : PhoneUploads.TrustedDesktopRecord, desktop.encryptionEnabled = true →
    strip desktop.sharedKeyBase64 = strip key → PhoneUploads.decodeResponse desktop response = some response.payload
  reactNative : ∀ (payloadCipher : TransferClients.PayloadCipher) (nonce : Bytes) (sessionId : String),
    TransferClients.Opens payloadCipher response.payload ⟨key,nonce,sessionId⟩ →
    TransferClients.decryptJsonPayload payloadCipher key
      (TransferClients.encryptMobileJsonPayload payloadCipher ⟨key,nonce,sessionId⟩ response.payload) = .ok response.payload

theorem encrypted_recovered {handled : Except Raised Answer} {answered : Option HttpResponse}
    (encrypted : EncryptedOut key handled answered) : ∀ response ∈ answered, Recovered key response := by
  obtain ⟨object,sessionId,-,rfl⟩ := encrypted
  intro response member
  cases member
  refine ⟨?_,?_⟩
  · intro desktop enabled same
    simp [PhoneUploads.decodeResponse,enabled,same]
  · exact fun payloadCipher nonce sessionId opens => TransferClients.decrypt_encrypted opens

theorem opened_usable (opened : Opened cipher store key request) : strip key ≠ "" := by
  have upload : ∀ {id}, OpenedUpload cipher key id → strip key ≠ "" := by
    rintro id ⟨then_,start,requestPayload,metadataPayload,-,-,prepared⟩
    exact start_usable prepared key rfl
  cases request with
  | operation transport operation requestPayload now =>
      obtain ⟨decrypted,opened⟩ := opened
      exact (opened_parts opened).1
  | post post =>
      unfold Opened at opened
      dsimp only at opened
      split at opened
      · obtain ⟨metadataPayload,prepared⟩ := opened
        exact start_usable prepared key rfl
      · exact upload opened
  | usbComplete transport post => exact upload opened

section Samples
open PhoneUploads

def sampleServices : Services := ⟨[],fun _ => .ok ("https","example.org")⟩

def sampleBody : Fields := (encryptPayloadObject samplePhone (startRequest sampleUpload (sampleRecord true) (sampleAsset [97]))
  "trust-key" "session-1" PhoneUploads.sampleNonce).getD []

def startPost : Post := sampleUpload.post (.start sampleBody)

def unflushedPost : Post := {sampleUpload.post .complete with
  fileFaults:={noFaults with flush:=some ⟨"No space left on device",some 28,none,[]⟩}}

def begunAdapter : LanAdapter := (doPost sampleLibraries PhoneUploads.sampleCipher ⟨.new,sampleDesktop⟩ startPost).2

theorem prepared_key {body : Fields} {trustKey first second : String}
    (shape : body = [("schema",.string mobileEncryptionSchema),("nonce",.string first),("ciphertext",.string second),
      ("session_id",.string "session-1")])
    (prepared : startMetadata cipher sampleDesktop.store body = .ok (metadataPayload,some trustKey)) : trustKey = "trust-key" := by
  have kept : body.filter (fun field => field.1 ≠ transferAssetStreamStateField && field.1 ≠ "chunk_size") = body := by
    rw [shape]
    rfl
  have marked : isMobileEncryptedPayload body = true := by rw [shape]; rfl
  have located := @start_locator (sampleRecord true) body (by rw [shape]; rfl) (by decide +kernel)
  have resolved : resolveTransferTrustKey sampleDesktop.store (strip (sampleRecord true).lastSessionID) = some "trust-key" := by
    decide +kernel
  simp only [startMetadata,kept,marked,if_true,decryptTransferAssetStreamMetadata,located,resolved] at prepared
  cases outcome : decryptMobileJsonPayload cipher body "trust-key" with
  | error message =>
      rw [outcome] at prepared
      cases prepared
  | ok decrypted =>
      rw [outcome] at prepared
      cases prepared
      rfl

theorem sample_opened : startMetadata PhoneUploads.sampleCipher sampleDesktop.store sampleBody =
    .ok (startRequest sampleUpload (sampleRecord true) (sampleAsset [97]),some "trust-key") := by
  obtain ⟨body,trustKey,made,prepared,-⟩ := PhoneUploads.start_encrypted sample_paired sample_understood
  have made : encryptPayloadObject samplePhone (startRequest sampleUpload (sampleRecord true) (sampleAsset [97])) "trust-key"
    "session-1" PhoneUploads.sampleNonce = some body := made
  have same : sampleBody = body := by
    unfold sampleBody
    rw [made]
    rfl
  have shape : ∃ first second, body = [("schema",.string mobileEncryptionSchema),("nonce",.string first),
      ("ciphertext",.string second),("session_id",.string "session-1")] := by
    unfold encryptPayloadObject at made
    obtain ⟨derived,-,built⟩ := Option.map_eq_some_iff.mp made
    exact ⟨_,_,built.symm⟩
  obtain ⟨first,second,shape⟩ := shape
  have mine := prepared_key shape prepared
  subst mine
  rw [same]
  exact prepared

end Samples

end ImageSearch.EncryptedAnswers
