import ImageSearch.TransferService

namespace ImageSearch.UploadOutcomes
open Payload BackupState BackupFolder MobileStore TransferService

variable {lib : Libraries} {call : UploadCall} {metadata : MobileTransferAssetMetadata} {d : Desktop}
  {folderPath : String} {files files' : Files} {path : RelativePath}

theorem target_visible : (targetPath call metadata folderPath files).Visible :=
  resolve_visible (sanitize_head _) _ _ _

theorem target_free : fileExists files (.asset folderPath (targetPath call metadata folderPath files)) = false :=
  resolve_free _ _ _ _

-- The bytes a storing call is handed: the staged file, or a body that arrives whole.
def uploadedContent (call : UploadCall) (files : Files) : Option Bytes :=
  match call.tempFilePath,call.bodyStream with
  | some staged,_ => readFile files (.staged staged)
  | none,some reads =>
    let received := receiveBody call.faults reads 0 call.contentLength.toNat []
    if received.1.isNone then some received.2 else none
  | none,none => none

def failsAfterClaim (call : UploadCall) (metadata : MobileTransferAssetMetadata) : Bool :=
  (utimeFault call metadata).isSome ||
    (call.tempFilePath.isSome && (call.faults .replace).any isCrossDevice &&
      ((call.faults .copyStaged).isSome || (call.faults .unlinkStaged).isSome))

-- Two folders hold the same visible files, the one at `path` aside.
def SameBeside (folderPath : String) (path : RelativePath) (files files' : Files) : Prop :=
  ∀ folder other, RelativePath.Visible other → (folder,other) ≠ (folderPath,path) →
    readFile files' (.asset folder other) = readFile files (.asset folder other)

theorem beside_refl : SameBeside folderPath path files files := fun _ _ _ _ => rfl

theorem read_write_beside {content : Bytes} :
    SameBeside folderPath path files (writeFile files (.asset folderPath path) content) := by
  intro folder other _ different
  rw [read_write,if_neg]
  intro equal
  cases equal
  exact different rfl

theorem read_hidden {part : RelativePath} (hidden : ¬ part.Visible) {content : Bytes} {folder : String}
    {other : RelativePath} (visible : other.Visible) :
    readFile (writeFile files (.asset folderPath part) content) (.asset folder other) =
      readFile files (.asset folder other) := by
  rw [read_write,if_neg]
  intro equal
  cases equal
  exact hidden visible

theorem read_cleanup (folder : String) (other : RelativePath) :
    readFile (cleanupTempUploadFile call files) (.asset folder other) = readFile files (.asset folder other) := by
  unfold cleanupTempUploadFile
  split
  · rw [read_unlink,if_neg (by simp)]
  · rfl

theorem read_discard {part : RelativePath} (hidden : ¬ part.Visible) {error : OSError} {folder : String}
    {other : RelativePath} (visible : other.Visible) :
    readFile (discardPart call files (.asset folderPath part) error).2 (.asset folder other) =
      readFile files (.asset folder other) := by
  unfold discardPart
  split
  · rfl
  · rw [read_unlink,if_neg]
    intro equal
    cases equal
    exact hidden visible

-- What a storing call does to the folder: nothing beside its target; a success puts the
-- delivered bytes there, a failure leaves it alone unless the name was taken before.
structure StoreEffect (lib : Libraries) (call : UploadCall) (metadata : MobileTransferAssetMetadata)
    (folderPath : String) (files : Files) (answer : Except OSError StoredMobileTransferAsset) (files' : Files) :
    Prop where
  beside : SameBeside folderPath (targetPath call metadata folderPath files) files files'
  stored : ∀ stored, answer = .ok stored → failsAfterClaim call metadata = false ∧
    stored.localRelativePath = targetPath call metadata folderPath files ∧
    ∃ content, uploadedContent call files = some content ∧ stored.fileSizeBytes = content.length ∧
      readFile files' (.asset folderPath (targetPath call metadata folderPath files)) = some content ∧
      (stored.contentSha1 = lib.sha1 content ∨
        (call.tempFilePath.isSome ∧ ∃ text, call.contentSha1 = some text ∧ stored.contentSha1 = lower (strip text))) ∧
      (call.tempFilePath.isSome → ∀ expected, metadata.contentSha1 = some expected →
        stored.contentSha1 = lower expected)
  failed : ∀ error, answer = .error error → failsAfterClaim call metadata = false →
    readFile files' (.asset folderPath (targetPath call metadata folderPath files)) =
      readFile files (.asset folderPath (targetPath call metadata folderPath files))

theorem untouched_effect {error : OSError} : StoreEffect lib call metadata folderPath files (.error error) files :=
  ⟨beside_refl,by simp,fun _ _ _ => rfl⟩

theorem write_effect {reads : List (Except OSError Bytes)} (staged : call.tempFilePath = none)
    (streamed : call.bodyStream = some reads) :
    StoreEffect lib call metadata folderPath files (writeAssetToFolder lib call metadata folderPath reads files).1
      (writeAssetToFolder lib call metadata folderPath reads files).2 := by
  unfold writeAssetToFolder
  split
  · exact untouched_effect
  · exact untouched_effect
  · rename_i mkdir opened
    simp only
    generalize target : targetPath call metadata folderPath files = finalPath
    generalize body : receiveBody call.faults reads 0 call.contentLength.toNat [] = received
    have visible : finalPath.Visible := target ▸ target_visible
    have hidden := part_hidden finalPath.monthDirectory finalPath.name call.partToken
    generalize ((⟨finalPath.monthDirectory,partName finalPath.name call.partToken⟩ : RelativePath)) = part at *
    split
    · rename_i error _
      refine ⟨?_,by simp,?_⟩
      · intro folder other seen _
        rw [read_discard hidden seen,read_hidden hidden seen]
      · intro _ _ _
        rw [target,read_discard hidden visible,read_hidden hidden visible]
    · rename_i whole
      have content : uploadedContent call files = some received.2 := by
        simp [uploadedContent,staged,streamed,body,(Option.or_eq_none_iff.mp whole).1]
      have present : readFile (writeFile files (.asset folderPath part) received.2) (.asset folderPath part) =
          some received.2 := by rw [read_write,if_pos rfl]
      have beside : SameBeside folderPath finalPath files
          (replace (writeFile files (.asset folderPath part) received.2) (.asset folderPath part)
            (.asset folderPath finalPath)) := by
        intro folder other seen different
        rw [read_replace present,if_neg,if_neg,read_hidden hidden seen]
        · intro equal; cases equal; exact hidden seen
        · intro equal; cases equal; exact different rfl
      split
      · rename_i error late
        refine ⟨by rw [target]; exact beside,by simp,fun _ _ kept => ?_⟩
        simp [failsAfterClaim,late] at kept
      · rename_i early
        refine ⟨by rw [target]; exact beside,?_,by simp⟩
        intro stored equal
        cases equal
        refine ⟨by simp [failsAfterClaim,early,staged],target.symm,received.2,content,rfl,?_,.inl rfl,by simp [staged]⟩
        rw [target,read_replace present,if_pos rfl]

theorem moveStaged_parts {staged : String} {content : Bytes} {error? : Option OSError}
    (present : readFile files (.staged staged) = some content)
    (moved : moveStaged call files (.staged staged) (.asset folderPath path) content = (error?,files')) :
    SameBeside folderPath path files files' ∧
      (error? = none → readFile files' (.asset folderPath path) = some content) ∧
      (error?.isSome → ((call.faults .replace).any isCrossDevice &&
          ((call.faults .copyStaged).isSome || (call.faults .unlinkStaged).isSome)) = false → files' = files) ∧
      (error? = none → ((call.faults .replace).any isCrossDevice &&
          ((call.faults .copyStaged).isSome || (call.faults .unlinkStaged).isSome)) = false) := by
  unfold moveStaged at moved
  split at moved
  · rename_i atomic
    cases moved
    refine ⟨?_,fun _ => ?_,fun some => by simp at some,fun _ => by simp [atomic]⟩
    · intro folder other _ different
      rw [read_replace present,if_neg,if_neg (by simp)]
      intro equal; cases equal; exact different rfl
    · rw [read_replace present,if_pos rfl]
  · rename_i error refused
    split at moved
    · rename_i crossed
      split at moved
      · rename_i copying
        cases moved
        refine ⟨read_write_beside,fun none => by simp at none,fun _ kept => ?_,fun none => by simp at none⟩
        simp [refused,crossed,copying] at kept
      · rename_i copied unlinking
        cases moved
        refine ⟨read_write_beside,fun none => by simp at none,fun _ kept => ?_,fun none => by simp at none⟩
        simp [refused,crossed,unlinking] at kept
      · rename_i copied unlinked
        cases moved
        refine ⟨?_,fun _ => ?_,fun some => by simp at some,fun _ => by simp [copied,unlinked]⟩
        · intro folder other seen different
          rw [read_unlink,if_neg (by simp)]
          exact read_write_beside folder other seen different
        · rw [read_unlink,if_neg (by simp),read_write,if_pos rfl]
    · rename_i same
      cases moved
      exact ⟨beside_refl,fun none => by simp at none,fun _ _ => rfl,fun none => by simp at none⟩

theorem checkStaged_parts {content : Bytes} {contentSha1 : String}
    (checked : checkStaged lib call metadata content = .ok contentSha1) :
    (contentSha1 = lib.sha1 content ∨ ∃ text, call.contentSha1 = some text ∧ contentSha1 = lower (strip text)) ∧
      ∀ expected, metadata.contentSha1 = some expected → contentSha1 = lower expected := by
  unfold checkStaged at checked
  split at checked
  · cases checked
  · split at checked
    · cases checked
    · split at checked
      · cases checked
      · simp only at checked
        generalize computed : (if providedSha1 call = "" then lib.sha1 content else providedSha1 call) = sha at checked
        split at checked
        · cases checked
        · rename_i agreed
          cases checked
          refine ⟨?_,fun expected declared => by simpa [declared] using agreed⟩
          rw [← computed]
          split
          · exact .inl rfl
          · rename_i given
            cases provided : call.contentSha1 with
            | none => exact absurd (by simp [providedSha1,provided]; decide) given
            | some text => exact .inr ⟨text,rfl,by simp [providedSha1,provided]⟩

theorem move_effect {staged : String} (handed : call.tempFilePath = some staged) :
    StoreEffect lib call metadata folderPath files
      (moveStagedAssetToFolder lib call metadata folderPath staged files).1
      (moveStagedAssetToFolder lib call metadata folderPath staged files).2 := by
  unfold moveStagedAssetToFolder
  split
  · exact untouched_effect
  · simp only
    split
    · exact untouched_effect
    · rename_i content present
      split
      · exact untouched_effect
      · rename_i contentSha1 checked
        obtain ⟨digest,agreed⟩ := checkStaged_parts checked
        have delivered : uploadedContent call files = some content := by simp [uploadedContent,handed,present]
        generalize target : targetPath call metadata folderPath files = finalPath
        generalize outcome : moveStaged call files (.staged staged) (.asset folderPath finalPath) content = moved
        obtain ⟨beside,put,left,atomic⟩ := moveStaged_parts present outcome
        split
        · rename_i error failed
          refine ⟨by rw [target]; exact beside,by simp,fun _ _ kept => ?_⟩
          simp only [failsAfterClaim,handed,Option.isSome_some,Bool.true_and,Bool.or_eq_false_iff,
            Option.isSome_eq_false_iff,Option.isNone_iff_eq_none] at kept
          have erred : moved.1.isSome := by
            rw [kept.1,Option.or_none] at failed
            rw [failed]; rfl
          rw [target,left erred (by simpa using kept.2)]
        · rename_i succeeded
          obtain ⟨moving,stamped⟩ := Option.or_eq_none_iff.mp succeeded
          refine ⟨by rw [target]; exact beside,?_,by simp⟩
          intro stored equal
          cases equal
          refine ⟨?_,target.symm,content,delivered,rfl,by rw [target]; exact put moving,?_,fun _ => agreed⟩
          · have := atomic moving
            simp only [failsAfterClaim,handed,stamped,Option.isSome_none,Bool.false_or,Option.isSome_some,
              Bool.true_and]
            simpa using this
          · exact digest.imp id fun provided => ⟨by simp [handed],provided⟩

theorem store_effect :
    StoreEffect lib call metadata folderPath files (storeAssetFile lib call metadata folderPath files).1
      (storeAssetFile lib call metadata folderPath files).2 := by
  unfold storeAssetFile
  split
  · rename_i handed; exact move_effect handed
  · rename_i staged streamed; exact write_effect staged streamed
  · exact untouched_effect

theorem authorise_parts {store : Store} {purpose : String} {statuses : List SessionStatus}
    {schema sessionId deviceUuid trustProof : String} {context : MobileTransferContext}
    (granted : authoriseTransfer lib store purpose statuses schema sessionId deviceUuid trustProof = .ok (some context)) :
    getMobileTransferContext store sessionId deviceUuid = some context ∧ context.sessionStatus ∈ statuses := by
  unfold authoriseTransfer at granted
  split at granted
  · cases granted
  · rename_i found located
    split at granted
    · cases granted
    · rename_i status
      split at granted
      · cases granted
      · split at granted
        · cases granted
          exact ⟨located,not_not.mp status⟩
        · cases granted

theorem session_parts {Request : Type} {session : Request → MobileTransferSessionRequest} {store : Store}
    {parsed : Except Raised Request} {purpose : String} {statuses : List SessionStatus} {request : Request}
    {context : MobileTransferContext}
    (passed : checkSession session lib store parsed purpose statuses = .ok (request,context)) :
    parsed = .ok request ∧ getMobileTransferContext store (session request).sessionId (session request).deviceUuid =
      some context ∧ context.sessionStatus ∈ statuses := by
  unfold checkSession at passed
  split at passed
  · cases passed
  · cases passed
  · split at passed
    · cases passed
    · split at passed
      · cases passed
      · cases passed
      · rename_i granted
        cases passed
        exact ⟨rfl,authorise_parts granted⟩

theorem session_refused {Request : Type} {session : Request → MobileTransferSessionRequest} {store : Store}
    {parsed : Except Raised Request} {purpose : String} {statuses : List SessionStatus} {response : Response}
    (refused : checkSession session lib store parsed purpose statuses = .error (.ok response)) :
    ∃ statusCode message, 300 ≤ statusCode ∧ response = rejected statusCode message := by
  unfold checkSession at refused
  split at refused
  · cases refused; exact ⟨400,_,by decide,rfl⟩
  · cases refused
  · split at refused
    · cases refused; exact ⟨400,_,by decide,rfl⟩
    · split at refused
      · cases refused
      · cases refused; exact ⟨403,_,by decide,rfl⟩
      · cases refused

structure Accepted (lib : Libraries) (call : UploadCall) (d : Desktop) (metadata : MobileTransferAssetMetadata)
    (context : MobileTransferContext) : Prop where
  parsed : parseTransferAssetMetadata lib call.metadataPayload = .ok metadata
  unrefused : refuseUpload call metadata = none
  granted : authoriseTransfer lib d.store assetProofPurpose [.transferring] metadata.schema metadata.sessionId
    metadata.deviceUuid metadata.trustProof = .ok (some context)

structure Unmatched (d : Desktop) (metadata : MobileTransferAssetMetadata) (context : MobileTransferContext) : Prop where
  signature : existingSignatureAsset d metadata = .ok none
  version : existingAssetVersion d metadata context.folderPath = none

def NotOk (result : Except Raised Response) : Prop := ∀ response, result = .ok response → 300 ≤ response.statusCode

inductive UploadOutcome (lib : Libraries) (call : UploadCall) (d : Desktop) : Except Raised Response × Desktop → Prop
  | refused {result : Except Raised Response} {d' : Desktop} (refusal : NotOk result) (store : d'.store = d.store)
      (files : d'.files = d.files ∨ d'.files = cleanupTempUploadFile call d.files) : UploadOutcome lib call d (result,d')
  | skippedSignature {metadata : MobileTransferAssetMetadata} {context : MobileTransferContext} {message : String}
      {row : AssetRow} (accepted : Accepted lib call d metadata context)
      (found : existingSignatureAsset d metadata = .ok (some row)) :
      UploadOutcome lib call d (skipUpload call metadata message row d)
  | skippedVersion {metadata : MobileTransferAssetMetadata} {context : MobileTransferContext} {message : String}
      {row : AssetRow} (accepted : Accepted lib call d metadata context)
      (unsigned : existingSignatureAsset d metadata = .ok none)
      (found : existingAssetVersion d metadata context.folderPath = some row) :
      UploadOutcome lib call d (skipUpload call metadata message row d)
  | stored {metadata : MobileTransferAssetMetadata} {context : MobileTransferContext}
      {stored : StoredMobileTransferAsset} {files : Files} (accepted : Accepted lib call d metadata context)
      (unmatched : Unmatched d metadata context)
      (effect : StoreEffect lib call metadata context.folderPath d.files (.ok stored) files) :
      UploadOutcome lib call d (.ok (storedResponse stored),{d with
        files
        store:=countTransferred (upsertMobileAssetRecord d.store (storedRow metadata call.currentTime stored)) metadata})
  | failed {metadata : MobileTransferAssetMetadata} {context : MobileTransferContext} {error : OSError}
      {files : Files} {result : Except Raised Response} {d' : Desktop} (accepted : Accepted lib call d metadata context)
      (unmatched : Unmatched d metadata context)
      (effect : StoreEffect lib call metadata context.folderPath d.files (.error error) files)
      (refusal : NotOk result) (same : SameBindings d.store d'.store) (assets : d'.store.assets = d.store.assets)
      (cleaned : d'.files = cleanupTempUploadFile call files) : UploadOutcome lib call d (result,d')

theorem rejected_notOk {statusCode : Nat} {message : String} (refused : 300 ≤ statusCode) :
    NotOk (.ok (rejected statusCode message)) := by
  intro response equal
  cases equal
  exact refused

theorem raised_notOk {raised : Raised} : NotOk (.error raised) := by
  intro response equal
  cases equal

theorem storeFailed_notOk {error : OSError} : NotOk (.ok (storeFailedResponse error)) := by
  intro response equal
  cases equal
  unfold storeFailedResponse
  split <;> simp [diskFullRejected,rejected]

theorem refuse_notOk {refusal : Response} (refused : refuseUpload call metadata = some refusal) : NotOk (.ok refusal) := by
  unfold refuseUpload at refused
  split at refused
  · cases refused; exact rejected_notOk (by decide)
  · split at refused
    · cases refused; exact rejected_notOk (by decide)
    · split at refused
      · cases refused; exact rejected_notOk (by decide)
      · cases refused

theorem mark_parts {marked : Desktop} {context : MobileTransferContext} {currentTime : DateTime} {publish : Bool}
    (done : markTransferFailed d context currentTime publish = .ok marked) :
    SameBindings d.store marked.store ∧ marked.store.assets = d.store.assets ∧ marked.files = d.files := by
  unfold markTransferFailed at done
  split at done
  · cases done
  · cases done
    exact ⟨update_same,rfl,rfl⟩

theorem store_outcome {context : MobileTransferContext} (accepted : Accepted lib call d metadata context)
    (unmatched : Unmatched d metadata context) : UploadOutcome lib call d (storeUpload lib call metadata context d) := by
  unfold storeUpload
  have effect : StoreEffect lib call metadata context.folderPath d.files
    (storeAssetFile lib call metadata context.folderPath d.files).1
    (storeAssetFile lib call metadata context.folderPath d.files).2 := store_effect
  generalize storeAssetFile lib call metadata context.folderPath d.files = written at effect
  obtain ⟨answer,files⟩ := written
  cases answer with
  | error error =>
      simp only [failTransfer]
      split
      · exact .failed accepted unmatched effect raised_notOk same_refl rfl rfl
      · rename_i marked done
        obtain ⟨same,assets,files⟩ := mark_parts done
        exact .failed accepted unmatched effect storeFailed_notOk same assets files
  | ok stored => exact .stored accepted unmatched effect

theorem check_passed {context : MobileTransferContext}
    (passed : checkUpload lib call d.store = .passed metadata context) : Accepted lib call d metadata context := by
  unfold checkUpload at passed
  split at passed
  · cases passed
  · split at passed
    · cases passed
    · cases passed
    · rename_i parsed_ parsed
      split at passed
      · cases passed
      · rename_i unrefused
        split at passed
        · cases passed
        · cases passed
        · rename_i granted
          cases passed
          exact ⟨parsed,unrefused,granted⟩

theorem check_refused {cleans : Bool} {result : Except Raised Response}
    (refused : checkUpload lib call d.store = .refused cleans result) : NotOk result := by
  unfold checkUpload at refused
  split at refused
  · cases refused; exact rejected_notOk (by decide)
  · split at refused
    · cases refused; exact rejected_notOk (by decide)
    · cases refused; exact raised_notOk
    · split at refused
      · rename_i refusal unaccepted
        cases refused
        exact refuse_notOk unaccepted
      · split at refused
        · cases refused; exact raised_notOk
        · cases refused; exact rejected_notOk (by decide)
        · cases refused

theorem upload_outcome : UploadOutcome lib call d (handleAssetUpload lib call d) := by
  unfold handleAssetUpload
  split
  · rename_i cleans result refused
    refine .refused (check_refused refused) ?_ ?_
    · split <;> rfl
    · split
      · exact .inr rfl
      · exact .inl rfl
  · rename_i metadata context passed
    have accepted := check_passed passed
    unfold uploadAuthorised
    split
    · exact .refused raised_notOk rfl (.inl rfl)
    · rename_i row found
      exact .skippedSignature accepted found
    · rename_i unsigned
      split
      · rename_i row found
        exact .skippedVersion accepted unsigned found
      · rename_i unversioned
        exact store_outcome accepted ⟨unsigned,unversioned⟩

theorem all_digits {text : String} (checked : (text.toList.all fun c => !isSpace c && c.toLower = c) = true) :
    ∀ c ∈ text.toList, isSpace c = false ∧ c.toLower = c := by
  intro c member
  simpa using List.all_eq_true.mp checked c member

-- One phone, its folder and a running session. The libraries answer the few inputs
-- the runs below make as SHA-1, HMAC-SHA-256 and fromisoformat do.
def sampleLibraries : Libraries where
  sha1 content :=
    if content = [97] then "86f7e437faa5a7fce15d1ddcb9eaeaea377667b8"
    else if content = [98] then "e9d71f5ee7c92d6dc9e92ffdad17b8bd49418f98"
    else "da39a3ee5e6b4b0d3255bfef95601890afd80709"
  sha1Digits content := by split <;> [exact all_digits (by decide);(split <;> exact all_digits (by decide))]
  sha1Length content := by split <;> [decide;(split <;> decide)]
  hmacSha256B64 key material :=
    if key = "trust-key" ∧
        material = "dtis.mobile-trust-proof.v1\ntransfer.asset\ndtis.mobile-transfer.v1\nsession-1\nphone-1" then
      "HFjsS7eveAfIK13_QrUUFate5ZDL4kelo3zZvdF-9RY"
    else if key = "trust-key" ∧
        material = "dtis.mobile-trust-proof.v1\ntransfer.complete\ndtis.mobile-transfer.v1\nsession-1\nphone-1" then
      "ZfriRJmGgv6i43p1B6RnV8MS6oqeV1ka7FOCyIpRE1I"
    else ""
  fromisoformat text := if text = "2024-01-01T00:00:00+00:00" then some 1704067200000000 else none

def sampleStore : Store where
  folders := ⟨[⟨1,"/backup/Phone"⟩],by decide⟩
  nextFolderId := 2
  devices := ⟨[⟨"phone-1","android","Phone","trust-key",0,0⟩],by decide⟩
  mobileFolders := ⟨[⟨1,"phone-1",.transferring,0⟩],by decide⟩
  sessions := ⟨[⟨"session-1","phone-1",1,.transferring,2,0,0,0,some 0,none⟩],by decide⟩
  assets := .empty

def sampleDesktop : Desktop := ⟨sampleStore,.empty,[]⟩

def sampleMetadata (assetId sha1 : String) : Fields :=
  [("schema",.string mobileTransferSchema),("session_id",.string "session-1"),("device_uuid",.string "phone-1"),
    ("trust_proof",.string "HFjsS7eveAfIK13_QrUUFate5ZDL4kelo3zZvdF-9RY"),("asset_id",.string assetId),
    ("sha1",.string sha1),("file_size",.int 1),("filename",.string "IMG_0001.JPG"),
    ("created_at",.string "2024-01-01T00:00:00Z")]

def sampleCall (assetId staged sha1 : String) : UploadCall where
  metadataPayload := sampleMetadata assetId sha1
  bodyStream := none
  contentLength := 1
  tempFilePath := some staged
  contentSha1 := some sha1
  currentTime := 1704067200000000
  partToken := "0f"
  faults _ := none
  copied := 0

def sampleCompletion : Fields :=
  [("schema",.string mobileTransferSchema),("session_id",.string "session-1"),("device_uuid",.string "phone-1"),
    ("trust_proof",.string "ZfriRJmGgv6i43p1B6RnV8MS6oqeV1ka7FOCyIpRE1I"),("transferred_count",.int 0),
    ("failed_count",.int 0)]

end ImageSearch.UploadOutcomes
