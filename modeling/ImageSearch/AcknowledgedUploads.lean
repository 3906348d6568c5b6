import ImageSearch.Transitions
import ImageSearch.UploadOutcomes

namespace ImageSearch.AcknowledgedUploads
open Transitions Payload Tables BackupFolder MobileStore TransferService UploadOutcomes

variable {lib : Libraries} {d next : Desktop} {call : UploadCall} {metadata : MobileTransferAssetMetadata}
  {context : MobileTransferContext}

-- The staged file a call names is written before the call, by the upload stream.
inductive FolderEvent where
  | upload (call : UploadCall)
  | userDeletes (folderPath : String) (path : RelativePath)
  | stage (path : String) (content : Bytes)

def folderSystem (lib : Libraries) : System Desktop FolderEvent where
  step d
    | .upload call => some (handleAssetUpload lib call d).2
    | .userDeletes folderPath path => some {d with files:=unlink d.files (.asset folderPath path)}
    | .stage path content => some {d with files:=writeFile d.files (.staged path) content}

-- to_payload hands over the digest of the bytes it staged, or none.
def promised (lib : Libraries) (d : Desktop) : FolderEvent → Bool
  | .upload call => call.tempFilePath.all fun staged => (readFile d.files (.staged staged)).all fun content =>
      call.contentSha1.all fun text => text = lib.sha1 content
  | .userDeletes _ _ | .stage _ _ => true

-- The free name that is picked is named by no row of another content; not even by
-- the asset's own row when the operating system then refuses to finish.
def nameUnclaimed (lib : Libraries) (call : UploadCall) (metadata : MobileTransferAssetMetadata)
    (context : MobileTransferContext) (d : Desktop) (row : AssetRow) : Bool :=
  boundFolderPath d.store row.deviceUuid ≠ some context.folderPath ||
    row.localRelativePath ≠ targetPath call metadata context.folderPath d.files ||
    (!failsAfterClaim call metadata && (row.key = (metadata.deviceUuid,metadata.assetId) ||
      (uploadedContent call d.files).all fun content => row.contentSha1 = some (lib.sha1 content)))

def streamDeclared (lib : Libraries) (call : UploadCall) (metadata : MobileTransferAssetMetadata) (d : Desktop) : Bool :=
  call.tempFilePath.isSome || (uploadedContent call d.files).all fun content =>
    metadata.contentSha1.all fun declared => lib.sha1 content = declared

def versionDeclared (metadata : MobileTransferAssetMetadata) (row : AssetRow) : Bool :=
  metadata.contentSha1.all fun declared => row.contentSha1 = some declared

def sound (lib : Libraries) (call : UploadCall) (d : Desktop) : Bool :=
  match parseTransferAssetMetadata lib call.metadataPayload with
  | .error _ => true
  | .ok metadata =>
    match authoriseTransfer lib d.store assetProofPurpose [.transferring] metadata.schema metadata.sessionId
        metadata.deviceUuid metadata.trustProof with
    | .error _ | .ok none => true
    | .ok (some context) =>
      match existingSignatureAsset d metadata,existingAssetVersion d metadata context.folderPath with
      | .ok none,some row => versionDeclared metadata row
      | .ok none,none => streamDeclared lib call metadata d && d.store.assets.rows.all (nameUnclaimed lib call metadata context d)
      | _,_ => true

def kept (lib : Libraries) (d : Desktop) : FolderEvent → Bool
  | .upload call => promised lib d (.upload call) && sound lib call d
  | .userDeletes _ _ | .stage _ _ => true

structure Fresh (d : Desktop) : Prop where
  unrecorded : d.store.assets.rows = []
  bound : SessionsBound d.store

def BackedUp (lib : Libraries) (d : Desktop) (deviceUuid : String) (path : RelativePath) (declared : String) : Prop :=
  ∃ folderPath content, boundFolderPath d.store deviceUuid = some folderPath ∧
    readFile d.files (.asset folderPath path) = some content ∧ lib.sha1 content = declared

structure Acknowledges (lib : Libraries) (counted : FolderEvent → Bool) (d : Desktop) : Prop where
  upload : ∀ call response next metadata declared, counted (.upload call) = true →
    handleAssetUpload lib call d = (.ok response,next) → response.statusCode = 200 →
    parseTransferAssetMetadata lib call.metadataPayload = .ok metadata → metadata.contentSha1 = some declared →
    ∃ path, response.localRelativePath = some path ∧ BackedUp lib next metadata.deviceUuid path declared
  existence : ∀ payload request response reported, parseTransferAssetExistenceRequest lib payload = .ok request →
    handleAssetExistenceRequest lib payload d = .ok response → response.matchedAssets = some reported →
    ∃ answer : MobileTransferAssetSignature → Option RelativePath,
      reported = request.assets.filterMap (fun asset => (answer asset).map (MatchedAsset.mk asset.assetId)) ∧
      ∀ asset ∈ request.assets, ∀ path, answer asset = some path →
        BackedUp lib d request.session.deviceUuid path asset.contentSha1

-- A recorded file, while it exists, is the content its row says.
structure RowsTrue (lib : Libraries) (d : Desktop) : Prop where
  bound : SessionsBound d.store
  visible : ∀ row ∈ d.store.assets.rows, row.localRelativePath.Visible
  digest : ∀ row ∈ d.store.assets.rows, ∀ folderPath, boundFolderPath d.store row.deviceUuid = some folderPath →
    ∀ content, readFile d.files (.asset folderPath row.localRelativePath) = some content →
      row.contentSha1 = some (lib.sha1 content)

theorem fresh_true (fresh : Fresh d) : RowsTrue lib d := by
  refine ⟨fresh.bound,?_,?_⟩ <;> simp [fresh.unrecorded]

theorem true_unwritten (old : RowsTrue lib d) (same : SameBindings d.store next.store)
    (assets : next.store.assets = d.store.assets)
    (files : ∀ row ∈ d.store.assets.rows, ∀ folderPath, boundFolderPath d.store row.deviceUuid = some folderPath →
      ∀ content, readFile next.files (.asset folderPath row.localRelativePath) = some content →
        row.contentSha1 = some (lib.sha1 content)) : RowsTrue lib next := by
  refine ⟨same_sessionsBound same old.bound,?_,?_⟩
  · rw [assets]; exact old.visible
  · rw [assets]
    intro row present folderPath bound
    rw [same_bound same] at bound
    exact files row present folderPath bound

theorem sound_version (allowed : sound lib call d = true) (accepted : Accepted lib call d metadata context)
    (unsigned : existingSignatureAsset d metadata = .ok none) {row : AssetRow}
    (found : existingAssetVersion d metadata context.folderPath = some row) : versionDeclared metadata row = true := by
  simpa [sound,accepted.parsed,accepted.granted,unsigned,found] using allowed

theorem sound_storing (allowed : sound lib call d = true) (accepted : Accepted lib call d metadata context)
    (unmatched : Unmatched d metadata context) : streamDeclared lib call metadata d = true ∧
      ∀ row ∈ d.store.assets.rows, nameUnclaimed lib call metadata context d row = true := by
  simpa [sound,accepted.parsed,accepted.granted,unmatched.signature,unmatched.version] using allowed

theorem unclaimed_parts {row : AssetRow} (allowed : nameUnclaimed lib call metadata context d row = true)
    (bound : boundFolderPath d.store row.deviceUuid = some context.folderPath)
    (named : row.localRelativePath = targetPath call metadata context.folderPath d.files) :
    failsAfterClaim call metadata = false ∧ (row.key = (metadata.deviceUuid,metadata.assetId) ∨
      ∀ content, uploadedContent call d.files = some content → row.contentSha1 = some (lib.sha1 content)) := by
  simpa [nameUnclaimed,bound,named,Option.all_eq_true] using allowed

theorem stored_digest (delivered : promised lib d (.upload call) = true) {folderPath : String} {files : Files}
    {stored : StoredMobileTransferAsset}
    (effect : StoreEffect lib call metadata folderPath d.files (.ok stored) files) :
    ∃ content, uploadedContent call d.files = some content ∧
      readFile files (.asset folderPath (targetPath call metadata folderPath d.files)) = some content ∧
      stored.contentSha1 = lib.sha1 content := by
  obtain ⟨-,-,content,handed,-,there,digest,-⟩ := effect.stored stored rfl
  refine ⟨content,handed,there,?_⟩
  rcases digest with computed | ⟨staged,text,provided,normal⟩
  · exact computed
  · obtain ⟨path,location⟩ := Option.isSome_iff_exists.mp staged
    have present : readFile d.files (.staged path) = some content := by simpa [uploadedContent,location] using handed
    have delivered : text = lib.sha1 content := by simpa [promised,location,present,provided] using delivered
    rw [normal,delivered,normalised_sha1]

-- The rows stay true through a store: the new row's file is the one just written, and
-- no old row points at it unless its content is the same.
theorem stored_true (old : RowsTrue lib d) (allowed : kept lib d (.upload call) = true)
    (accepted : Accepted lib call d metadata context) (unmatched : Unmatched d metadata context)
    {stored : StoredMobileTransferAsset} {files : Files}
    (effect : StoreEffect lib call metadata context.folderPath d.files (.ok stored) files) :
    RowsTrue lib {d with
      files
      store:=countTransferred (upsertMobileAssetRecord d.store (storedRow metadata call.currentTime stored)) metadata} := by
  obtain ⟨delivered,allowed⟩ := Bool.and_eq_true_iff.mp allowed
  obtain ⟨-,unclaimed⟩ := sound_storing allowed accepted unmatched
  obtain ⟨content,handed,there,digest⟩ := stored_digest delivered effect
  obtain ⟨-,placed,-⟩ := effect.stored stored rfl
  have home := context_bound old.bound (authorise_parts accepted.granted).1
  have same : SameBindings d.store
      (countTransferred (upsertMobileAssetRecord d.store (storedRow metadata call.currentTime stored)) metadata) :=
    same_trans upsert_same increment_same
  have newTrue : (storedRow metadata call.currentTime stored).contentSha1 = some (lib.sha1 content) := by
    rw [storedRow,digest,lower_sha1]
  have rows : ∀ row ∈ (countTransferred (upsertMobileAssetRecord d.store
      (storedRow metadata call.currentTime stored)) metadata).assets.rows,
      row = storedRow metadata call.currentTime stored ∨
        (row ∈ d.store.assets.rows ∧ row.key ≠ (metadata.deviceUuid,metadata.assetId)) := by
    intro row present
    rw [countTransferred,increment_assets] at present
    rcases mem_upsert present with new | kept | ⟨before,-,equal,merged⟩
    · exact .inl new
    · exact .inr kept
    · obtain ⟨device,asset⟩ := Prod.mk.inj equal
      refine .inl ?_
      rw [merged,device,asset]
  refine ⟨same_sessionsBound same old.bound,?_,?_⟩
  · intro row present
    rcases rows row present with rfl | ⟨before,-⟩
    · change stored.localRelativePath.Visible
      rw [placed]; exact target_visible
    · exact old.visible row before
  · intro row present folderPath bound bytes found
    rw [same_bound same] at bound
    rcases rows row present with rfl | ⟨before,other⟩
    · change boundFolderPath d.store metadata.deviceUuid = some folderPath at bound
      change readFile files (.asset folderPath stored.localRelativePath) = some bytes at found
      cases home.symm.trans bound
      rw [placed,there] at found
      cases found
      exact newTrue
    · by_cases claimed : (folderPath,row.localRelativePath) =
        (context.folderPath,targetPath call metadata context.folderPath d.files)
      · obtain ⟨rfl,named⟩ := Prod.mk.inj claimed
        rcases (unclaimed_parts (unclaimed row before) bound named).2 with own | equal
        · exact absurd own other
        · rw [named,there] at found
          cases found
          exact equal content handed
      · rw [effect.beside _ _ (old.visible row before) claimed] at found
        exact old.digest row before folderPath bound bytes found

theorem failed_true (old : RowsTrue lib d) (allowed : kept lib d (.upload call) = true)
    (accepted : Accepted lib call d metadata context) (unmatched : Unmatched d metadata context) {error : OSError}
    {files : Files} (effect : StoreEffect lib call metadata context.folderPath d.files (.error error) files)
    (same : SameBindings d.store next.store) (assets : next.store.assets = d.store.assets)
    (cleaned : next.files = cleanupTempUploadFile call files) : RowsTrue lib next := by
  obtain ⟨-,unclaimed⟩ := sound_storing (Bool.and_eq_true_iff.mp allowed).2 accepted unmatched
  refine true_unwritten old same assets ?_
  intro row present folderPath bound content found
  rw [cleaned,read_cleanup] at found
  by_cases claimed : (folderPath,row.localRelativePath) =
    (context.folderPath,targetPath call metadata context.folderPath d.files)
  · obtain ⟨rfl,named⟩ := Prod.mk.inj claimed
    obtain ⟨early,-⟩ := unclaimed_parts (unclaimed row present) bound named
    have untouched := effect.failed error rfl early
    rw [named,untouched,← named] at found
    exact old.digest row present _ bound content found
  · rw [effect.beside _ _ (old.visible row present) claimed] at found
    exact old.digest row present folderPath bound content found

theorem skipped_true (old : RowsTrue lib d) {message : String} {row : AssetRow} :
    RowsTrue lib (skipUpload call metadata message row d).2 := by
  have same : SameBindings d.store (countTransferred d.store metadata) := increment_same
  refine true_unwritten old same increment_assets ?_
  intro row present folderPath bound content found
  rw [skipUpload,read_cleanup] at found
  exact old.digest row present folderPath bound content found

theorem true_preserved (old : RowsTrue lib d) (event : FolderEvent) (allowed : kept lib d event = true)
    (taken : (folderSystem lib).step d event = some next) : RowsTrue lib next := by
  cases event with
  | upload call =>
      cases taken
      have outcome : UploadOutcome lib call d (handleAssetUpload lib call d) := upload_outcome
      generalize handleAssetUpload lib call d = answered at outcome
      cases outcome with
      | @refused result after _ store files =>
          refine true_unwritten old (store ▸ same_refl) (by rw [store]) ?_
          intro row present folderPath bound content found
          have unmoved : readFile after.files (.asset folderPath row.localRelativePath) =
              readFile d.files (.asset folderPath row.localRelativePath) := by
            rcases files with equal | equal
            · rw [equal]
            · rw [equal,read_cleanup]
          exact old.digest row present folderPath bound content (unmoved ▸ found)
      | skippedSignature => exact skipped_true old
      | skippedVersion => exact skipped_true old
      | stored accepted unmatched effect => exact stored_true old allowed accepted unmatched effect
      | failed accepted unmatched effect _ same assets cleaned =>
          exact failed_true old allowed accepted unmatched effect same assets cleaned
  | userDeletes folderPath path =>
      cases taken
      refine true_unwritten old same_refl rfl ?_
      intro row present folder bound content found
      rw [read_unlink] at found
      split at found
      · cases found
      · exact old.digest row present folder bound content found
  | stage path content =>
      cases taken
      refine true_unwritten old same_refl rfl ?_
      intro row present folder bound content found
      rw [read_write,if_neg (by simp)] at found
      exact old.digest row present folder bound content found

theorem true_reached {start : Desktop} (fresh : Fresh start)
    (path : Reaches (folderSystem lib) (fun d event => kept lib d event = true) start d) : RowsTrue lib d :=
  reaches_preserves (fun _ event _ old allowed taken => true_preserved old event allowed taken) (fresh_true fresh) path

theorem signature_answer (trueRows : RowsTrue lib d) {metadata : MobileTransferAssetMetadata} {row : AssetRow}
    (found : existingSignatureAsset d metadata = .ok (some row)) :
    ∃ declared, metadata.contentSha1 = some declared ∧
      BackedUp lib d metadata.deviceUuid row.localRelativePath (lower (strip declared)) := by
  unfold existingSignatureAsset at found
  split at found
  · rename_i contentSha1 fileSizeBytes createdAt declared _ _
    split at found
    · obtain ⟨folderPath,bound,present,device,signed,there⟩ := records_parts (Except.ok.inj found)
      obtain ⟨content,read⟩ := Option.isSome_iff_exists.mp there
      have equal := trueRows.digest row present folderPath (device ▸ bound) content read
      refine ⟨contentSha1,declared,folderPath,content,bound,read,?_⟩
      exact (Option.some.inj ((signature_parts signed).1.symm.trans equal)).symm
    · cases found
  · cases found

theorem version_answer (trueRows : RowsTrue lib d) (granted : getMobileTransferContext d.store metadata.sessionId
    metadata.deviceUuid = some context) {row : AssetRow}
    (found : existingAssetVersion d metadata context.folderPath = some row) {declared : String}
    (digest : row.contentSha1 = some declared) :
    BackedUp lib d metadata.deviceUuid row.localRelativePath declared := by
  obtain ⟨located,condition⟩ := Option.filter_eq_some_iff.mp found
  obtain ⟨-,there⟩ := Bool.and_eq_true_iff.mp condition
  obtain ⟨content,read⟩ := Option.isSome_iff_exists.mp there
  obtain ⟨present,key⟩ := find_mem located
  have device : row.deviceUuid = metadata.deviceUuid := (Prod.mk.inj key).1
  have bound := context_bound trueRows.bound granted
  have equal := trueRows.digest row present _ (device ▸ bound) content read
  exact ⟨context.folderPath,content,bound,read,(Option.some.inj (digest.symm.trans equal)).symm⟩

theorem parsed_digest {payload : Fields} (parsed : parseTransferAssetMetadata lib payload = .ok metadata) :
    optionalSha1Hex payload "sha1" = .ok metadata.contentSha1 := by
  unfold parseTransferAssetMetadata at parsed
  obtain ⟨_,-,parsed⟩ := bind_parts parsed
  obtain ⟨_,-,parsed⟩ := bind_parts parsed
  obtain ⟨_,-,parsed⟩ := bind_parts parsed
  obtain ⟨_,-,parsed⟩ := bind_parts parsed
  obtain ⟨_,-,parsed⟩ := bind_parts parsed
  obtain ⟨_,-,parsed⟩ := bind_parts parsed
  obtain ⟨contentSha1,declared,parsed⟩ := bind_parts parsed
  obtain ⟨_,-,parsed⟩ := bind_parts parsed
  obtain ⟨_,-,parsed⟩ := bind_parts parsed
  obtain ⟨_,-,parsed⟩ := bind_parts parsed
  obtain ⟨_,-,parsed⟩ := bind_parts parsed
  obtain ⟨_,-,parsed⟩ := bind_parts parsed
  obtain ⟨_,-,parsed⟩ := bind_parts parsed
  obtain ⟨_,-,parsed⟩ := bind_parts parsed
  cases parsed
  exact declared

theorem skipped_backed {path : RelativePath} {declared : String}
    (backed : BackedUp lib d metadata.deviceUuid path declared) :
    BackedUp lib {d with files:=cleanupTempUploadFile call d.files,store:=countTransferred d.store metadata}
      metadata.deviceUuid path declared := by
  obtain ⟨folderPath,content,bound,read,digest⟩ := backed
  refine ⟨folderPath,content,?_,?_,digest⟩
  · exact (same_bound increment_same _).trans bound
  · exact (read_cleanup _ _).trans read

theorem upload_backed (trueRows : RowsTrue lib d) (allowed : kept lib d (.upload call) = true) {response : Response}
    (answered : handleAssetUpload lib call d = (.ok response,next)) (accepted200 : response.statusCode = 200)
    (parsed : parseTransferAssetMetadata lib call.metadataPayload = .ok metadata) {declared : String}
    (declares : metadata.contentSha1 = some declared) :
    ∃ path, response.localRelativePath = some path ∧ BackedUp lib next metadata.deviceUuid path declared := by
  have outcome : UploadOutcome lib call d (handleAssetUpload lib call d) := upload_outcome
  have normal := optionalSha1_normal ((parsed_digest parsed).trans (congrArg Except.ok declares))
  rw [answered] at outcome
  generalize whole : ((.ok response,next) : Except Raised Response × Desktop) = pair at outcome
  cases outcome with
  | refused refusal => cases whole; exact absurd (refusal _ rfl) (by simp [accepted200])
  | skippedSignature accepted found =>
      cases parsed.symm.trans accepted.parsed
      obtain ⟨digest,equal,backed⟩ := signature_answer trueRows found
      cases declares.symm.trans equal
      rw [normal.2] at backed
      obtain ⟨ok,rfl⟩ := Prod.mk.inj whole
      cases ok
      exact ⟨_,rfl,skipped_backed backed⟩
  | skippedVersion accepted unsigned found =>
      cases parsed.symm.trans accepted.parsed
      have agreed := sound_version (Bool.and_eq_true_iff.mp allowed).2 accepted unsigned found
      rw [versionDeclared,declares,Option.all_some,decide_eq_true_eq] at agreed
      have backed := version_answer trueRows (authorise_parts accepted.granted).1 found agreed
      obtain ⟨ok,rfl⟩ := Prod.mk.inj whole
      cases ok
      exact ⟨_,rfl,skipped_backed backed⟩
  | @stored _ context stored files accepted unmatched effect =>
      cases parsed.symm.trans accepted.parsed
      obtain ⟨delivered,soundCall⟩ := Bool.and_eq_true_iff.mp allowed
      obtain ⟨content,handed,there,digest⟩ := stored_digest delivered effect
      obtain ⟨-,placed,_,-,-,-,-,checked⟩ := effect.stored stored rfl
      obtain ⟨ok,rfl⟩ := Prod.mk.inj whole
      cases ok
      have home := context_bound trueRows.bound (authorise_parts accepted.granted).1
      refine ⟨_,rfl,context.folderPath,content,?_,?_,?_⟩
      · exact (same_bound (same_trans upsert_same increment_same) _).trans home
      · exact placed ▸ there
      · by_cases staged : call.tempFilePath.isSome = true
        · rw [← digest,checked staged declared declares,normal.1]
        · have stream := (sound_storing soundCall accepted unmatched).1
          simpa [streamDeclared,staged,handed,declares] using stream
  | failed _ _ _ refusal => cases whole; exact absurd (refusal _ rfl) (by simp [accepted200])

theorem mapM_parts {ε α β : Type} {f : α → Except ε β} {items : List α} {results : List β}
    (done : items.mapM f = .ok results) {result : β} (member : result ∈ results) : ∃ item, f item = .ok result := by
  induction items generalizing results with
  | nil => cases done; cases member
  | cons item rest ih =>
      rw [List.mapM_cons] at done
      obtain ⟨first,parsed,done⟩ := bind_parts done
      obtain ⟨others,tail,done⟩ := bind_parts done
      cases done
      rcases List.mem_cons.mp member with rfl | later
      · exact ⟨item,parsed⟩
      · exact ih tail later

theorem requested_digest {payload : Fields} {request : MobileTransferAssetExistenceRequest}
    (parsed : parseTransferAssetExistenceRequest lib payload = .ok request) {asset : MobileTransferAssetSignature}
    (member : asset ∈ request.assets) : lower (strip asset.contentSha1) = asset.contentSha1 := by
  unfold parseTransferAssetExistenceRequest at parsed
  obtain ⟨session,-,parsed⟩ := bind_parts parsed
  split at parsed
  · obtain ⟨assets,all,parsed⟩ := bind_parts parsed
    cases parsed
    obtain ⟨item,read⟩ := mapM_parts all member
    unfold parseAssetSignature at read
    split at read
    · obtain ⟨_,-,read⟩ := bind_parts read
      obtain ⟨contentSha1,digest,read⟩ := bind_parts read
      obtain ⟨_,-,read⟩ := bind_parts read
      obtain ⟨_,-,read⟩ := bind_parts read
      cases read
      exact requireSha1_normal digest
    · cases read
  · cases parsed

theorem existence_parts {payload : Fields} {request : MobileTransferAssetExistenceRequest} {response : Response}
    {reported : List MatchedAsset} (parsed : parseTransferAssetExistenceRequest lib payload = .ok request)
    (answered : handleAssetExistenceRequest lib payload d = .ok response)
    (listed : response.matchedAssets = some reported) :
    reported = matchedAssets (getMobileAssetRecordsBySignatures d.store d.files request.session.deviceUuid
      (signatureKeys request.assets)) request.assets := by
  unfold handleAssetExistenceRequest at answered
  split at answered
  · rename_i result refused
    subst answered
    obtain ⟨_,_,-,rfl⟩ := session_refused refused
    cases listed
  · rename_i asked context passed
    cases parsed.symm.trans (session_parts passed).1
    unfold answerExistence at answered
    split at answered
    · cases answered
    · cases answered
      exact (Option.some.inj listed).symm

-- In any state at all, what is reported is recorded under the signature that was asked about, and present.
theorem existence_rows {payload : Fields} {request : MobileTransferAssetExistenceRequest} {response : Response}
    {reported : List MatchedAsset} (parsed : parseTransferAssetExistenceRequest lib payload = .ok request)
    (answered : handleAssetExistenceRequest lib payload d = .ok response)
    (listed : response.matchedAssets = some reported) :
    ∃ answer : MobileTransferAssetSignature → Option RelativePath,
      reported = request.assets.filterMap (fun asset => (answer asset).map (MatchedAsset.mk asset.assetId)) ∧
      ∀ asset ∈ request.assets, ∀ path, answer asset = some path → ∃ row ∈ d.store.assets.rows,
        row.deviceUuid = request.session.deviceUuid ∧ row.localRelativePath = path ∧
        row.signature? = some ⟨asset.contentSha1,asset.fileSizeBytes,asset.createdAt⟩ ∧
        ∃ folderPath, boundFolderPath d.store row.deviceUuid = some folderPath ∧
          fileExists d.files (.asset folderPath path) = true := by
  have reported_ := existence_parts parsed answered listed
  generalize records : getMobileAssetRecordsBySignatures d.store d.files request.session.deviceUuid
    (signatureKeys request.assets) = found at reported_
  refine ⟨fun asset => (found.lookup (mobileAssetSignatureKey asset.contentSha1 asset.fileSizeBytes
    asset.createdAt)).map AssetRow.localRelativePath,?_,?_⟩
  · rw [reported_,matchedAssets]
    simp only [Option.map_map]
    rfl
  · intro asset member path answer
    obtain ⟨row,located,rfl⟩ := Option.map_eq_some_iff.mp answer
    rw [← records] at located
    obtain ⟨folderPath,bound,present,device,signed,there⟩ := records_parts located
    refine ⟨row,present,device,rfl,?_,folderPath,device ▸ bound,there⟩
    rw [signed,mobileAssetSignatureKey,requested_digest parsed member]

theorem existence_backed (trueRows : RowsTrue lib d) {payload : Fields} {request : MobileTransferAssetExistenceRequest}
    {response : Response} {reported : List MatchedAsset}
    (parsed : parseTransferAssetExistenceRequest lib payload = .ok request)
    (answered : handleAssetExistenceRequest lib payload d = .ok response)
    (listed : response.matchedAssets = some reported) :
    ∃ answer : MobileTransferAssetSignature → Option RelativePath,
      reported = request.assets.filterMap (fun asset => (answer asset).map (MatchedAsset.mk asset.assetId)) ∧
      ∀ asset ∈ request.assets, ∀ path, answer asset = some path →
        BackedUp lib d request.session.deviceUuid path asset.contentSha1 := by
  obtain ⟨answer,same,rows⟩ := existence_rows parsed answered listed
  refine ⟨answer,same,?_⟩
  intro asset member path found
  obtain ⟨row,present,device,rfl,signed,folderPath,bound,there⟩ := rows asset member path found
  obtain ⟨content,read⟩ := Option.isSome_iff_exists.mp there
  have equal := trueRows.digest row present folderPath bound content read
  exact ⟨folderPath,content,device ▸ bound,read,(Option.some.inj ((signature_parts signed).1.symm.trans equal)).symm⟩

theorem acknowledged_backed_up (lib : Libraries) (start d : Desktop) (fresh : Fresh start)
    (path : Reaches (folderSystem lib) (fun d event => kept lib d event = true) start d) :
    Acknowledges lib (kept lib d) d :=
  have trueRows := true_reached fresh path
  ⟨fun _ _ _ _ _ allowed answered accepted200 parsed declares =>
    upload_backed trueRows allowed answered accepted200 parsed declares,
   fun _ _ _ _ parsed answered listed => existence_backed trueRows parsed answered listed⟩

theorem sample_fresh : Fresh sampleDesktop := by
  refine ⟨rfl,?_⟩
  intro ids member folder located
  simp only [sampleDesktop,sampleStore,List.map_cons,List.map_nil,List.mem_singleton] at member
  subst member
  cases located
  rfl

def digestOfA : String := "86f7e437faa5a7fce15d1ddcb9eaeaea377667b8"
def digestOfB : String := "e9d71f5ee7c92d6dc9e92ffdad17b8bd49418f98"

def reusedName : List FolderEvent :=
  [.stage "/tmp/1" [97],.upload (sampleCall "asset-1" "/tmp/1" digestOfA),
    .userDeletes "/backup/Phone" ⟨"2024-01","IMG_0001.JPG"⟩,
    .stage "/tmp/2" [98],.upload (sampleCall "asset-2" "/tmp/2" digestOfB),.stage "/tmp/3" [97]]

def resent : UploadCall := sampleCall "asset-1" "/tmp/3" digestOfA

def photoPath : RelativePath := ⟨"2024-01","IMG_0001.JPG"⟩

def answeredWithB (d : Desktop) : Bool :=
  match parseTransferAssetMetadata sampleLibraries resent.metadataPayload,handleAssetUpload sampleLibraries resent d with
  | .ok metadata,(.ok response,next) =>
    metadata.contentSha1 = some digestOfA && response.statusCode = 200 && response.localRelativePath = some photoPath &&
      boundFolderPath next.store metadata.deviceUuid = some "/backup/Phone" &&
      readFile next.files (.asset "/backup/Phone" photoPath) = some [98]
  | _,_ => false

theorem answeredWithB_parts (answered : answeredWithB d = true) : ∃ metadata response next,
    parseTransferAssetMetadata sampleLibraries resent.metadataPayload = .ok metadata ∧
    handleAssetUpload sampleLibraries resent d = (.ok response,next) ∧ metadata.contentSha1 = some digestOfA ∧
    response.statusCode = 200 ∧ response.localRelativePath = some photoPath ∧
    boundFolderPath next.store metadata.deviceUuid = some "/backup/Phone" ∧
    readFile next.files (.asset "/backup/Phone" photoPath) = some [98] := by
  unfold answeredWithB at answered
  split at answered
  · rename_i metadata response next parsed handled
    simp only [Bool.and_eq_true,decide_eq_true_eq] at answered
    obtain ⟨⟨⟨⟨declared,code⟩,path⟩,bound⟩,content⟩ := answered
    exact ⟨metadata,response,next,parsed,handled,declared,code,path,bound,content⟩
  · cases answered

-- The second photo took the freed name, and the first one's row still names it.
theorem reused_name_acknowledged : ¬ ∀ (lib : Libraries) (start d : Desktop), Fresh start →
    Reaches (folderSystem lib) (fun d event => promised lib d event = true) start d →
    Acknowledges lib (promised lib d) d := by
  intro all
  obtain ⟨d,path,seen⟩ := checkedRun_exhibits (folderSystem sampleLibraries)
    (fun d event => promised sampleLibraries d event = true) sampleDesktop reusedName
    (fun d => promised sampleLibraries d (.upload resent) && answeredWithB d) (by decide +kernel)
  obtain ⟨delivered,answered⟩ := Bool.and_eq_true_iff.mp seen
  obtain ⟨metadata,response,next,parsed,handled,declared,code,placed,bound,content⟩ := answeredWithB_parts answered
  obtain ⟨named,placed',folderPath,bytes,bound',content',digest⟩ :=
    (all sampleLibraries sampleDesktop d sample_fresh path).upload resent response next metadata digestOfA
      delivered handled code parsed declared
  cases placed.symm.trans placed'
  cases bound.symm.trans bound'
  cases content.symm.trans content'
  exact absurd digest (by decide)

theorem acknowledged_first_photo : ∃ d, Reaches (folderSystem sampleLibraries)
      (fun d event => kept sampleLibraries d event = true) sampleDesktop d ∧
    readFile d.files (.asset "/backup/Phone" photoPath) = some [97] ∧
    Acknowledges sampleLibraries (kept sampleLibraries d) d := by
  obtain ⟨d,path,seen⟩ := checkedRun_exhibits (folderSystem sampleLibraries)
    (fun d event => kept sampleLibraries d event = true) sampleDesktop (reusedName.take 2)
    (fun d => readFile d.files (.asset "/backup/Phone" photoPath) = some [97]) (by decide +kernel)
  exact ⟨d,path,of_decide_eq_true seen,acknowledged_backed_up sampleLibraries sampleDesktop d sample_fresh path⟩

end ImageSearch.AcknowledgedUploads
