import ImageSearch.BackupRuns
import ImageSearch.AcknowledgedUploads

namespace ImageSearch.StoredThenAsked
open Transitions Payload Tables BackupFolder MobileStore TransferService UploadOutcomes PairingStore ReferentialStore
open BackupRuns IsoTimestamps AcknowledgedUploads

variable {identity : PairingService.DesktopIdentity} {lib : Libraries} {d next : Desktop} {store : Store} {row : AssetRow}
  {folder : FolderRow} {call : UploadCall} {metadata : MobileTransferAssetMetadata} {sha1 : String} {size : Int}
  {instant : DateTime}

-- A JSON object that declares this digest, in any letter case, this size, and this
-- instant in any spelling: the metadata of an upload, or a candidate.
structure Declares (payload : Fields) (sha1 : String) (size : Int) (instant : DateTime) : Prop where
  digest : ∃ text, Payload.get payload "sha1" = .string text ∧ isSha1Hex (strip text) = true ∧ lower (strip text) = sha1
  size : Payload.get payload "file_size" = .int size
  created : ∃ text, ∃ spelling : Spelling, Payload.get payload "created_at" = .string text ∧ strip text = spelling.text ∧
    spelling.instant = instant

-- The answer tells the phone about the candidate, when the request is accepted.
def Reports (lib : Libraries) (d : Desktop) (deviceUuid sha1 : String) (size : Int) (instant : DateTime) : Prop :=
  ∀ payload items candidate assetId response, requireNonEmptyString payload "device_uuid" = .ok deviceUuid →
    Payload.get payload "assets" = .array items → .object candidate ∈ items → Declares candidate sha1 size instant →
    requireNonEmptyString candidate "asset_id" = .ok assetId →
    handleAssetExistenceRequest lib payload d = .ok response → response.status = .checked →
    ∃ found ∈ response.matchedAssets.getD [], found.assetId = assetId

-- A candidate is reported only for a row of the device that has its signature and a file.
def Genuine (lib : Libraries) (d : Desktop) : Prop :=
  ∀ payload request response reported, parseTransferAssetExistenceRequest lib payload = .ok request →
    handleAssetExistenceRequest lib payload d = .ok response → response.matchedAssets = some reported →
    ∃ answer : MobileTransferAssetSignature → Option RelativePath,
      reported = request.assets.filterMap (fun asset => (answer asset).map (MatchedAsset.mk asset.assetId)) ∧
      ∀ asset ∈ request.assets, ∀ path, answer asset = some path → ∃ row ∈ d.store.assets.rows,
        row.deviceUuid = request.session.deviceUuid ∧ row.localRelativePath = path ∧
        row.signature? = some ⟨asset.contentSha1,asset.fileSizeBytes,asset.createdAt⟩ ∧
        ∃ folderPath, boundFolderPath d.store row.deviceUuid = some folderPath ∧
          fileExists d.files (.asset folderPath path) = true

-- No later request replaces the asset's row by another version, and nobody removes its file.
def unreplaced (lib : Libraries) (metadata : MobileTransferAssetMetadata) (folderPath : String) (path : RelativePath) :
    BackupEvent → Bool
  | .upload call =>
    match parseTransferAssetMetadata lib call.metadataPayload with
    | .ok other => other.deviceUuid ≠ metadata.deviceUuid || other.assetId ≠ metadata.assetId ||
        other.assetVersion = metadata.assetVersion
    | .error _ => true
  | .files files => fileExists files (.asset folderPath path)
  | _ => true

-- The library keeps what it has of the device: its folder stays in the library, and no
-- other phone takes its place.
def retained (deviceUuid : String) (d : Desktop) : BackupEvent → Bool
  | .accept pairing => !takesPlace d.store pairing deviceUuid
  | .deleteFolders folderPaths => !deletedDevice d.store (deletedFolderIds d.store folderPaths) deviceUuid
  | _ => true

def StoreThenAsk (identity : PairingService.DesktopIdentity) (lib : Libraries) (before : Desktop → BackupEvent → Bool)
    (counted : MobileTransferAssetMetadata → UploadCall → Desktop → Bool)
    (after : String → Desktop → BackupEvent → Bool) : Prop :=
  ∀ start d stored asked call metadata context response path sha1 size instant, Referential start.store →
    Reaches (backupSystem identity lib) (fun d event => before d event = true) start d →
    parseTransferAssetMetadata lib call.metadataPayload = .ok metadata → Declares call.metadataPayload sha1 size instant →
    counted metadata call d = true → handleAssetUpload lib call d = (.ok response,stored) → response.statusCode = 200 →
    response.status = .stored →
    getMobileTransferContext d.store metadata.sessionId metadata.deviceUuid = some context →
    response.localRelativePath = some path →
    Reaches (backupSystem identity lib) (fun d event => before d event = true ∧ after metadata.deviceUuid d event = true ∧
      unreplaced lib metadata context.folderPath path event = true) stored asked →
    Reports lib asked metadata.deviceUuid sha1 size instant ∧ Genuine lib asked

section Requests
variable {payload : Fields} {ε α β : Type}

theorem mapM_results {f : α → Except ε β} {items : List α} {results : List β} (done : items.mapM f = .ok results)
    {item : α} (member : item ∈ items) : ∃ result ∈ results, f item = .ok result := by
  induction items generalizing results with
  | nil => cases member
  | cons head rest ih =>
      rw [List.mapM_cons] at done
      obtain ⟨first,parsed,done⟩ := bind_parts done
      obtain ⟨others,tail,done⟩ := bind_parts done
      cases done
      rcases List.mem_cons.mp member with rfl | later
      · exact ⟨first,List.mem_cons_self,parsed⟩
      · obtain ⟨result,there,read⟩ := ih tail later
        exact ⟨result,List.mem_cons_of_mem _ there,read⟩

theorem spelling_nonempty (spelling : Spelling) : spelling.text ≠ "" := by
  intro empty
  have none : spelling.chars = [] := String.ofList_injective empty
  simp [Stated.chars,decimal] at none

theorem ok_bind {value : α} {rest : α → Except ε β} : ((.ok value : Except ε α) >>= rest) = rest value := rfl

theorem string_read {fieldName text : String} (there : Payload.get payload fieldName = .string text)
    (present : strip text ≠ "") : requireNonEmptyString payload fieldName = .ok (strip text) ∧
      optionalNonEmptyString payload fieldName = .ok (some (strip text)) := by
  simp [requireNonEmptyString,optionalNonEmptyString,there,present]

theorem hex_nonempty {text : String} (hex : isSha1Hex text = true) : text ≠ "" := by
  intro empty
  rw [empty] at hex
  simp [isSha1Hex] at hex

theorem sha1_read {fieldName text : String} (there : Payload.get payload fieldName = .string text)
    (hex : isSha1Hex (strip text) = true) : requireSha1Hex payload fieldName = .ok (lower (strip text)) ∧
      optionalSha1Hex payload fieldName = .ok (some (lower (strip text))) := by
  obtain ⟨required,optional⟩ := string_read there (hex_nonempty hex)
  constructor
  · simp only [requireSha1Hex,required,ok_bind,hex,if_true]
    rfl
  · simp only [optionalSha1Hex,optional,ok_bind,hex,if_true]
    rfl

theorem int_read {fieldName : String} {value read : Int} (there : Payload.get payload fieldName = .int value)
    (done : requireNonNegativeInt payload fieldName = .ok read) : read = value := by
  unfold requireNonNegativeInt at done
  rw [there] at done
  dsimp only at done
  split at done
  · cases done
  · exact (Except.ok.inj done).symm

theorem optionalInt_read {fieldName : String} {value : Int} {read : Option Int}
    (there : Payload.get payload fieldName = .int value) (done : optionalNonNegativeInt payload fieldName = .ok read) :
    read = some value := by
  unfold optionalNonNegativeInt at done
  rw [there] at done
  obtain ⟨found,required,rfl⟩ : ∃ found, requireNonNegativeInt payload fieldName = .ok found ∧ some found = read := by
    cases outcome : requireNonNegativeInt payload fieldName with
    | error raised => rw [outcome] at done; cases done
    | ok found => rw [outcome] at done; exact ⟨found,rfl,Except.ok.inj done⟩
  rw [int_read there required]

theorem timestamp_read (reads : ReadsSpellings lib) {fieldName text : String} {spelling : Spelling} {read : Option DateTime}
    (there : Payload.get payload fieldName = .string text) (same : strip text = spelling.text)
    (done : (optionalNonEmptyString payload fieldName >>= parseOptionalTimestamp lib) = .ok read) :
    read = some spelling.instant := by
  have present : strip text ≠ "" := same ▸ spelling_nonempty spelling
  rw [(string_read there present).2,same] at done
  cases read with
  | none =>
      exfalso
      change parseOptionalTimestamp lib (some spelling.text) = .ok none at done
      unfold parseOptionalTimestamp at done
      dsimp only at done
      split at done
      · cases done
      · split at done <;> cases done
  | some instant => rw [spelled_timestamp reads done]

theorem requiredTimestamp_read (reads : ReadsSpellings lib) {fieldName text : String} {spelling : Spelling}
    {read : DateTime} (there : Payload.get payload fieldName = .string text) (same : strip text = spelling.text)
    (done : requireTimestamp lib payload fieldName = .ok read) : read = spelling.instant := by
  have present : strip text ≠ "" := same ▸ spelling_nonempty spelling
  unfold requireTimestamp at done
  obtain ⟨found,required,done⟩ := bind_parts done
  rw [Except.ok.inj (required.symm.trans (string_read there present).1),same] at done
  obtain ⟨value,parsed,done⟩ := bind_parts done
  cases value with
  | none => cases done
  | some value =>
      have equal : value = read := Except.ok.inj done
      rw [← equal,spelled_timestamp reads parsed]

theorem declared_metadata (reads : ReadsSpellings lib) (declares : Declares payload sha1 size instant)
    (parsed : parseTransferAssetMetadata lib payload = .ok metadata) :
    metadata.contentSha1 = some sha1 ∧ metadata.fileSizeBytes = some size ∧ metadata.createdAt = some instant := by
  unfold parseTransferAssetMetadata at parsed
  obtain ⟨_,-,parsed⟩ := bind_parts parsed
  obtain ⟨_,-,parsed⟩ := bind_parts parsed
  obtain ⟨_,-,parsed⟩ := bind_parts parsed
  obtain ⟨_,-,parsed⟩ := bind_parts parsed
  obtain ⟨_,-,parsed⟩ := bind_parts parsed
  obtain ⟨_,-,parsed⟩ := bind_parts parsed
  obtain ⟨contentSha1,digest,parsed⟩ := bind_parts parsed
  obtain ⟨fileSizeBytes,bytes,parsed⟩ := bind_parts parsed
  obtain ⟨_,-,parsed⟩ := bind_parts parsed
  obtain ⟨_,-,parsed⟩ := bind_parts parsed
  obtain ⟨text,stated,parsed⟩ := bind_parts parsed
  obtain ⟨createdAt,created,parsed⟩ := bind_parts parsed
  obtain ⟨_,-,parsed⟩ := bind_parts parsed
  obtain ⟨_,-,parsed⟩ := bind_parts parsed
  rw [← Except.ok.inj parsed]
  refine ⟨?_,optionalInt_read declares.size bytes,?_⟩
  · obtain ⟨written,there,hex,same⟩ := declares.digest
    exact (Except.ok.inj (digest.symm.trans (sha1_read there hex).2)).trans (congrArg some same)
  · obtain ⟨written,spelling,there,same,named⟩ := declares.created
    have whole : (optionalNonEmptyString payload "created_at" >>= parseOptionalTimestamp lib) = .ok createdAt := by
      rw [stated]
      exact created
    exact (timestamp_read reads there same whole).trans (congrArg some named)

theorem declared_candidate (reads : ReadsSpellings lib) {candidate : Fields} {assetId : String}
    {asset : MobileTransferAssetSignature} (declares : Declares candidate sha1 size instant)
    (named : requireNonEmptyString candidate "asset_id" = .ok assetId)
    (parsed : parseAssetSignature lib (.object candidate) = .ok asset) :
    asset = ⟨assetId,sha1,size,instant⟩ := by
  unfold parseAssetSignature at parsed
  obtain ⟨name,found,parsed⟩ := bind_parts parsed
  obtain ⟨contentSha1,digest,parsed⟩ := bind_parts parsed
  obtain ⟨fileSizeBytes,bytes,parsed⟩ := bind_parts parsed
  obtain ⟨createdAt,created,parsed⟩ := bind_parts parsed
  obtain ⟨written,there,hex,same⟩ := declares.digest
  obtain ⟨text,spelling,there',same',named'⟩ := declares.created
  have digested : contentSha1 = sha1 := (Except.ok.inj (digest.symm.trans (sha1_read there hex).1)).trans same
  have stated : createdAt = instant := (requiredTimestamp_read reads there' same' created).trans named'
  rw [← Except.ok.inj parsed,Except.ok.inj (found.symm.trans named),digested,int_read declares.size bytes,stated]

end Requests

-- A stored asset as a later request finds it: its row, its file, and the folder its
-- device is bound to.
structure Standing (row : AssetRow) (folder : FolderRow) (d : Desktop) : Prop where
  referential : Referential d.store
  recorded : row ∈ d.store.assets.rows
  bound : (folder.id,row.deviceUuid) ∈ bindings d.store
  kept : folder ∈ d.store.folders.rows
  there : fileExists d.files (.asset folder.path row.localRelativePath) = true

theorem bound_path {deviceUuid : String} (referential : Referential store) (bound : (folder.id,deviceUuid) ∈ bindings store)
    (member : folder ∈ store.folders.rows) : boundFolderPath store deviceUuid = some folder.path := by
  rw [bound_columns]
  cases located : (store.mobileFolders.rows.map fun row => (row.folderId,row.deviceUuid)).find? (fun ids => ids.2 = deviceUuid) with
  | none =>
      have absent := List.find?_eq_none.mp located _ bound
      simp at absent
  | some ids =>
      have mine : ids ∈ bindings store := List.mem_of_find?_eq_some located
      have same : ids.2 = deviceUuid := by simpa using List.find?_some located
      rw [binding_device referential mine bound same]
      simp [find_of_mem member]

theorem context_folder {sessionId deviceUuid : String} {context : MobileTransferContext} (referential : Referential store)
    (found : getMobileTransferContext store sessionId deviceUuid = some context) :
    ∃ folder ∈ store.folders.rows, (folder.id,deviceUuid) ∈ bindings store ∧ folder.path = context.folderPath := by
  obtain ⟨session,device,folder,located,owner,-,present,rfl⟩ := context_parts found
  obtain ⟨member,-⟩ := find_mem located
  obtain ⟨there,same⟩ := find_mem present
  have bound := referential.sessions _ (List.mem_map_of_mem member)
  exact ⟨folder,there,by rw [same,← owner]; exact bound,rfl⟩

theorem standing_context {sessionId : String} {context : MobileTransferContext} (standing : Standing row folder d)
    (found : getMobileTransferContext d.store sessionId row.deviceUuid = some context) : context.folderPath = folder.path := by
  obtain ⟨other,there,bound,same⟩ := context_folder standing.referential found
  have ids := binding_device standing.referential bound standing.bound rfl
  have equal : other = folder := List.inj_on_of_nodup_map d.store.folders.distinct there standing.kept (Prod.mk.inj ids).1
  rw [← same,equal]

theorem exists_read {files files' : Files} {location : Location}
    (same : readFile files' location = readFile files location) (there : fileExists files location = true) :
    fileExists files' location = true := by
  unfold fileExists at there ⊢
  rw [same]
  exact there

theorem taken_other {path : RelativePath} {folderPath home : String} {files : Files}
    (there : fileExists files (.asset home path) = true) :
    (home,path) ≠ (folderPath,targetPath call metadata folderPath files) := by
  intro same
  obtain ⟨rfl,named⟩ := Prod.mk.inj same
  rw [named,target_free] at there
  cases there

-- An upload of another asset, or of this version again, leaves the asset as it stands.
theorem upload_standing (standing : Standing row folder d) (visible : row.localRelativePath.Visible)
    (versions : ∀ other, parseTransferAssetMetadata lib call.metadataPayload = .ok other →
      other.deviceUuid = row.deviceUuid → other.assetId = row.remoteAssetId → other.assetVersion = row.remoteAssetVersion) :
    Standing row folder (handleAssetUpload lib call d).2 := by
  have referential : Referential (handleAssetUpload lib call d).2.store := upload_referential standing.referential
  have same : SameBindings d.store (handleAssetUpload lib call d).2.store := upload_bindings
  have bound : (folder.id,row.deviceUuid) ∈ bindings (handleAssetUpload lib call d).2.store :=
    (spares_same same).binding _ standing.bound id
  have home : folder ∈ (handleAssetUpload lib call d).2.store.folders.rows := same.folders ▸ standing.kept
  have outcome : UploadOutcome lib call d (handleAssetUpload lib call d) := upload_outcome
  generalize handleAssetUpload lib call d = answered at *
  cases outcome with
  | refused _ store files =>
      refine ⟨referential,store ▸ standing.recorded,bound,home,?_⟩
      rcases files with kept | cleaned
      · rw [kept]; exact standing.there
      · rw [cleaned]; exact exists_read (read_cleanup _ _) standing.there
  | skippedSignature =>
      refine ⟨referential,?_,bound,home,exists_read (read_cleanup _ _) standing.there⟩
      simp only [skipUpload,countTransferred,increment_assets]
      exact standing.recorded
  | skippedVersion =>
      refine ⟨referential,?_,bound,home,exists_read (read_cleanup _ _) standing.there⟩
      simp only [skipUpload,countTransferred,increment_assets]
      exact standing.recorded
  | @stored other context stored files accepted unmatched effect =>
      refine ⟨referential,?_,bound,home,?_⟩
      · simp only [countTransferred,increment_assets]
        refine upsert_keeps standing.recorded ?_
        intro key
        obtain ⟨device,asset⟩ := Prod.mk.inj key
        change other.deviceUuid = row.deviceUuid at device
        change other.assetId = row.remoteAssetId at asset
        -- The row is the asset's own, so this version would have been skipped.
        have version := versions other accepted.parsed device asset
        have path := standing_context standing (device ▸ (authorise_parts accepted.granted).1)
        have unversioned := unmatched.version
        have found : getMobileAssetRecord d.store other.deviceUuid other.assetId = some row := by
          rw [device,asset]
          exact find_of_mem standing.recorded
        rw [existingAssetVersion,found,path] at unversioned
        simp [version,standing.there] at unversioned
      · exact exists_read (effect.beside _ _ visible (taken_other standing.there)) standing.there
  | failed _ _ effect _ _ assets cleaned =>
      refine ⟨referential,assets ▸ standing.recorded,bound,home,?_⟩
      rw [cleaned]
      refine exists_read (read_cleanup _ _) ?_
      exact exists_read (effect.beside _ _ visible (taken_other standing.there)) standing.there

theorem idle_standing (standing : Standing row folder d) (idle : Idle d next) : Standing row folder next := by
  refine ⟨idle_referential standing.referential idle,idle.assets ▸ standing.recorded,?_,idle.same.folders ▸ standing.kept,?_⟩
  · exact (spares_same idle.same).binding _ standing.bound id
  · rw [idle.files]
    exact standing.there

structure RowOf (row : AssetRow) (metadata : MobileTransferAssetMetadata) : Prop where
  device : row.deviceUuid = metadata.deviceUuid
  asset : row.remoteAssetId = metadata.assetId
  version : row.remoteAssetVersion = metadata.assetVersion
  visible : row.localRelativePath.Visible

theorem standing_step (standing : Standing row folder d) (own : RowOf row metadata) (event : BackupEvent)
    (bound : repairsBound d event = true) (keeps : retained row.deviceUuid d event = true)
    (versions : unreplaced lib metadata folder.path row.localRelativePath event = true)
    (taken : (backupSystem identity lib).step d event = some next) : Standing row folder next := by
  have referential := step_referential standing.referential event bound taken
  cases event with
  | accept pairing =>
      cases taken
      have spared : takesPlace d.store pairing row.deviceUuid = false := by simpa [retained] using keeps
      obtain ⟨recorded,folders⟩ : row ∈ (acceptPhone identity pairing d.store).assets.rows ∧
          (folder ∈ d.store.folders.rows → folder ∈ (acceptPhone identity pairing d.store).folders.rows) :=
        accept_keeps standing.referential bound spared standing.bound standing.recorded
      refine ⟨referential,recorded,?_,folders standing.kept,standing.there⟩
      exact (accept_binds standing.referential bound).2.binding _ standing.bound (by simp [spared])
  | start payload currentTime => cases taken; exact idle_standing standing start_idle
  | upload call =>
      cases taken
      refine upload_standing standing own.visible fun other parsed device asset => ?_
      rw [own.device] at device
      rw [own.asset] at asset
      rw [own.version]
      simpa [unreplaced,parsed,device,asset] using versions
  | complete payload currentTime => cases taken; exact idle_standing standing complete_idle
  | streamError metadataPayload error currentTime => cases taken; exact idle_standing standing streamError_idle
  | insertFolder folderPath =>
      cases taken
      have grows : Grows d.store (insertFolder d.store folderPath).2 := insertFolder_grows
      refine ⟨referential,?_,(grows_spares grows).binding _ standing.bound id,insertFolder_keeps standing.kept,standing.there⟩
      rw [grows.assets]
      exact standing.recorded
  | deleteFolders folderPaths =>
      cases taken
      have spared : deletedDevice d.store (deletedFolderIds d.store folderPaths) row.deviceUuid = false := by
        simpa [retained] using keeps
      obtain ⟨home,assets⟩ := delete_keeps spared standing.bound standing.kept
      refine ⟨referential,assets row standing.recorded rfl,?_,home,standing.there⟩
      exact (delete_referential folderPaths standing.referential).2.binding _ standing.bound (by simp [spared])
  | files files =>
      cases taken
      exact ⟨standing.referential,standing.recorded,standing.bound,standing.kept,versions⟩

structure Stores (lib : Libraries) (call : UploadCall) (d next : Desktop) (metadata : MobileTransferAssetMetadata)
    (context : MobileTransferContext) (stored : StoredMobileTransferAsset) (files : Files) : Prop where
  accepted : Accepted lib call d metadata context
  written : storeAssetFile lib call metadata context.folderPath d.files = (.ok stored,files)
  state : next = {d with
    files
    store:=countTransferred (upsertMobileAssetRecord d.store (storedRow metadata call.currentTime stored)) metadata}

theorem stored_parts {response : Response} (answered : handleAssetUpload lib call d = (.ok response,next))
    (code : response.statusCode = 200) (status : response.status = .stored) :
    ∃ metadata context stored files, Stores lib call d next metadata context stored files ∧
      response = storedResponse stored := by
  unfold handleAssetUpload at answered
  split at answered
  · rename_i cleans result refused
    obtain ⟨rfl,-⟩ := Prod.mk.inj answered
    exact absurd (check_refused refused response rfl) (by simp [code])
  · rename_i metadata context passed
    have accepted := check_passed passed
    unfold uploadAuthorised at answered
    split at answered
    · cases answered
    · cases answered
      cases status
    · split at answered
      · cases answered
        cases status
      · unfold storeUpload at answered
        split at answered
        · unfold failTransfer at answered
          split at answered
          · cases answered
          · obtain ⟨same,-⟩ := Prod.mk.inj answered
            exact absurd (storeFailed_notOk response same) (by simp [code])
        · rename_i stored files written
          obtain ⟨same,rfl⟩ := Prod.mk.inj answered
          exact ⟨metadata,context,stored,files,⟨accepted,written,rfl⟩,(Except.ok.inj same).symm⟩

theorem receive_length {faults : FileOperation → Option OSError} {reads : List (Except OSError Bytes)}
    {index remaining : Nat} {written : Bytes} (whole : (receiveBody faults reads index remaining written).1 = none) :
    (receiveBody faults reads index remaining written).2.length = written.length + remaining := by
  induction reads generalizing index remaining written with
  | nil => cases remaining <;> simp [receiveBody] at whole ⊢
  | cons read rest ih =>
      cases remaining with
      | zero => simp [receiveBody]
      | succ remaining =>
          cases read with
          | error error => simp [receiveBody] at whole
          | ok bytes =>
              simp only [receiveBody] at whole ⊢
              split at whole
              · cases whole
              · rename_i some_
                rw [if_neg some_]
                cases wrote : faults (.writeChunk index) with
                | some error => simp [wrote] at whole
                | none =>
                  simp only [wrote] at whole ⊢
                  rw [ih whole,List.length_append]
                  have short : (bytes.take (min streamChunkSizeBytes (remaining + 1))).length ≤ remaining + 1 := by
                    rw [List.length_take]
                    omega
                  omega

theorem staged_length {content : Bytes} {contentSha1 : String}
    (checked : checkStaged lib call metadata content = .ok contentSha1) : (content.length : Int) = call.contentLength := by
  unfold checkStaged at checked
  split at checked
  · cases checked
  · split at checked
    · cases checked
    · rename_i agreed
      exact not_not.mp agreed

theorem stored_length {folderPath : String} {files files' : Files} {stored : StoredMobileTransferAsset}
    (announced : 0 ≤ call.contentLength)
    (written : storeAssetFile lib call metadata folderPath files = (.ok stored,files')) :
    (stored.fileSizeBytes : Int) = call.contentLength := by
  unfold storeAssetFile at written
  split at written
  · unfold moveStagedAssetToFolder at written
    split at written
    · cases written
    · dsimp only at written
      split at written
      · cases written
      · split at written
        · cases written
        · rename_i contentSha1 checked
          split at written
          · cases written
          · cases written
            exact staged_length checked
  · unfold writeAssetToFolder at written
    split at written
    · cases written
    · cases written
    · dsimp only at written
      split at written
      · cases written
      · rename_i whole
        split at written
        · cases written
        · cases written
          have length := receive_length (Option.or_eq_none_iff.mp whole).1
          simp only [length,List.length_nil,Nat.zero_add]
          exact Int.toNat_of_nonneg announced
  · cases written

theorem stored_standing {context : MobileTransferContext} {stored : StoredMobileTransferAsset} {files : Files}
    (referential : Referential d.store) (stores : Stores lib call d next metadata context stored files) :
    ∃ folder : FolderRow, folder.path = context.folderPath ∧ Standing (storedRow metadata call.currentTime stored) folder next ∧
      RowOf (storedRow metadata call.currentTime stored) metadata := by
  obtain ⟨folder,member,bound,path⟩ := context_folder referential (authorise_parts stores.accepted.granted).1
  have effect : StoreEffect lib call metadata context.folderPath d.files
    (storeAssetFile lib call metadata context.folderPath d.files).1
    (storeAssetFile lib call metadata context.folderPath d.files).2 := store_effect
  rw [stores.written] at effect
  obtain ⟨-,placed,content,-,-,there,-⟩ := effect.stored stored rfl
  have same : SameBindings d.store next.store := stores.state ▸ same_trans upsert_same count_same
  have home := referential.bindings _ bound
  refine ⟨folder,path,⟨?_,?_,(spares_same same).binding _ bound id,same.folders ▸ member,?_⟩,⟨rfl,rfl,rfl,?_⟩⟩
  · refine referential_same referential same ?_
    rw [stores.state]
    simp only [countTransferred,increment_assets]
    intro row present
    rcases mem_upsert present with rfl | ⟨old,-⟩ | ⟨old,before,-,rfl⟩
    · exact home.1
    · exact referential.assets row old
    · exact referential.assets old before
  · rw [stores.state]
    simp only [countTransferred,increment_assets]
    refine upsert_present fun old key => ?_
    obtain ⟨device,asset⟩ := Prod.mk.inj key
    rw [device,asset]
  · rw [stores.state,path]
    change fileExists files (.asset context.folderPath stored.localRelativePath) = true
    rw [placed,fileExists,there]
    rfl
  · change stored.localRelativePath.Visible
    rw [placed]
    exact target_visible

theorem stored_signature {context : MobileTransferContext} {stored : StoredMobileTransferAsset} {files : Files}
    (reads : ReadsSpellings lib) (declares : Declares call.metadataPayload sha1 size instant)
    (vouched : streamDeclared lib call metadata d = true)
    (stores : Stores lib call d next metadata context stored files) :
    (storedRow metadata call.currentTime stored).signature? = some ⟨sha1,size,instant⟩ := by
  obtain ⟨digest,bytes,created⟩ := declared_metadata reads declares stores.accepted.parsed
  have effect : StoreEffect lib call metadata context.folderPath d.files
    (storeAssetFile lib call metadata context.folderPath d.files).1
    (storeAssetFile lib call metadata context.folderPath d.files).2 := store_effect
  rw [stores.written] at effect
  obtain ⟨-,-,content,handed,-,-,computed,checked⟩ := effect.stored stored rfl
  obtain ⟨text,-,hex,same⟩ := declares.digest
  have normal : lower sha1 = sha1 := same ▸ (declared_normal hex).1
  have digested : lower stored.contentSha1 = sha1 := by
    by_cases staged : call.tempFilePath.isSome = true
    · rw [checked staged sha1 digest,normal,normal]
    · have streamed : stored.contentSha1 = lib.sha1 content := by
        rcases computed with done | ⟨isStaged,-⟩
        · exact done
        · exact absurd isStaged staged
      have equal : lib.sha1 content = sha1 := by simpa [streamDeclared,staged,handed,digest] using vouched
      rw [streamed,equal,normal]
  have announced : 0 ≤ call.contentLength ∧ call.contentLength = size := by
    have unrefused := stores.accepted.unrefused
    unfold refuseUpload at unrefused
    split at unrefused
    · cases unrefused
    · split at unrefused
      · cases unrefused
      · rename_i nonnegative
        split at unrefused
        · cases unrefused
        · rename_i agreed
          have equal : size = call.contentLength := by simpa [bytes] using agreed
          exact ⟨not_lt.mp nonnegative,equal.symm⟩
  have length := stored_length announced.1 stores.written
  simp only [AssetRow.signature?,storedRow,digested,length,announced.2,created]

section Asking
variable {payload : Fields} {request : MobileTransferAssetExistenceRequest}

theorem request_parts (parsed : parseTransferAssetExistenceRequest lib payload = .ok request) :
    requireNonEmptyString payload "device_uuid" = .ok request.session.deviceUuid ∧
      ∃ items, Payload.get payload "assets" = .array items ∧ items.mapM (parseAssetSignature lib) = .ok request.assets := by
  unfold parseTransferAssetExistenceRequest at parsed
  obtain ⟨session,stated,parsed⟩ := bind_parts parsed
  have device : requireNonEmptyString payload "device_uuid" = .ok session.deviceUuid := by
    unfold parseTransferSessionRequest at stated
    obtain ⟨_,-,stated⟩ := bind_parts stated
    obtain ⟨_,-,stated⟩ := bind_parts stated
    obtain ⟨deviceUuid,found,stated⟩ := bind_parts stated
    obtain ⟨_,-,stated⟩ := bind_parts stated
    rw [found,← Except.ok.inj stated]
  split at parsed
  · rename_i items listed
    obtain ⟨assets,all,parsed⟩ := bind_parts parsed
    rw [← Except.ok.inj parsed]
    exact ⟨device,items,listed,all⟩
  · cases parsed

theorem checked_parts {response : Response} (answered : handleAssetExistenceRequest lib payload d = .ok response)
    (status : response.status = .checked) : ∃ request, parseTransferAssetExistenceRequest lib payload = .ok request ∧
      response.matchedAssets = some (matchedAssets (getMobileAssetRecordsBySignatures d.store d.files
        request.session.deviceUuid (signatureKeys request.assets)) request.assets) := by
  unfold handleAssetExistenceRequest at answered
  split at answered
  · rename_i result refused
    subst answered
    obtain ⟨_,_,-,rfl⟩ := session_refused refused
    cases status
  · rename_i request context passed
    unfold answerExistence at answered
    split at answered
    · cases answered
    · exact ⟨request,(session_parts passed).1,by rw [← Except.ok.inj answered]⟩

-- A standing row with the candidate's signature is found, however many others there are.
theorem standing_reports (standing : Standing row folder d) (reads : ReadsSpellings lib)
    (signed : row.signature? = some ⟨sha1,size,instant⟩) (normal : lower (strip sha1) = sha1) :
    Reports lib d row.deviceUuid sha1 size instant := by
  intro payload items candidate assetId response device listed member declares named answered status
  obtain ⟨request,parsed,reported⟩ := checked_parts answered status
  obtain ⟨owner,items',listed',all⟩ := request_parts parsed
  cases listed.symm.trans listed'
  have mine : request.session.deviceUuid = row.deviceUuid := Except.ok.inj (owner.symm.trans device)
  obtain ⟨asset,asked,read⟩ := mapM_results all member
  cases declared_candidate reads declares named read
  have key : mobileAssetSignatureKey sha1 size instant = ⟨sha1,size,instant⟩ := by
    rw [mobileAssetSignatureKey,normal]
  have present : ((⟨sha1,size,instant⟩ : SignatureKey),row) ∈ getMobileAssetRecordsBySignatures d.store d.files
      request.session.deviceUuid (signatureKeys request.assets) := by
    have wanted : (⟨sha1,size,instant⟩ : SignatureKey) ∈ signatureKeys request.assets :=
      List.mem_map.mpr ⟨_,asked,key⟩
    unfold getMobileAssetRecordsBySignatures
    rw [mine,bound_path standing.referential standing.bound standing.kept]
    refine List.mem_filterMap.mpr ⟨row,standing.recorded,?_⟩
    simp [signed,wanted,standing.there]
  cases located : (getMobileAssetRecordsBySignatures d.store d.files request.session.deviceUuid
      (signatureKeys request.assets)).lookup ⟨sha1,size,instant⟩ with
  | none =>
      have absent := List.lookup_eq_none_iff.mp located _ present
      simp at absent
  | some found =>
      rw [reported,Option.getD_some]
      refine ⟨⟨assetId,found.localRelativePath⟩,List.mem_filterMap.mpr ⟨_,asked,?_⟩,rfl⟩
      simp only [key,located,Option.map_some]

theorem reports_genuine : Genuine lib d := fun _ _ _ _ => existence_rows

end Asking

-- A stored asset is found again by its signature, for as long as the library keeps what
-- it has of the device.
theorem stored_then_found (identity : PairingService.DesktopIdentity) (lib : Libraries) (reads : ReadsSpellings lib) :
    StoreThenAsk identity lib repairsBound (fun metadata call d => streamDeclared lib call metadata d) retained := by
  intro start d stored asked call metadata context response path sha1 size instant referential before parsed declares
    vouched answered code status granted named after
  have here := referential_reached referential before
  obtain ⟨metadata',context',asset,files,stores,rfl⟩ := stored_parts answered code status
  cases parsed.symm.trans stores.accepted.parsed
  cases granted.symm.trans (authorise_parts stores.accepted.granted).1
  cases named
  obtain ⟨folder,home,standing,own⟩ := stored_standing here stores
  have signed := stored_signature reads declares vouched stores
  have preserved := @reaches_preserves _ _ (backupSystem identity lib) (fun d event => repairsBound d event = true ∧
    retained metadata.deviceUuid d event = true ∧
      unreplaced lib metadata context.folderPath asset.localRelativePath event = true) stored asked
    (fun d => Standing (storedRow metadata call.currentTime asset) folder d)
  have last : Standing (storedRow metadata call.currentTime asset) folder asked := by
    refine preserved (fun s event next standing allowed taken => ?_) standing after
    obtain ⟨bound,keeps,versions⟩ := allowed
    exact standing_step standing own event bound keeps (home ▸ versions) taken
  obtain ⟨text,-,hex,same⟩ := declares.digest
  exact ⟨standing_reports last reads signed (same ▸ (declared_normal hex).2),reports_genuine⟩

def stagedPhoto : Desktop := {sampleDesktop with files:=writeFile .empty (.staged "/tmp/1") [97]}

def storedPhoto : UploadCall := sampleCall "asset-1" "/tmp/1" digestOfA

def candidate : Fields :=
  [("asset_id",.string "asset-9"),("sha1",.string " 86F7E437FAA5A7FCE15D1DDCB9EAEAEA377667B8"),("file_size",.int 1),
    ("created_at",.string "2024-01-01T05:30:00.000+05:30")]

def askFor (sessionId : String) : Fields :=
  sampleRequest existenceProofPurpose sessionId [("assets",.array [.object candidate])]

def midnight : Spelling where
  year := 2024
  month := 1
  day := 1
  hour := 0
  minute := 0
  precision := .seconds 0
  zone := .zulu
  wellFormed := by decide

def indianMorning : Spelling where
  year := 2024
  month := 1
  day := 1
  hour := 5
  minute := 30
  precision := .fraction 0 [0,0,0]
  zone := .offset true 5 30
  wellFormed := by decide

theorem photo_declares : Declares storedPhoto.metadataPayload digestOfA 1 1704067200000000 :=
  ⟨⟨digestOfA,rfl,by decide +kernel,by decide +kernel⟩,rfl,"2024-01-01T00:00:00Z",midnight,rfl,by decide +kernel,
    by decide +kernel⟩

theorem candidate_declares : Declares candidate digestOfA 1 1704067200000000 :=
  ⟨⟨_,rfl,by decide +kernel,by decide +kernel⟩,rfl,_,indianMorning,rfl,by decide +kernel,by decide +kernel⟩

def answers (lib : Libraries) (payload : Fields) (count : Nat) (d : Desktop) : Bool :=
  match handleAssetExistenceRequest lib payload d with
  | .ok response => response.status = .checked && (response.matchedAssets.getD []).length = count
  | .error _ => false

theorem answers_parts {payload : Fields} {count : Nat} (answered : answers lib payload count d = true) :
    ∃ response, handleAssetExistenceRequest lib payload d = .ok response ∧ response.status = .checked ∧
      (response.matchedAssets.getD []).length = count := by
  unfold answers at answered
  split at answered
  · rename_i response handled
    obtain ⟨status,length⟩ := Bool.and_eq_true_iff.mp answered
    exact ⟨response,handled,of_decide_eq_true status,of_decide_eq_true length⟩
  · cases answered

def exhibits (after : String → Desktop → BackupEvent → Bool) (events : List BackupEvent) (seen : Desktop → Bool) : Bool :=
  match parseTransferAssetMetadata runLibraries storedPhoto.metadataPayload,
    handleAssetUpload runLibraries storedPhoto stagedPhoto with
  | .ok metadata,(.ok response,stored) =>
    match getMobileTransferContext stagedPhoto.store metadata.sessionId metadata.deviceUuid,response.localRelativePath with
    | some context,some path => metadata.deviceUuid = "phone-1" && streamDeclared runLibraries storedPhoto metadata stagedPhoto &&
        response.statusCode = 200 && response.status = .stored &&
        ((backupSystem runIdentity runLibraries).checkedRun (fun d event => repairsBound d event = true ∧
          after metadata.deviceUuid d event = true ∧
          unreplaced runLibraries metadata context.folderPath path event = true) stored events).any seen
    | _,_ => false
  | _,_ => false

-- What a run of the photo gives of the property, in the state that is seen.
theorem exhibits_parts (after : String → Desktop → BackupEvent → Bool) (events : List BackupEvent) (seen : Desktop → Bool)
    (shown : exhibits after events seen = true) {counted : MobileTransferAssetMetadata → UploadCall → Desktop → Bool}
    (counts : ∀ metadata, streamDeclared runLibraries storedPhoto metadata stagedPhoto = true →
      counted metadata storedPhoto stagedPhoto = true)
    (property : StoreThenAsk runIdentity runLibraries repairsBound counted after) :
    ∃ asked, seen asked = true ∧ Reports runLibraries asked "phone-1" digestOfA 1 1704067200000000 := by
  unfold exhibits at shown
  split at shown
  · rename_i metadata response stored parsed handled
    split at shown
    · rename_i context path granted named
      simp only [Bool.and_eq_true,decide_eq_true_eq] at shown
      obtain ⟨⟨⟨⟨device,vouched⟩,code⟩,status⟩,ran⟩ := shown
      obtain ⟨asked,path',seen'⟩ := checkedRun_exhibits _ _ stored events seen ran
      have found := property stagedPhoto stagedPhoto stored asked storedPhoto metadata context response path digestOfA 1
        1704067200000000 sample_referential reaches_refl parsed photo_declares (counts metadata vouched) handled code status
        granted named path'
      exact ⟨asked,seen',device ▸ found.1⟩
    · cases shown
  · cases shown

theorem candidate_reported {sessionId : String} {response : Response}
    (device : requireNonEmptyString (askFor sessionId) "device_uuid" = .ok "phone-1")
    (reports : Reports runLibraries d "phone-1" digestOfA 1 1704067200000000)
    (answered : handleAssetExistenceRequest runLibraries (askFor sessionId) d = .ok response)
    (status : response.status = .checked) : ∃ found ∈ response.matchedAssets.getD [], found.assetId = "asset-9" :=
  reports (askFor sessionId) [.object candidate] candidate "asset-9" response device rfl (List.mem_singleton_self _)
    candidate_declares rfl answered status

-- The folder is taken out of the library and the phone paired again, into the same directory:
-- the photo is there, and the desktop does not know it.
theorem deleted_folder_forgets : ¬ ∀ (identity : PairingService.DesktopIdentity) (lib : Libraries), ReadsSpellings lib →
    StoreThenAsk identity lib repairsBound (fun _ _ _ => true) (fun _ _ _ => true) := by
  intro all
  obtain ⟨asked,seen,reports⟩ := exhibits_parts (fun _ _ _ => true)
    [.deleteFolders ["/backup/Phone"],.accept secondPairing,
      .start (sampleRequest startProofPurpose "session-2" [("total_assets",.int 1)]) 0]
    (answers runLibraries (askFor "session-2") 0) (by decide +kernel) (fun _ _ => rfl)
    (all runIdentity runLibraries run_reads)
  obtain ⟨response,answered,status,none⟩ := answers_parts seen
  obtain ⟨found,member,-⟩ := candidate_reported rfl reports answered status
  rw [List.length_eq_zero_iff.mp none] at member
  cases member

theorem stored_then_found_respelled : ∃ d response, handleAssetExistenceRequest runLibraries (askFor "session-2") d = .ok response ∧
    ∃ found ∈ response.matchedAssets.getD [], found.assetId = "asset-9" := by
  obtain ⟨asked,seen,reports⟩ := exhibits_parts retained [.upload storedPhoto,.insertFolder "/photos",
      .accept secondPairing,.start (sampleRequest startProofPurpose "session-2" [("total_assets",.int 1)]) 0]
    (answers runLibraries (askFor "session-2") 1) (by decide +kernel) (fun _ vouched => vouched)
    (stored_then_found runIdentity runLibraries run_reads)
  obtain ⟨response,answered,status,-⟩ := answers_parts seen
  exact ⟨asked,response,answered,candidate_reported rfl reports answered status⟩

end ImageSearch.StoredThenAsked
