import ImageSearch.MobileLibrary
import ImageSearch.IsoTimestamps

namespace ImageSearch.BackupRuns
open Transitions Payload Tables BackupState BackupFolder MobileStore TransferService UploadOutcomes PairingStore PairingService
open PairingThreads ReferentialStore MobileLibrary

structure Pairing where
  acceptance : Acceptance
  draft : MobilePairingSessionDraft
  directory : Directory

def registered (identity : DesktopIdentity) (pairing : Pairing) (store : Store) : Store :=
  upsertMobileDevice store pairing.acceptance.deviceUuid pairing.acceptance.requestedPlatform.value
    pairing.acceptance.deviceName (derivePairingKeyB64 identity pairing.acceptance.sessionId
      pairing.acceptance.token.oneTimePasscode pairing.acceptance.requestedPlatform.value) pairing.acceptance.currentTime

def acceptPhone (identity : DesktopIdentity) (pairing : Pairing) (store : Store) : Store :=
  match acceptFolder pairing.acceptance pairing.draft (registered identity pairing store) pairing.directory with
  | (.error _,store) => store
  | (.ok folder,store) => (insertMobileBackupSession store pairing.acceptance.sessionId pairing.acceptance.deviceUuid
      folder.folderId .paired pairing.draft.createdAt pairing.acceptance.currentTime).getD store

-- Whole requests, one after another; `files` is whatever else happens in the folders.
inductive BackupEvent where
  | accept (pairing : Pairing)
  | start (payload : Fields) (currentTime : DateTime)
  | upload (call : UploadCall)
  | complete (payload : Fields) (currentTime : DateTime)
  | streamError (metadataPayload : Option Fields) (error : OSError) (currentTime : DateTime)
  | insertFolder (folderPath : String)
  | deleteFolders (folderPaths : List String)
  | files (files : Files)

def backupSystem (identity : DesktopIdentity) (lib : Libraries) : System Desktop BackupEvent where
  step d
    | .accept pairing => some {d with store:=acceptPhone identity pairing d.store}
    | .start payload currentTime => some (handleStartRequest lib payload currentTime d).2
    | .upload call => some (handleAssetUpload lib call d).2
    | .complete payload currentTime => some (handleCompleteRequest lib payload currentTime d).2
    | .streamError metadataPayload error currentTime =>
      some (handleAssetUploadStreamError lib metadataPayload error currentTime d).2
    | .insertFolder folderPath => some {d with store:=(insertFolder d.store folderPath).2}
    | .deleteFolders folderPaths => some {d with store:=deleteFolders d.store folderPaths}
    | .files files => some {d with files}

def Pairing.repair (pairing : Pairing) : Option MobileBackupAgainSessionContext := pairing.acceptance.repairs

-- A repair finds the folder bound as it was when the pairing session was opened.
def repairsBound (d : Desktop) : BackupEvent → Bool
  | .accept pairing => pairing.repair.all fun context => repairBound d.store pairing.acceptance context
  | _ => true

variable {identity : DesktopIdentity} {lib : Libraries} {d next : Desktop} {store : Store} {row : AssetRow}
  {folder : FolderRow} {call : UploadCall}

-- A request that ends or fails a transfer, or starts one, keeps every binding, asset and file.
structure Idle (d next : Desktop) : Prop where
  same : SameBindings d.store next.store
  assets : next.store.assets = d.store.assets
  files : next.files = d.files

theorem idle_refl : Idle d d := ⟨same_refl,rfl,rfl⟩

theorem fail_idle {context : MobileTransferContext} {currentTime : DateTime} {publish : Bool} {response : Response} :
    Idle d (failTransfer context currentTime publish response d).2 := by
  obtain ⟨same,assets⟩ := fail_same context currentTime publish response d
  refine ⟨same,assets,?_⟩
  unfold failTransfer markTransferFailed
  cases resolveNextBackupState context.folderTransferState .transferFailed .transferInProgress <;> rfl

theorem start_idle {payload : Fields} {currentTime : DateTime} :
    Idle d (handleStartRequest lib payload currentTime d).2 := by
  unfold handleStartRequest
  split
  · exact idle_refl
  · rename_i request context passed
    obtain ⟨same,assets⟩ := start_same request context currentTime d
    refine ⟨same,assets,?_⟩
    unfold acceptStart
    split
    · rfl
    · split <;> rfl

theorem complete_idle {payload : Fields} {currentTime : DateTime} :
    Idle d (handleCompleteRequest lib payload currentTime d).2 := by
  unfold handleCompleteRequest
  split
  · exact idle_refl
  · rename_i request context passed
    obtain ⟨same,assets⟩ := complete_same payload request context currentTime d
    refine ⟨same,assets,?_⟩
    unfold finishTransfer
    split
    · rfl
    · dsimp only
      split
      · rfl
      · split <;> rfl

theorem streamError_idle {metadataPayload : Option Fields} {error : OSError} {currentTime : DateTime} :
    Idle d (handleAssetUploadStreamError lib metadataPayload error currentTime d).2 := by
  unfold handleAssetUploadStreamError
  split
  · exact idle_refl
  · exact fail_idle

theorem idle_referential (referential : Referential d.store) (idle : Idle d next) : Referential next.store := by
  refine referential_same referential idle.same ?_
  rw [idle.assets]
  exact referential.assets

theorem upsert_keeps {Key Row : Type*} {key : Row → Key} [DecidableEq Key] {table : Table key} {new old : Row}
    {merge : Row → Row} {same : ∀ row, key (merge row) = key row} (member : old ∈ table.rows)
    (other : key new ≠ key old) : old ∈ (table.upsert new merge same).rows := by
  have found : (table.upsert new merge same).find? (key old) = some old := by
    rw [find_upsert,if_neg other]
    exact find_of_mem member
  exact (find_mem found).1

theorem moved_keeps {previous replacement : String} (member : row ∈ store.assets.rows)
    (kept : row.deviceUuid ≠ previous) (apart : row.deviceUuid ≠ replacement) :
    row ∈ (moveAssets store previous replacement).assets.rows := by
  have moves : ∀ (rows : List AssetRow) (start : Store), row ∈ start.assets.rows →
      row ∈ (rows.foldl (fun store row => upsertMobileAssetRecord store {row with deviceUuid:=replacement})
        start).assets.rows := by
    intro rows
    induction rows with
    | nil => exact fun _ there => there
    | cons head rest ih =>
        intro start there
        refine ih _ (upsert_keeps there ?_)
        exact fun same => apart (congrArg Prod.fst same).symm
  unfold moveAssets
  exact mem_delete.mpr ⟨moves _ _ member,by simpa using kept⟩

theorem upload_row (member : row ∈ (handleAssetUpload lib call d).2.store.assets.rows)
    (referential : Referential d.store) : HasDevice d.store row.deviceUuid := by
  have outcome : UploadOutcome lib call d (handleAssetUpload lib call d) := upload_outcome
  generalize handleAssetUpload lib call d = answered at outcome member
  cases outcome with
  | refused _ store _ => exact referential.assets row (store ▸ member)
  | skippedSignature =>
      simp only [skipUpload,countTransferred,increment_assets] at member
      exact referential.assets row member
  | skippedVersion =>
      simp only [skipUpload,countTransferred,increment_assets] at member
      exact referential.assets row member
  | stored accepted _ _ =>
      obtain ⟨session,device,_,-,-,present,-⟩ := context_parts (authorise_parts accepted.granted).1
      obtain ⟨there,same⟩ := find_mem present
      simp only [countTransferred,increment_assets] at member
      rcases mem_upsert member with rfl | ⟨old,-⟩ | ⟨old,before,-,rfl⟩
      · exact List.mem_map.mpr ⟨device,there,same⟩
      · exact referential.assets row old
      · exact referential.assets old before
  | failed _ _ _ _ _ assets _ => exact referential.assets row (assets ▸ member)

theorem count_same {metadata : MobileTransferAssetMetadata} : SameBindings store (countTransferred store metadata) :=
  increment_same

theorem upload_bindings : SameBindings d.store (handleAssetUpload lib call d).2.store := by
  have outcome : UploadOutcome lib call d (handleAssetUpload lib call d) := upload_outcome
  generalize handleAssetUpload lib call d = answered at outcome
  cases outcome with
  | refused _ store _ => exact store ▸ same_refl
  | skippedSignature => exact count_same
  | skippedVersion => exact count_same
  | stored => exact same_trans upsert_same count_same
  | failed _ _ _ _ same _ _ => exact same

theorem fail_writes {context : MobileTransferContext} {currentTime : DateTime} {publish : Bool} {response : Response} :
    (failTransfer context currentTime publish response d).2.store = updateMobileTransferState d.store context.sessionId
      context.deviceUuid .failed .failed currentTime (some currentTime) none none none := by
  have failed : resolveNextBackupState context.folderTransferState .transferFailed .transferInProgress =
      some .transferFailed := resolve_ended _ rfl (by decide)
  unfold failTransfer markTransferFailed
  rw [failed]
  rfl

theorem fail_notOk {context : MobileTransferContext} {currentTime : DateTime} {publish : Bool} {response : Response}
    (refusal : NotOk (.ok response)) : NotOk (failTransfer context currentTime publish response d).1 := by
  unfold failTransfer
  split
  · exact raised_notOk
  · exact refusal

inductive UploadWrites (lib : Libraries) (call : UploadCall) (d : Desktop) : Except Raised Response × Desktop → Prop
  | quiet {result : Except Raised Response} {d' : Desktop} (refusal : NotOk result) (same : d'.store = d.store) :
      UploadWrites lib call d (result,d')
  | counted {metadata : MobileTransferAssetMetadata} {context : MobileTransferContext} {response : Response} {store : Store}
      {d' : Desktop} (accepted : Accepted lib call d metadata context) (code : response.statusCode = 200)
      (sessions : store.sessions = d.store.sessions) (mobileFolders : store.mobileFolders = d.store.mobileFolders)
      (same : d'.store = countTransferred store metadata) : UploadWrites lib call d (.ok response,d')
  | failed {metadata : MobileTransferAssetMetadata} {context : MobileTransferContext} {result : Except Raised Response}
      {d' : Desktop} (accepted : Accepted lib call d metadata context) (refusal : NotOk result)
      (same : d'.store = updateMobileTransferState d.store context.sessionId context.deviceUuid .failed .failed
        call.currentTime (some call.currentTime) none none none) : UploadWrites lib call d (result,d')

theorem store_writes {metadata : MobileTransferAssetMetadata} {context : MobileTransferContext}
    (accepted : Accepted lib call d metadata context) : UploadWrites lib call d (storeUpload lib call metadata context d) := by
  unfold storeUpload
  rcases storeAssetFile lib call metadata context.folderPath d.files with ⟨error | stored,files⟩
  · exact .failed accepted (fail_notOk storeFailed_notOk) fail_writes
  · exact @UploadWrites.counted lib call d metadata context _
      (upsertMobileAssetRecord d.store (storedRow metadata call.currentTime stored)) _ accepted rfl rfl rfl rfl

theorem upload_writes : UploadWrites lib call d (handleAssetUpload lib call d) := by
  unfold handleAssetUpload
  split
  · rename_i cleans result checked
    refine .quiet (check_refused checked) ?_
    cases cleans <;> rfl
  · rename_i metadata context checked
    have accepted := check_passed checked
    unfold uploadAuthorised
    split
    · exact .quiet raised_notOk rfl
    · exact .counted accepted rfl rfl rfl rfl
    · split
      · exact .counted accepted rfl rfl rfl rfl
      · exact store_writes accepted

theorem upload_referential (referential : Referential d.store) : Referential (handleAssetUpload lib call d).2.store :=
  referential_same referential upload_bindings fun _ member => upload_row member referential

def takesPlace (store : Store) (pairing : Pairing) (deviceUuid : String) : Bool :=
  pairing.repair.any fun context => replaces store pairing.acceptance context deviceUuid

theorem goneBy_takes {pairing : Pairing} {deviceUuid : String}
    (gone : goneBy (registered identity pairing store) pairing.acceptance (.binding pairing.draft)
      (.directory pairing.directory) deviceUuid) : takesPlace store pairing deviceUuid = true := by
  obtain ⟨context,repairs,replaced⟩ := gone
  unfold takesPlace Pairing.repair
  rw [show pairing.acceptance.repairs = some context from repairs,Option.any_some]
  exact replaced

theorem accept_binds {pairing : Pairing} (referential : Referential store)
    (safe : pairing.repair.all (fun context => repairBound store pairing.acceptance context) = true) :
    Referential (acceptPhone identity pairing store) ∧ Spares store (acceptPhone identity pairing store)
      fun deviceUuid => takesPlace store pairing deviceUuid = true := by
  have fresh : Referential (registered identity pairing store) := upsert_referential referential
  have device : HasDevice (registered identity pairing store) pairing.acceptance.deviceUuid :=
    upsert_device.mpr (.inr rfl)
  have spares : Spares store (registered identity pairing store) nobody := upsert_spares
  have binds : Binds (registered identity pairing store) pairing.acceptance.deviceUuid
      (goneBy (registered identity pairing store) pairing.acceptance (.binding pairing.draft) (.directory pairing.directory))
      (acceptFolder pairing.acceptance pairing.draft (registered identity pairing store) pairing.directory) :=
    acceptFolder_binds fresh device safe
  have spared : Spares store (acceptFolder pairing.acceptance pairing.draft (registered identity pairing store)
      pairing.directory).2 fun deviceUuid => takesPlace store pairing deviceUuid = true := by
    refine ⟨?_,?_⟩
    · exact fun other has kept => binds.spares.device other (spares.device other has id) fun gone => kept (goneBy_takes gone)
    · exact fun ids member kept => binds.spares.binding ids (spares.binding ids member id) fun gone =>
        kept (goneBy_takes gone)
  unfold acceptPhone
  generalize acceptFolder pairing.acceptance pairing.draft (registered identity pairing store) pairing.directory =
    bound at binds spared
  obtain ⟨result,after⟩ := bound
  cases result with
  | error raised => exact ⟨binds.referential,spared⟩
  | ok record =>
      dsimp only
      cases inserted : insertMobileBackupSession after pairing.acceptance.sessionId pairing.acceptance.deviceUuid
          record.folderId .paired pairing.draft.createdAt pairing.acceptance.currentTime with
      | none => exact ⟨binds.referential,spared⟩
      | some last =>
          obtain ⟨now,kept⟩ := insert_referential binds.referential (binds.bound record rfl) inserted
          refine ⟨now,?_,?_⟩
          · exact fun other has here => kept.device other (spared.device other has here) id
          · exact fun ids member here => kept.binding ids (spared.binding ids member here) id

theorem upsert_present {Key Row : Type*} {key : Row → Key} [DecidableEq Key] {table : Table key} {new : Row}
    {merge : Row → Row} {same : ∀ row, key (merge row) = key row} (merged : ∀ old, key old = key new → merge old = new) :
    new ∈ (table.upsert new merge same).rows := by
  have found : (table.upsert new merge same).find? (key new) = some new := by
    rw [find_upsert,if_pos rfl]
    cases located : table.find? (key new) with
    | none => rfl
    | some old => exact congrArg some (merged old (find_mem located).2)
  exact (find_mem found).1

theorem ignored_keeps {Key Row : Type*} {key : Row → Key} [DecidableEq Key] {table : Table key} {new old : Row}
    (member : old ∈ table.rows) : old ∈ (table.upsert new id fun _ => rfl).rows := by
  have found : (table.upsert new id fun _ => rfl).find? (key old) = some old := by
    rw [find_upsert,find_of_mem member]
    split <;> rfl
  exact (find_mem found).1

theorem insertFolder_keeps {folderPath : String} (member : folder ∈ store.folders.rows) :
    folder ∈ (insertFolder store folderPath).2.folders.rows := by
  unfold insertFolder
  dsimp only
  split
  · exact member
  · exact ignored_keeps member

theorem bindFolder_keeps {folderPath deviceUuid : String} {updatedAt : DateTime} :
    (bindFolder store folderPath deviceUuid updatedAt).2.assets = store.assets ∧
      (folder ∈ store.folders.rows → folder ∈ (bindFolder store folderPath deviceUuid updatedAt).2.folders.rows) := by
  have kept : (insertFolder store folderPath).2.assets = store.assets := insertFolder_grows.assets
  unfold bindFolder
  dsimp only
  split
  · exact ⟨kept,insertFolder_keeps⟩
  · split
    · exact ⟨kept,insertFolder_keeps⟩
    · split
      · exact ⟨kept,insertFolder_keeps⟩
      · exact ⟨kept,insertFolder_keeps⟩

theorem folder_keeps (referential : Referential store) (destinationParent deviceUuid deviceName : String)
    (updatedAt : DateTime) (directory : Directory) :
    (getOrCreateMobileFolder store destinationParent deviceUuid deviceName updatedAt directory).2.assets = store.assets ∧
      (folder ∈ store.folders.rows → folder ∈
        (getOrCreateMobileFolder store destinationParent deviceUuid deviceName updatedAt directory).2.folders.rows) := by
  unfold getOrCreateMobileFolder
  rw [stale_none referential]
  dsimp only
  split
  · exact ⟨rfl,id⟩
  · split
    · exact ⟨rfl,id⟩
    · exact bindFolder_keeps

-- An acceptance keeps the folders, and the assets of a bound device whose place nobody takes.
theorem accept_keeps {pairing : Pairing} (referential : Referential store)
    (safe : pairing.repair.all (fun context => repairBound store pairing.acceptance context) = true)
    (spared : takesPlace store pairing row.deviceUuid = false) {folderId : Nat}
    (bound : (folderId,row.deviceUuid) ∈ bindings store) (member : row ∈ store.assets.rows) :
    row ∈ (acceptPhone identity pairing store).assets.rows ∧
      (folder ∈ store.folders.rows → folder ∈ (acceptPhone identity pairing store).folders.rows) := by
  have kept : row ∈ (acceptFolder pairing.acceptance pairing.draft (registered identity pairing store)
      pairing.directory).2.assets.rows ∧ (folder ∈ store.folders.rows → folder ∈ (acceptFolder pairing.acceptance
        pairing.draft (registered identity pairing store) pairing.directory).2.folders.rows) := by
    have fresh : Referential (registered identity pairing store) := upsert_referential referential
    unfold acceptFolder
    cases repairs : pairing.acceptance.repairs with
    | none =>
        obtain ⟨assets,folders⟩ := folder_keeps fresh pairing.draft.destinationParent pairing.acceptance.deviceUuid
          pairing.acceptance.deviceName pairing.acceptance.currentTime pairing.directory
        exact ⟨by rw [assets]; exact member,folders⟩
    | some context =>
        have chosen : pairing.repair = some context := repairs
        rw [chosen,Option.all_some] at safe
        rw [takesPlace,chosen,Option.any_some] at spared
        rcases @repair_parts (registered identity pairing store) context.selectedFolderId context.selectedFolderPath
            context.expectedDeviceUuid pairing.acceptance.deviceUuid pairing.acceptance.currentTime (repairs_parts repairs) with
          ⟨-,raised,same⟩ | ⟨accepted,same⟩
        · dsimp only
          rw [same]
          exact ⟨member,id⟩
        · have open_ : repairRefused store context.selectedFolderId pairing.acceptance.deviceUuid = false := accepted
          simp only [repairBound,open_,Bool.false_or,List.contains_iff_mem] at safe
          simp only [replaces,open_,Bool.not_false,Bool.true_and,decide_eq_false_iff_not] at spared
          have apart : row.deviceUuid ≠ pairing.acceptance.deviceUuid :=
            replacement_unbound (repairs_parts repairs) safe open_ _ bound
          dsimp only
          rw [same]
          have there : row ∈ (registered identity pairing store).assets.rows := member
          refine ⟨moved_keeps there spared apart,fun here => ?_⟩
          unfold repaired
          rw [moved_tables.2.1]
          exact here
  unfold acceptPhone
  generalize acceptFolder pairing.acceptance pairing.draft (registered identity pairing store) pairing.directory = result
    at kept
  obtain ⟨result,after⟩ := result
  cases result with
  | error raised => exact kept
  | ok record =>
      dsimp only
      cases inserted : insertMobileBackupSession after pairing.acceptance.sessionId pairing.acceptance.deviceUuid
          record.folderId .paired pairing.draft.createdAt pairing.acceptance.currentTime with
      | none => exact kept
      | some last =>
          obtain ⟨sessions,-,rfl⟩ := Option.map_eq_some_iff.mp inserted
          exact kept

theorem delete_keeps {folderPaths : List String} {deviceUuid : String}
    (spared : deletedDevice store (deletedFolderIds store folderPaths) deviceUuid = false)
    (bound : (folder.id,deviceUuid) ∈ bindings store) (member : folder ∈ store.folders.rows) :
    folder ∈ (deleteFolders store folderPaths).folders.rows ∧
      ∀ row ∈ store.assets.rows, row.deviceUuid = deviceUuid → row ∈ (deleteFolders store folderPaths).assets.rows := by
  have undeleted : folder.id ∉ deletedFolderIds store folderPaths := by
    intro deleted
    have gone := deleted_device.mpr ⟨_,bound,deleted,rfl⟩
    cases spared.symm.trans gone
  constructor
  · refine mem_delete.mpr ⟨?_,decide_eq_false fun named => undeleted ?_⟩
    · split
      · exact member
      · exact member
    · exact List.mem_map_of_mem (List.mem_filter.mpr ⟨member,decide_eq_true named⟩)
  · intro row there mine
    unfold deleteFolders
    dsimp only
    split
    · exact there
    · refine mem_delete.mpr ⟨there,decide_eq_false fun listed => ?_⟩
      have gone := (delete_listed.mp listed).1
      rw [mine] at gone
      cases spared.symm.trans gone

-- Every step of a run keeps the references, as long as its repairs find what they expect.
theorem step_referential (referential : Referential d.store) (event : BackupEvent) (bound : repairsBound d event = true)
    (taken : (backupSystem identity lib).step d event = some next) : Referential next.store := by
  cases event with
  | accept pairing => cases taken; exact (accept_binds referential bound).1
  | start payload currentTime => cases taken; exact idle_referential referential start_idle
  | upload call => cases taken; exact upload_referential referential
  | complete payload currentTime => cases taken; exact idle_referential referential complete_idle
  | streamError metadataPayload error currentTime =>
      cases taken
      exact idle_referential referential streamError_idle
  | insertFolder folderPath => cases taken; exact grows_referential referential insertFolder_grows
  | deleteFolders folderPaths => cases taken; exact (delete_referential folderPaths referential).1
  | files files => cases taken; exact referential

theorem referential_reached (referential : Referential d.store)
    (path : Reaches (backupSystem identity lib) (fun d event => repairsBound d event = true) d next) :
    Referential next.store := by
  have kept := @reaches_preserves _ _ (backupSystem identity lib) (fun d event => repairsBound d event = true) d next
    (fun d => Referential d.store)
  exact kept (fun _ event _ held bound taken => step_referential held event bound taken) referential path

-- The proofs of phone-1 in the runs below, as HMAC-SHA-256 makes them: the key, the
-- purpose, the session, the proof.
def sampleProofs : List (String × String × String × String) :=
  [("trust-key",startProofPurpose,"session-1","DVRLkx17rJFLGmKPlxfTIB-2eOGJnynu5D-IjnJAdgk"),
    ("trust-key",completeProofPurpose,"session-1","ZfriRJmGgv6i43p1B6RnV8MS6oqeV1ka7FOCyIpRE1I"),
    ("trust-key",assetProofPurpose,"session-1","HFjsS7eveAfIK13_QrUUFate5ZDL4kelo3zZvdF-9RY"),
    ("trust-key",existenceProofPurpose,"session-1","W0R96cvbih7NnF52NT589JBT7ziMGnU68lgcy993WZE"),
    ("_ZBZZ8sTKof-xP0vNEGfil0q5D8DyLxKlEObjTPxhuM",startProofPurpose,"session-2",
      "qF4dnFh3IWSXEyYuop2y-TWm-HHar7iMYaUAs41UgDU"),
    ("_ZBZZ8sTKof-xP0vNEGfil0q5D8DyLxKlEObjTPxhuM",existenceProofPurpose,"session-2",
      "RBg0Il4Vwnsai40Qk6pdehlxB-0PaCcnDRZDAUYGhdU")]

def sampleHmac (key material : String) : String :=
  match sampleProofs.find? fun entry => key = entry.1 && material = trustProofContext ++ "\n" ++ entry.2.1 ++ "\n" ++
      mobileTransferSchema ++ "\n" ++ entry.2.2.1 ++ "\nphone-1" with
  | some entry => entry.2.2.2
  | none => ""

def runLibraries : Libraries := {sampleLibraries with
  hmacSha256B64:=sampleHmac
  fromisoformat:=IsoTimestamps.fromisoformat}

theorem run_reads : IsoTimestamps.ReadsSpellings runLibraries := by
  intro spelling _ instant read
  exact Option.some.inj (read.symm.trans (IsoTimestamps.reads_spelling spelling))

def runIdentity : DesktopIdentity where
  desktopDeviceId := "desktop-1"
  desktopName := "Desktop"
  sha256B64 material :=
    if material = "dtis.mobile-pairing.v1\nsession-2\ncode-2\nandroid" then "_ZBZZ8sTKof-xP0vNEGfil0q5D8DyLxKlEObjTPxhuM"
    else ""

def secondPairing : Pairing where
  acceptance := {
    sessionId := "session-2"
    requestedPlatform := .android
    token := ⟨"code-2",300000000⟩
    deviceUuid := "phone-1"
    deviceName := "Phone"
    currentTime := 0
    backupAgainContext := none
    backupAgainDecision := .backupInNewFolder
    claimedTransport := none}
  draft := ⟨"/backup","session-2",0,⟨"code-2",300000000⟩⟩
  directory := ⟨id,none⟩

def sampleRequest (purpose sessionId : String) (more : Fields) : Fields :=
  let proof := match sampleProofs.find? fun entry => purpose = entry.2.1 && sessionId = entry.2.2.1 with
    | some entry => entry.2.2.2
    | none => ""
  [("schema",.string mobileTransferSchema),("session_id",.string sessionId),("device_uuid",.string "phone-1"),
    ("trust_proof",.string proof)] ++ more

theorem sample_referential : Referential sampleStore := by
  refine ⟨by decide,?_,?_,nofun⟩
  · intro ids member
    cases List.mem_singleton.mp member
    exact ⟨List.mem_singleton_self _,List.mem_singleton_self _⟩
  · intro ids member
    cases List.mem_singleton.mp member
    exact List.mem_singleton_self _

end ImageSearch.BackupRuns
