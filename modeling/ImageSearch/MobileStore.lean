import ImageSearch.BackupState
import ImageSearch.BackupFolder

namespace ImageSearch.MobileStore
open Payload Tables BackupState BackupFolder

structure FolderRow where
  id : Nat
  path : String
  deriving DecidableEq, Repr

structure MobileDeviceRow where
  deviceUuid : String
  platform : String
  deviceName : String
  trustKeyB64 : String
  pairedAt : DateTime
  lastSeenAt : DateTime
  deriving DecidableEq, Repr

structure MobileFolderRow where
  folderId : Nat
  deviceUuid : String
  transferState : FolderTransferState
  transferStateUpdatedAt : DateTime
  deriving DecidableEq, Repr

structure BackupSessionRow where
  sessionId : String
  deviceUuid : String
  folderId : Nat
  status : SessionStatus
  totalAssets : Int
  transferredCount : Int
  failedCount : Int
  startedAt : DateTime
  pairedAt : Option DateTime
  endedAt : Option DateTime
  deriving DecidableEq, Repr

structure AssetRow where
  deviceUuid : String
  remoteAssetId : String
  remoteAssetVersion : Option String
  contentSha1 : Option String
  fileSizeBytes : Option Int
  assetCreatedAt : Option DateTime
  localRelativePath : RelativePath
  lastTransferredAt : DateTime
  deriving DecidableEq, Repr

def AssetRow.key (row : AssetRow) : String × String := (row.deviceUuid,row.remoteAssetId)

-- folders.path and mobile_folders.device_uuid are UNIQUE besides the primary keys;
-- the inserting operations check these. nextFolderId is AUTOINCREMENT's.
structure Store where
  folders : Table FolderRow.id
  nextFolderId : Nat
  devices : Table MobileDeviceRow.deviceUuid
  mobileFolders : Table MobileFolderRow.folderId
  sessions : Table BackupSessionRow.sessionId
  assets : Table AssetRow.key

structure MobileTransferContext where
  sessionId : String
  deviceUuid : String
  sessionStatus : SessionStatus
  folderId : Nat
  folderPath : String
  folderTransferState : Option FolderTransferState
  trustKeyB64 : String
  deriving DecidableEq, Repr

def getMobileTransferContext (store : Store) (sessionId deviceUuid : String) : Option MobileTransferContext :=
  match store.sessions.find? sessionId with
  | none => none
  | some session =>
    if session.deviceUuid ≠ deviceUuid then none else
    match store.devices.find? session.deviceUuid,store.folders.find? session.folderId with
    | some device,some folder => some {
        sessionId:=session.sessionId,deviceUuid:=session.deviceUuid,sessionStatus:=session.status
        folderId:=session.folderId,folderPath:=folder.path
        folderTransferState:=(store.mobileFolders.find? session.folderId).map MobileFolderRow.transferState
        trustKeyB64:=device.trustKeyB64}
    | _,_ => none

-- mobile_asset_signature_key: isoformat is injective, so the instant stands for its text.
structure SignatureKey where
  contentSha1 : String
  fileSizeBytes : Int
  assetCreatedAt : DateTime
  deriving DecidableEq, Repr

def mobileAssetSignatureKey (contentSha1 : String) (fileSizeBytes : Int) (assetCreatedAt : DateTime) : SignatureKey :=
  ⟨lower (strip contentSha1),fileSizeBytes,assetCreatedAt⟩

def AssetRow.signature? (row : AssetRow) : Option SignatureKey :=
  match row.contentSha1,row.fileSizeBytes,row.assetCreatedAt with
  | some contentSha1,some fileSizeBytes,some assetCreatedAt => some ⟨contentSha1,fileSizeBytes,assetCreatedAt⟩
  | _,_,_ => none

-- JOIN mobile_folders ... JOIN folders: the path of the folder bound to the device.
def boundFolderPath (store : Store) (deviceUuid : String) : Option String :=
  match store.mobileFolders.rows.find? fun row => row.deviceUuid = deviceUuid with
  | some binding => (store.folders.find? binding.folderId).map FolderRow.path
  | none => none

-- The rows of the device with one of the signatures whose file is still there. A
-- dictionary keeps the first row of a key, as a lookup in this list does.
def getMobileAssetRecordsBySignatures (store : Store) (files : Files) (deviceUuid : String)
    (signatureKeys : List SignatureKey) : List (SignatureKey × AssetRow) :=
  match boundFolderPath store deviceUuid with
  | none => []
  | some folderPath => store.assets.rows.filterMap fun row =>
      match row.signature? with
      | some signatureKey =>
        if row.deviceUuid = deviceUuid ∧ signatureKey ∈ signatureKeys ∧
            fileExists files (.asset folderPath row.localRelativePath) then some (signatureKey,row) else none
      | none => none

def getMobileAssetRecordBySignature (store : Store) (files : Files) (deviceUuid : String) (key : SignatureKey) :
    Option AssetRow :=
  (getMobileAssetRecordsBySignatures store files deviceUuid [key]).lookup key

def getMobileAssetRecord (store : Store) (deviceUuid remoteAssetId : String) : Option AssetRow :=
  store.assets.find? (deviceUuid,remoteAssetId)

def upsertMobileAssetRecord (store : Store) (row : AssetRow) : Store :=
  {store with
    assets:=store.assets.upsert row
      (fun old => {row with deviceUuid:=old.deviceUuid,remoteAssetId:=old.remoteAssetId}) fun _ => rfl}

-- COALESCE(?, column): an absent argument keeps the column.
def updateMobileTransferState (store : Store) (sessionId deviceUuid : String) (sessionStatus : SessionStatus)
    (folderTransferState : FolderTransferState) (updatedAt : DateTime) (endedAt : Option DateTime)
    (totalAssets transferredCount failedCount : Option Int) : Store :=
  {store with
    sessions:=store.sessions.modify (fun row => row.sessionId = sessionId && row.deviceUuid = deviceUuid)
      (fun row => {row with
        status:=sessionStatus,endedAt:=endedAt.or row.endedAt
        totalAssets:=totalAssets.getD row.totalAssets
        transferredCount:=transferredCount.getD row.transferredCount
        failedCount:=failedCount.getD row.failedCount}) fun _ => rfl
    mobileFolders:=store.mobileFolders.modify (fun row => row.deviceUuid = deviceUuid)
      (fun row => {row with transferState:=folderTransferState,transferStateUpdatedAt:=updatedAt}) fun _ => rfl}

def incrementMobileBackupSessionTransferredCount (store : Store) (sessionId deviceUuid : String) (delta : Int) :
    Store :=
  if delta ≤ 0 then store
  else {store with
    sessions:=store.sessions.modify (fun row => row.sessionId = sessionId && row.deviceUuid = deviceUuid)
      (fun row => {row with transferredCount:=row.transferredCount + delta}) fun _ => rfl}

variable {store : Store} {files : Files}

theorem context_parts {sessionId deviceUuid : String} {context : MobileTransferContext}
    (found : getMobileTransferContext store sessionId deviceUuid = some context) :
    ∃ session device folder, store.sessions.find? sessionId = some session ∧ session.deviceUuid = deviceUuid ∧
      store.devices.find? deviceUuid = some device ∧ store.folders.find? session.folderId = some folder ∧
      context = ⟨sessionId,deviceUuid,session.status,session.folderId,folder.path,
        (store.mobileFolders.find? session.folderId).map MobileFolderRow.transferState,device.trustKeyB64⟩ := by
  unfold getMobileTransferContext at found
  split at found
  · cases found
  · rename_i session located
    split at found
    · cases found
    · rename_i owner
      have owner : session.deviceUuid = deviceUuid := not_not.mp owner
      split at found
      · rename_i device folder present there
        cases found
        subst owner
        refine ⟨session,device,folder,located,rfl,present,there,?_⟩
        rw [(find_mem located).2]
      · cases found

theorem signature_parts {row : AssetRow} {key : SignatureKey} (signed : row.signature? = some key) :
    row.contentSha1 = some key.contentSha1 ∧ row.fileSizeBytes = some key.fileSizeBytes ∧
      row.assetCreatedAt = some key.assetCreatedAt := by
  unfold AssetRow.signature? at signed
  split at signed
  · rename_i sha size created
    cases signed
    exact ⟨sha,size,created⟩
  · cases signed

-- What a signature lookup answers: a row of that device and signature, its file in place.
theorem records_parts {deviceUuid : String} {keys : List SignatureKey} {key : SignatureKey} {row : AssetRow}
    (found : (getMobileAssetRecordsBySignatures store files deviceUuid keys).lookup key = some row) :
    ∃ folderPath, boundFolderPath store deviceUuid = some folderPath ∧ row ∈ store.assets.rows ∧
      row.deviceUuid = deviceUuid ∧ row.signature? = some key ∧
      fileExists files (.asset folderPath row.localRelativePath) = true := by
  have member : (key,row) ∈ getMobileAssetRecordsBySignatures store files deviceUuid keys := by
    obtain ⟨before,after,split,-⟩ := List.lookup_eq_some_iff.mp found
    rw [split]; simp
  unfold getMobileAssetRecordsBySignatures at member
  split at member
  · cases member
  · rename_i folderPath bound
    obtain ⟨old,present,kept⟩ := List.mem_filterMap.mp member
    split at kept
    · rename_i signatureKey signed
      split at kept
      · rename_i condition
        cases kept
        exact ⟨folderPath,bound,present,condition.1,signed,condition.2.2⟩
      · cases kept
    · cases kept

-- The columns that say whose session, folder and path a row is. Transfers write none of them.
structure SameBindings (old new : Store) : Prop where
  folders : new.folders = old.folders
  devices : new.devices = old.devices
  mobileFolders : (new.mobileFolders.rows.map fun row => (row.folderId,row.deviceUuid)) =
    old.mobileFolders.rows.map fun row => (row.folderId,row.deviceUuid)
  sessions : (new.sessions.rows.map fun row => (row.sessionId,row.deviceUuid,row.folderId)) =
    old.sessions.rows.map fun row => (row.sessionId,row.deviceUuid,row.folderId)

theorem same_refl : SameBindings store store := ⟨rfl,rfl,rfl,rfl⟩

theorem same_trans {one two three : Store} (first : SameBindings one two) (second : SameBindings two three) :
    SameBindings one three :=
  ⟨second.folders.trans first.folders,second.devices.trans first.devices,
    second.mobileFolders.trans first.mobileFolders,second.sessions.trans first.sessions⟩

theorem upsert_same {row : AssetRow} : SameBindings store (upsertMobileAssetRecord store row) := ⟨rfl,rfl,rfl,rfl⟩

theorem update_same {sessionId deviceUuid : String} {status : SessionStatus} {state : FolderTransferState}
    {updatedAt : DateTime} {endedAt : Option DateTime} {total transferred failed : Option Int} :
    SameBindings store
      (updateMobileTransferState store sessionId deviceUuid status state updatedAt endedAt total transferred failed) := by
  refine ⟨rfl,rfl,columns_modify _ ?_ ?_,columns_modify _ ?_ ?_⟩ <;> intro row <;> rfl

theorem update_find {sessionId deviceUuid : String} {status : SessionStatus} {state : FolderTransferState}
    {updatedAt : DateTime} {endedAt : Option DateTime} {total transferred failed : Option Int} (k : String) :
    (updateMobileTransferState store sessionId deviceUuid status state updatedAt endedAt total transferred
      failed).sessions.find? k = (store.sessions.find? k).map fun row =>
        if row.sessionId = sessionId && row.deviceUuid = deviceUuid then {row with
          status:=status,endedAt:=endedAt.or row.endedAt
          totalAssets:=total.getD row.totalAssets
          transferredCount:=transferred.getD row.transferredCount
          failedCount:=failed.getD row.failedCount}
        else row := by
  unfold updateMobileTransferState
  rw [find_modify]

theorem increment_find {sessionId deviceUuid : String} (k : String) :
    (incrementMobileBackupSessionTransferredCount store sessionId deviceUuid 1).sessions.find? k =
      (store.sessions.find? k).map fun row =>
        if row.sessionId = sessionId && row.deviceUuid = deviceUuid then
          {row with transferredCount:=row.transferredCount + 1}
        else row := by
  unfold incrementMobileBackupSessionTransferredCount
  rw [if_neg (by decide),find_modify]

theorem increment_same {sessionId deviceUuid : String} {delta : Int} :
    SameBindings store (incrementMobileBackupSessionTransferredCount store sessionId deviceUuid delta) := by
  unfold incrementMobileBackupSessionTransferredCount
  split
  · exact same_refl
  · refine ⟨rfl,rfl,rfl,columns_modify _ ?_ ?_⟩ <;> intro row <;> rfl

theorem increment_assets {sessionId deviceUuid : String} {delta : Int} :
    (incrementMobileBackupSessionTransferredCount store sessionId deviceUuid delta).assets = store.assets := by
  unfold incrementMobileBackupSessionTransferredCount
  split <;> rfl

theorem bound_columns (store : Store) (deviceUuid : String) :
    boundFolderPath store deviceUuid =
      ((store.mobileFolders.rows.map fun row => (row.folderId,row.deviceUuid)).find? fun ids => ids.2 = deviceUuid).bind
        fun ids => (store.folders.find? ids.1).map FolderRow.path := by
  unfold boundFolderPath
  rw [List.find?_map]
  generalize located : store.mobileFolders.rows.find? (fun row => decide (row.deviceUuid = deviceUuid)) = found
  cases found with
  | none => simp [Function.comp_def,located]
  | some row => simp [Function.comp_def,located]

theorem same_bound {old new : Store} (same : SameBindings old new) (deviceUuid : String) :
    boundFolderPath new deviceUuid = boundFolderPath old deviceUuid := by
  rw [bound_columns,bound_columns,same.mobileFolders,same.folders]

-- Every backup session transfers into the folder its device is bound to.
def SessionsBound (store : Store) : Prop :=
  ∀ ids ∈ store.sessions.rows.map fun row => (row.sessionId,row.deviceUuid,row.folderId),
    ∀ folder, store.folders.find? ids.2.2 = some folder → boundFolderPath store ids.2.1 = some folder.path

theorem same_sessionsBound {old new : Store} (same : SameBindings old new) (bound : SessionsBound old) :
    SessionsBound new := by
  intro ids member folder located
  rw [same.sessions] at member
  rw [same.folders] at located
  rw [same_bound same]
  exact bound ids member folder located

theorem context_bound {sessionId deviceUuid : String} {context : MobileTransferContext} (bound : SessionsBound store)
    (found : getMobileTransferContext store sessionId deviceUuid = some context) :
    boundFolderPath store deviceUuid = some context.folderPath := by
  obtain ⟨session,device,folder,located,owner,-,there,rfl⟩ := context_parts found
  have member := List.mem_map_of_mem (f := fun row : BackupSessionRow => (row.sessionId,row.deviceUuid,row.folderId))
    (find_mem located).1
  exact owner ▸ bound _ member folder there

end ImageSearch.MobileStore
