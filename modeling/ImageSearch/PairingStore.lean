import ImageSearch.MobileStore

namespace ImageSearch.PairingStore
open Payload Tables BackupState BackupFolder MobileStore

structure MobileFolderRecord where
  folderId : Nat
  folderPath : String
  reusedExisting : Bool
  deriving DecidableEq, Repr

def upsertMobileDevice (store : Store) (deviceUuid platform deviceName trustKeyB64 : String) (pairedAt : DateTime) : Store :=
  {store with
    devices:=store.devices.upsert ⟨deviceUuid,platform,deviceName,trustKeyB64,pairedAt,pairedAt⟩
      (fun old => {old with platform,deviceName,trustKeyB64,lastSeenAt:=pairedAt}) fun _ => rfl}

def deleteMobileDeviceDataForFolderIds (store : Store) (folderIds : List Nat) : Store :=
  let deviceUuids := ((store.mobileFolders.rows.filter fun row => row.folderId ∈ folderIds).map
    MobileFolderRow.deviceUuid).filter fun deviceUuid => deviceUuid ≠ ""
  {store with
    sessions:=store.sessions.delete fun row => row.folderId ∈ folderIds || row.deviceUuid ∈ deviceUuids
    mobileFolders:=store.mobileFolders.delete fun row => row.folderId ∈ folderIds || row.deviceUuid ∈ deviceUuids
    assets:=store.assets.delete fun row => row.deviceUuid ∈ deviceUuids
    devices:=store.devices.delete fun row => row.deviceUuid ∈ deviceUuids}

def getExactFolder (store : Store) (folderPath : String) : Option FolderRow :=
  store.folders.rows.find? fun row => row.path = folderPath

def sanitizeFolderName (deviceName : String) : List Char :=
  let sanitizedValue := substituteRuns isSpace ' ' false
    (stripChars isDot (stripChars isSpace (substituteRuns isReserved '-' false deviceName.toList)))
  if sanitizedValue = [] then "Mobile Device".toList else sanitizedValue

-- (root / name).as_posix(): empty and "." components are not part of a path. A
-- sanitised name starts with no slash, so it never replaces the root.
def joinPath (root : String) (name : List Char) : String :=
  let parts (text : List Char) := (text.splitOn '/').filter fun part => part ≠ [] && part ≠ ['.']
  String.ofList ('/' :: List.intercalate ['/'] (parts root.toList ++ parts name))

def deviceFolderName (deviceName deviceUuid : String) : List Char :=
  sanitizeFolderName deviceName ++ '-' :: deviceUuid.toList.take 8

def numberedFolderName (deviceName deviceUuid : String) (suffix : Nat) : List Char :=
  deviceFolderName deviceName deviceUuid ++ '-' :: (toString suffix).toList

def folderNameFree (store : Store) (destinationRoot : String) (name : List Char) : Bool :=
  (getExactFolder store (joinPath destinationRoot name)).isNone

def uniqueMobileFolderName (store : Store) (destinationRoot deviceName deviceUuid : String) : List Char :=
  if folderNameFree store destinationRoot (sanitizeFolderName deviceName) then sanitizeFolderName deviceName
  else if folderNameFree store destinationRoot (deviceFolderName deviceName deviceUuid) then
    deviceFolderName deviceName deviceUuid
  else numberedFolderName deviceName deviceUuid (FreeNames.search
    (fun suffix => folderNameFree store destinationRoot (numberedFolderName deviceName deviceUuid suffix))
    store.folders.rows.length 2)

-- INSERT OR IGNORE INTO folders: a row is answered only when one was inserted.
def insertFolder (store : Store) (folderPath : String) : Option FolderRow × Store :=
  let path := String.ofList (folderPath.toList.map fun c => if c = '\\' then '/' else c)
  match getExactFolder store path with
  | some _ => (none,store)
  | none => (some ⟨store.nextFolderId,path⟩,{store with
      folders:=store.folders.upsert ⟨store.nextFolderId,path⟩ id fun _ => rfl
      nextFolderId:=store.nextFolderId + 1})

def boundFolder (store : Store) (deviceUuid : String) : Option FolderRow :=
  store.mobileFolders.rows.findSome? fun row =>
    if row.deviceUuid = deviceUuid then store.folders.find? row.folderId else none

def dropStaleFolders (store : Store) (deviceUuid : String) : Store :=
  let staleFolderIds := (store.mobileFolders.rows.filter fun row =>
    row.deviceUuid = deviceUuid && (store.folders.find? row.folderId).isNone).map MobileFolderRow.folderId
  if staleFolderIds = [] then store else deleteMobileDeviceDataForFolderIds store staleFolderIds

-- `resolve` is what Path.resolve makes of a path on this file system, `refused` what
-- mkdir raises.
structure Directory where
  resolve : String → String
  refused : Option OSError

def mobileFolderPath (store : Store) (destinationParent deviceUuid deviceName : String) (directory : Directory) : String :=
  let destinationRoot := directory.resolve destinationParent
  directory.resolve (joinPath destinationRoot (uniqueMobileFolderName store destinationRoot deviceName deviceUuid))

-- The rest of get_or_create_mobile_folder once the directory is there.
def bindFolder (store : Store) (folderPath deviceUuid : String) (updatedAt : DateTime) :
    Except Raised MobileFolderRecord × Store :=
  let (inserted,store) := insertFolder store folderPath
  match inserted.or (getExactFolder store folderPath) with
  | none => (.error (.runtimeError ("Failed to create or load mobile folder row for path " ++ folderPath)),store)
  | some folder =>
    if store.mobileFolders.rows.any fun row => row.deviceUuid = deviceUuid then (.error .integrityError,store)
    else
    match store.mobileFolders.insert? ⟨folder.id,deviceUuid,.paired,updatedAt⟩ with
    | none => (.error .integrityError,store)
    | some mobileFolders => (.ok ⟨folder.id,folderPath,false⟩,{store with mobileFolders})

-- The store that comes back is what has been committed, also when the call raises.
def getOrCreateMobileFolder (store : Store) (destinationParent deviceUuid deviceName : String) (updatedAt : DateTime)
    (directory : Directory) : Except Raised MobileFolderRecord × Store :=
  let store := dropStaleFolders store deviceUuid
  match boundFolder store deviceUuid with
  | some folder => (.ok ⟨folder.id,folder.path,true⟩,{store with
      mobileFolders:=store.mobileFolders.modify (fun row => row.deviceUuid = deviceUuid)
        (fun row => {row with
          transferState:=.paired
          transferStateUpdatedAt:=updatedAt}) fun _ => rfl})
  | none =>
    match directory.refused with
    | some error => (.error (.osError error),store)
    | none => bindFolder store (mobileFolderPath store destinationParent deviceUuid deviceName directory) deviceUuid updatedAt

def moveAssets (store : Store) (previousDeviceUuid replacementDeviceUuid : String) : Store :=
  let moved := (store.assets.rows.filter fun row => row.deviceUuid = previousDeviceUuid).foldl (fun store row =>
    upsertMobileAssetRecord store {row with deviceUuid:=replacementDeviceUuid}) store
  {moved with assets:=moved.assets.delete fun row => row.deviceUuid = previousDeviceUuid}

def conflictingFolder (store : Store) (deviceUuid : String) : Option MobileFolderRow :=
  store.mobileFolders.rows.find? fun row => row.deviceUuid = deviceUuid

def repairMobileFolderDeviceBinding (store : Store) (folderId : Nat) (folderPath previousDeviceUuid
    replacementDeviceUuid : String) (updatedAt : DateTime) : Except Raised MobileFolderRecord × Store :=
  let bound (store : Store) (deviceUuid : String → String) : Store := {store with
    mobileFolders:=store.mobileFolders.modify (fun row => row.folderId = folderId)
      (fun row => {row with
        deviceUuid:=deviceUuid row.deviceUuid
        transferState:=.paired
        transferStateUpdatedAt:=updatedAt}) fun _ => rfl}
  if previousDeviceUuid = replacementDeviceUuid then (.ok ⟨folderId,folderPath,true⟩,bound store id)
  else if (conflictingFolder store replacementDeviceUuid).any fun row => row.folderId ≠ folderId then
    (.error (.runtimeError "Replacement mobile device is already associated with a different mobile folder."),store)
  else
    let moved := bound (moveAssets store previousDeviceUuid replacementDeviceUuid) fun _ => replacementDeviceUuid
    (.ok ⟨folderId,folderPath,true⟩,{moved with
      sessions:=moved.sessions.modify (fun row => row.deviceUuid = previousDeviceUuid)
        (fun row => {row with
          deviceUuid:=replacementDeviceUuid
          folderId:=folderId}) fun _ => rfl
      devices:=moved.devices.delete fun row => row.deviceUuid = previousDeviceUuid})

-- `none` is the IntegrityError of a session id that is taken.
def insertMobileBackupSession (store : Store) (sessionId deviceUuid : String) (folderId : Nat) (status : SessionStatus)
    (startedAt pairedAt : DateTime) : Option Store :=
  (store.sessions.insert? ⟨sessionId,deviceUuid,folderId,status,0,0,0,startedAt,some pairedAt,none⟩).map fun sessions =>
    {store with sessions}

variable {store : Store} {deviceUuid deviceName : String} {updatedAt : DateTime}

def folderBindable (store : Store) (folderPath deviceUuid : String) : Bool :=
  !folderPath.toList.contains '\\' && store.mobileFolders.rows.all fun row =>
    row.deviceUuid ≠ deviceUuid && row.folderId ≠ (getExactFolder store folderPath).elim store.nextFolderId FolderRow.id

def folderAvailable (store : Store) (destinationParent deviceUuid deviceName : String) (directory : Directory) : Bool :=
  let store := dropStaleFolders store deviceUuid
  (boundFolder store deviceUuid).isSome || directory.refused.isNone &&
    folderBindable store (mobileFolderPath store destinationParent deviceUuid deviceName directory) deviceUuid

theorem insert_folder (store : Store) {folderPath : String} (plain : '\\' ∉ folderPath.toList) :
    ∃ inserted, insertFolder store folderPath = inserted ∧
      (inserted.1.or (getExactFolder inserted.2 folderPath)).map FolderRow.id =
        some ((getExactFolder store folderPath).elim store.nextFolderId FolderRow.id) ∧
      inserted.2.mobileFolders = store.mobileFolders := by
  have same : folderPath.toList.map (fun c => if c = '\\' then '/' else c) = folderPath.toList := by
    refine (List.map_congr_left fun c member => ?_).trans (List.map_id _)
    have different : c ≠ '\\' := fun equal => plain (equal ▸ member)
    simp [different]
  refine ⟨_,rfl,?_⟩
  unfold insertFolder
  rw [same,String.ofList_toList]
  dsimp only
  cases present : getExactFolder store folderPath with
  | some row => simp [present]
  | none => simp

theorem bind_done {folderPath : String} (free : folderBindable store folderPath deviceUuid = true) :
    ∃ record, (bindFolder store folderPath deviceUuid updatedAt).1 = .ok record := by
  simp only [folderBindable,Bool.and_eq_true,Bool.not_eq_true',List.all_eq_true,decide_eq_true_eq] at free
  obtain ⟨plain,rows⟩ := free
  obtain ⟨⟨inserted,next⟩,called,row,kept⟩ := insert_folder store (by simpa using plain)
  unfold bindFolder
  rw [called]
  dsimp only at row kept ⊢
  cases found : inserted.or (getExactFolder next folderPath) with
  | none => simp [found] at row
  | some folder =>
      have here : folder.id = (getExactFolder store folderPath).elim store.nextFolderId FolderRow.id := by
        simpa [found] using row
      have unbound : (next.mobileFolders.rows.any fun row => row.deviceUuid = deviceUuid) = false := by
        rw [kept]
        simp only [List.any_eq_false,decide_eq_true_eq]
        exact fun row member => (rows row member).1
      dsimp only
      rw [unbound]
      cases taken : next.mobileFolders.insert? ⟨folder.id,deviceUuid,.paired,updatedAt⟩ with
      | some mobileFolders => exact ⟨_,rfl⟩
      | none =>
          obtain ⟨row,member,same⟩ := List.mem_map.mp (insert_refused.mp taken)
          rw [kept] at member
          exact absurd (same.trans here) (rows row member).2

theorem folder_done {destinationParent : String} {directory : Directory}
    (available : folderAvailable store destinationParent deviceUuid deviceName directory = true) :
    ∃ record, (getOrCreateMobileFolder store destinationParent deviceUuid deviceName updatedAt directory).1 = .ok record := by
  unfold folderAvailable at available
  unfold getOrCreateMobileFolder
  dsimp only at available ⊢
  cases bound : boundFolder (dropStaleFolders store deviceUuid) deviceUuid with
  | some folder => exact ⟨_,rfl⟩
  | none =>
      simp only [bound,Option.isSome_none,Bool.false_or,Bool.and_eq_true,Option.isNone_iff_eq_none] at available
      dsimp only
      rw [available.1]
      exact bind_done available.2

def sessionFree (store : Store) (sessionId : String) : Bool :=
  store.sessions.rows.all fun row => row.sessionId ≠ sessionId

theorem session_done {sessionId : String} {folderId : Nat} {status : SessionStatus} {startedAt pairedAt : DateTime}
    (free : sessionFree store sessionId = true) :
    ∃ next, insertMobileBackupSession store sessionId deviceUuid folderId status startedAt pairedAt = some next := by
  unfold insertMobileBackupSession
  cases taken : store.sessions.insert? ⟨sessionId,deviceUuid,folderId,status,0,0,0,startedAt,some pairedAt,none⟩ with
  | some sessions => exact ⟨_,rfl⟩
  | none =>
      obtain ⟨row,member,same⟩ := List.mem_map.mp (insert_refused.mp taken)
      simp only [sessionFree,List.all_eq_true,decide_eq_true_eq] at free
      exact absurd same (free row member)

theorem repair_done {folderId : Nat} {folderPath previousDeviceUuid replacementDeviceUuid : String}
    (free : (conflictingFolder store replacementDeviceUuid).all (fun row => row.folderId = folderId) = true) :
    ∃ record, (repairMobileFolderDeviceBinding store folderId folderPath previousDeviceUuid replacementDeviceUuid
      updatedAt).1 = .ok record := by
  unfold repairMobileFolderDeviceBinding
  dsimp only
  split
  · exact ⟨_,rfl⟩
  · split
    · rename_i conflicts
      cases found : conflictingFolder store replacementDeviceUuid with
      | none => simp [found] at conflicts
      | some row => simp_all
    · exact ⟨_,rfl⟩

end ImageSearch.PairingStore
