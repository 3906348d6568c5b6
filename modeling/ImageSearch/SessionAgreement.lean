import ImageSearch.BackupRuns
import ImageSearch.SessionOutlooks

namespace ImageSearch.SessionAgreement
open Transitions Payload Tables BackupState MobileStore TransferService UploadOutcomes PairingStore PairingService
open PairingThreads ReferentialStore MobileLibrary TerminalSessions BackupRuns SessionOutlooks

structure ActiveMobileBackupSession where
  sessionId : String
  deviceUuid : String
  folderPath : String
  deviceName : String
  deriving DecidableEq, Repr

-- ORDER BY started_at DESC LIMIT 1, of the transferring sessions with their folder and device.
-- The texts of started_at are ordered as their instants are.
def getActiveMobileBackupSession (store : Store) : Option ActiveMobileBackupSession :=
  let transferring := store.sessions.rows.filterMap fun row =>
    if row.status ≠ .transferring then none else
    match store.folders.find? row.folderId,store.devices.find? row.deviceUuid with
    | some folder,some device => some (row.startedAt,
        ({sessionId:=row.sessionId,deviceUuid:=row.deviceUuid,folderPath:=folder.path,deviceName:=device.deviceName} :
          ActiveMobileBackupSession))
    | _,_ => none
  (transferring.mergeSort fun one two => two.1 ≤ one.1).head?.map Prod.snd

section Tables
variable {store : Store} {deviceUuid sessionId : String}

def runningSession (store : Store) (deviceUuid : String) : Bool :=
  store.sessions.rows.any fun row => row.deviceUuid = deviceUuid && row.status = .transferring

def latestSession (store : Store) (row : BackupSessionRow) : Bool :=
  store.sessions.rows.all fun other => other.deviceUuid ≠ row.deviceUuid || decide (other.startedAt ≤ row.startedAt)

structure Agrees (store : Store) : Prop where
  single : ∀ one ∈ store.sessions.rows, ∀ two ∈ store.sessions.rows, one.deviceUuid = two.deviceUuid →
    one.status = .transferring → two.status = .transferring → one = two
  folder : ∀ deviceUuid, (∃ row ∈ store.mobileFolders.rows, row.deviceUuid = deviceUuid ∧ row.transferState = .transferring) ↔
    runningSession store deviceUuid = true
  active : ∀ session, getActiveMobileBackupSession store = some session → ∀ row ∈ store.sessions.rows,
    row.deviceUuid = session.deviceUuid → latestSession store row = true → ¬ row.status.Terminal

theorem outlook_runs : (outlook store).Runs deviceUuid ↔ runningSession store deviceUuid = true := by
  simp [Outlook.Runs,outlook,runningSession,Life.of]

theorem outlook_shows : (outlook store).Shows deviceUuid ↔
    ∃ row ∈ store.mobileFolders.rows, row.deviceUuid = deviceUuid ∧ row.transferState = .transferring := by
  simp [Outlook.Shows,outlook,Home.of]

theorem outlook_latest {row : BackupSessionRow} : (outlook store).Latest (Life.of row) ↔ latestSession store row = true := by
  have rows : (outlook store).Latest (Life.of row) ↔ ∀ other ∈ store.sessions.rows, other.deviceUuid = row.deviceUuid →
      other.startedAt ≤ row.startedAt := List.forall_mem_map
  rw [rows]
  simp [latestSession,imp_iff_not_or]

theorem active_runs {session : ActiveMobileBackupSession} (active : getActiveMobileBackupSession store = some session) :
    runningSession store session.deviceUuid = true := by
  unfold getActiveMobileBackupSession at active
  obtain ⟨⟨started,_⟩,chosen,rfl⟩ := Option.map_eq_some_iff.mp active
  obtain ⟨row,member,joined⟩ := List.mem_filterMap.mp (List.mem_mergeSort.mp (List.mem_of_head? chosen))
  refine List.any_eq_true.mpr ⟨row,member,?_⟩
  split at joined
  · cases joined
  · rename_i transferring
    split at joined
    · cases joined
      simpa using transferring
    · cases joined

theorem settled_agrees (settled : Settled (outlook store)) : Agrees store := by
  refine ⟨?_,?_,?_⟩
  · intro one member two member' same first second
    have named := settled.single _ (List.mem_map_of_mem member) _ (List.mem_map_of_mem member') same first second
    exact List.inj_on_of_nodup_map store.sessions.distinct member member' named
  · intro deviceUuid
    rw [← outlook_shows,← outlook_runs]
    exact settled.shown deviceUuid
  · intro session active row member same latest
    have running : (outlook store).Runs (Life.of row).deviceUuid :=
      outlook_runs.mpr ((congrArg (runningSession store) same).trans (active_runs active))
    exact settled.recent _ (List.mem_map_of_mem member) running (outlook_latest.mpr latest)

theorem outlook_update {status : SessionStatus} {state : FolderTransferState} {updatedAt : DateTime}
    {endedAt : Option DateTime} {total transferred failed : Option Int} :
    outlook (updateMobileTransferState store sessionId deviceUuid status state updatedAt endedAt total transferred failed) =
      (outlook store).restate sessionId deviceUuid status state := by
  unfold outlook Outlook.restate updateMobileTransferState
  dsimp only [Table.modify]
  congr 1
  · rw [List.map_map,List.map_map]
    refine List.map_congr_left fun row _ => ?_
    by_cases mine : row.sessionId = sessionId ∧ row.deviceUuid = deviceUuid
    · simp [Life.of,mine]
    · have other : ¬ ((row.sessionId = sessionId && row.deviceUuid = deviceUuid) = true) := by simpa using mine
      have kept : ¬ ((Life.of row).sessionId = sessionId ∧ (Life.of row).deviceUuid = deviceUuid) := mine
      rw [Function.comp_apply,Function.comp_apply,if_neg other,if_neg kept]
  · rw [List.map_map,List.map_map]
    refine List.map_congr_left fun row _ => ?_
    by_cases mine : row.deviceUuid = deviceUuid <;> simp [Home.of,mine]

theorem outlook_count {metadata : MobileTransferAssetMetadata} :
    outlook (countTransferred store metadata) = outlook store := by
  unfold countTransferred incrementMobileBackupSessionTransferredCount outlook
  rw [if_neg (by decide)]
  dsimp only [Table.modify]
  rw [List.map_map]
  congr 1
  refine List.map_congr_left fun row _ => ?_
  rw [Function.comp_apply]
  split <;> rfl

theorem context_life {context : MobileTransferContext} (found : getMobileTransferContext store sessionId deviceUuid = some context) :
    ∃ life ∈ (outlook store).lives, life.sessionId = sessionId ∧ life.deviceUuid = deviceUuid ∧
      life.status = context.sessionStatus ∧ context.sessionId = sessionId ∧ context.deviceUuid = deviceUuid := by
  obtain ⟨row,_,_,located,owner,_,_,rfl⟩ := context_parts found
  obtain ⟨member,named⟩ := find_mem located
  exact ⟨Life.of row,List.mem_map_of_mem member,named,owner,rfl,rfl,rfl⟩

theorem life_home (referential : Referential store) {life : Life} (member : life ∈ (outlook store).lives) :
    ∃ home ∈ (outlook store).homes, home.deviceUuid = life.deviceUuid := by
  obtain ⟨row,there,rfl⟩ := List.mem_map.mp member
  have bound := referential.sessions _ (List.mem_map_of_mem there)
  obtain ⟨folder,here,same⟩ := List.mem_map.mp bound
  exact ⟨Home.of folder,List.mem_map_of_mem here,(Prod.mk.inj same).2⟩

theorem update_ends (settled : Settled (outlook store)) {context : MobileTransferContext}
    (found : getMobileTransferContext store sessionId deviceUuid = some context)
    (running : context.sessionStatus ∈ [SessionStatus.transferring]) {status : SessionStatus} {state : FolderTransferState}
    (ended : status ≠ .transferring) (quiet : state ≠ .transferring) {updatedAt : DateTime} {endedAt : Option DateTime}
    {total transferred failed : Option Int} : Settled (outlook (updateMobileTransferState store sessionId deviceUuid status
      state updatedAt endedAt total transferred failed)) := by
  obtain ⟨life,here,named,owner,stands,-⟩ := context_life found
  have runs : life.status = .transferring := stands.trans (List.mem_singleton.mp running)
  rw [outlook_update]
  have ends := settled_ends settled here runs ended quiet
  rw [named,owner] at ends
  exact ends

theorem fail_settled (settled : Settled (outlook store)) {context : MobileTransferContext}
    (found : getMobileTransferContext store sessionId deviceUuid = some context)
    (running : context.sessionStatus ∈ [SessionStatus.transferring]) {updatedAt : DateTime} {endedAt : Option DateTime} :
    Settled (outlook (updateMobileTransferState store context.sessionId context.deviceUuid .failed .failed updatedAt endedAt
      none none none)) := by
  obtain ⟨_,_,_,_,_,session,device⟩ := context_life found
  rw [session,device]
  exact update_ends settled found running (by decide) (by decide)

section Deletions
variable {folderIds : List Nat}

-- A row of a bound pair goes when its folder is deleted, and then all of its device go.
theorem deleted_bound (referential : Referential store) {folderId : Nat} (bound : (folderId,deviceUuid) ∈ bindings store) :
    (!(decide (folderId ∈ folderIds) || decide (deviceUuid ∈ ((store.mobileFolders.rows.filter fun row =>
      row.folderId ∈ folderIds).map MobileFolderRow.deviceUuid).filter fun deviceUuid => deviceUuid ≠ ""))) =
        !deletedDevice store folderIds deviceUuid := by
  rw [Bool.not_inj_iff,Bool.eq_iff_iff,Bool.or_eq_true,decide_eq_true_eq,decide_eq_true_eq]
  constructor
  · rintro (deleted | listed)
    · exact deleted_device.mpr ⟨_,bound,deleted,rfl⟩
    · exact (delete_listed.mp listed).1
  · intro gone
    obtain ⟨ids,member,deleted,same⟩ := deleted_device.mp gone
    cases binding_device referential member bound same
    exact .inl deleted

theorem columns_filter {Row Column : Type*} {column : Row → Column} {rows : List Row} {p : Row → Bool} {q : Column → Bool}
    (same : ∀ row ∈ rows, p row = q (column row)) : (rows.filter p).map column = (rows.map column).filter q := by
  rw [List.filter_map]
  exact congrArg _ (List.filter_congr same)

theorem delete_settled (referential : Referential store) (settled : Settled (outlook store)) :
    Settled (outlook (deleteMobileDeviceDataForFolderIds store folderIds)) := by
  refine @settled_leaves _ _ settled (deletedDevice store folderIds) (columns_filter ?_) (columns_filter ?_)
  · intro row member
    exact deleted_bound referential (referential.sessions _ (List.mem_map_of_mem member))
  · intro row member
    exact deleted_bound referential (List.mem_map_of_mem member)

end Deletions

theorem bind_settled {folderPath : String} {updatedAt : DateTime} (settled : Settled (outlook store)) :
    Settled (outlook (bindFolder store folderPath deviceUuid updatedAt).2) := by
  have grows : Grows store (insertFolder store folderPath).2 := insertFolder_grows
  have same : outlook (insertFolder store folderPath).2 = outlook store := by
    unfold outlook
    rw [grows.sessions,grows.mobileFolders]
  have after : Settled (outlook (insertFolder store folderPath).2) := same ▸ settled
  unfold bindFolder
  dsimp only
  split
  · exact after
  · rename_i folder _
    split
    · exact after
    · split
      · exact after
      · rename_i mobileFolders inserted
        refine @settled_settles _ _ after ⟨folder.id,deviceUuid,.paired⟩ nofun rfl ?_
        unfold outlook
        rw [(insert_parts inserted).2,List.map_append]
        rfl

theorem folder_settled {destinationParent deviceName : String} {updatedAt : DateTime} {directory : Directory}
    (referential : Referential store) (settled : Settled (outlook store)) (still : runningSession store deviceUuid = false) :
    Settled (outlook (getOrCreateMobileFolder store destinationParent deviceUuid deviceName updatedAt directory).2) := by
  unfold getOrCreateMobileFolder
  rw [stale_none referential]
  dsimp only
  split
  · refine @settled_pairs (outlook store) _ deviceUuid settled ?_ rfl ?_
    · rw [outlook_runs,still]
      decide
    · unfold outlook
      dsimp only [Table.modify]
      rw [List.map_map,List.map_map]
      refine List.map_congr_left fun row _ => ?_
      by_cases mine : row.deviceUuid = deviceUuid <;> simp [Home.of,mine]
  · split
    · exact settled
    · exact bind_settled settled

theorem repaired_settled {folderId : Nat} {previous replacement : String} {updatedAt : DateTime}
    (referential : Referential store) (settled : Settled (outlook store)) (different : previous ≠ replacement)
    (bound : (folderId,previous) ∈ bindings store) (accepted : repairRefused store folderId replacement = false)
    (still : runningSession store previous = false) :
    Settled (outlook (repaired store folderId previous replacement updatedAt)) := by
  have free := replacement_unbound different bound accepted
  refine @settled_moves (outlook store) _ settled previous replacement folderId ?_ ?_ ?_ ?_ ?_
  · rw [outlook_runs,still]
    decide
  · -- A session of the replacement would have a folder.
    intro life member mine
    obtain ⟨row,there,rfl⟩ := List.mem_map.mp member
    exact free _ (referential.sessions _ (List.mem_map_of_mem there)) mine
  · intro home member mine
    obtain ⟨row,there,rfl⟩ := List.mem_map.mp member
    have pair : (row.folderId,row.deviceUuid) ∈ bindings store := List.mem_map_of_mem there
    exact (folder_previous referential bound pair).mp mine
  · unfold outlook repaired
    dsimp only [Table.modify]
    rw [moved_tables.2.2.2,List.map_map,List.map_map]
    refine List.map_congr_left fun row _ => ?_
    by_cases mine : row.deviceUuid = previous <;> simp [Life.of,mine]
  · unfold outlook repaired
    dsimp only [Table.modify]
    rw [moved_tables.2.2.1,List.map_map,List.map_map]
    refine List.map_congr_left fun row _ => ?_
    by_cases mine : row.folderId = folderId <;> simp [Home.of,mine]

theorem insert_settled {next : Store} {folderId : Nat} {startedAt pairedAt : DateTime} (settled : Settled (outlook store))
    (inserted : insertMobileBackupSession store sessionId deviceUuid folderId .paired startedAt pairedAt = some next) :
    Settled (outlook next) := by
  obtain ⟨sessions,added,rfl⟩ := Option.map_eq_some_iff.mp inserted
  refine @settled_joins _ _ settled ⟨sessionId,deviceUuid,.paired,startedAt⟩ rfl ?_ rfl
  unfold outlook
  rw [(insert_parts added).2,List.map_append]
  rfl

end Tables

-- The acceptance re-pairs the folder of no device that has a running session.
def acceptFits (store : Store) (pairing : Pairing) : Bool :=
  match pairing.repair with
  | some context => repairRefused store context.selectedFolderId pairing.acceptance.deviceUuid ||
      !runningSession store context.expectedDeviceUuid
  | none => !runningSession store pairing.acceptance.deviceUuid

-- No other session of the device runs, and none that has ended is its latest.
def startFits (store : Store) (sessionId deviceUuid : String) : Bool :=
  store.sessions.rows.all fun row => row.deviceUuid ≠ deviceUuid || row.sessionId = sessionId ||
    row.status ≠ .transferring && !(latestSession store row && row.status.Terminal)

def oneAtATime (lib : Libraries) (d : Desktop) : BackupEvent → Bool
  | .accept pairing => acceptFits d.store pairing
  | .start payload _ =>
    match checkStart lib d.store payload with
    | .ok (request,_) => !bindsAsInteger (request.totalAssets.getD 0) ||
        startFits d.store request.sessionId request.deviceUuid
    | .error _ => true
  | _ => true

section Runs
variable {identity : DesktopIdentity} {lib : Libraries} {d next : Desktop}

theorem accept_settled {pairing : Pairing} {store : Store} (referential : Referential store) (settled : Settled (outlook store))
    (safe : pairing.repair.all (fun context => repairBound store pairing.acceptance context) = true)
    (fits : acceptFits store pairing = true) : Settled (outlook (acceptPhone identity pairing store)) := by
  have fresh : Referential (registered identity pairing store) := upsert_referential referential
  have before : Settled (outlook (registered identity pairing store)) := settled
  have bound : Settled (outlook (acceptFolder pairing.acceptance pairing.draft (registered identity pairing store)
      pairing.directory).2) := by
    unfold acceptFits at fits
    unfold acceptFolder
    cases repairs : pairing.acceptance.repairs with
    | none =>
        have chosen : pairing.repair = none := repairs
        rw [chosen] at fits
        have still : runningSession store pairing.acceptance.deviceUuid = false := by simpa using fits
        exact folder_settled fresh before still
    | some context =>
        have chosen : pairing.repair = some context := repairs
        rw [chosen] at fits
        rw [chosen,Option.all_some] at safe
        rcases @repair_parts (registered identity pairing store) context.selectedFolderId context.selectedFolderPath
            context.expectedDeviceUuid pairing.acceptance.deviceUuid pairing.acceptance.currentTime (repairs_parts repairs) with
          ⟨-,raised,same⟩ | ⟨accepted,same⟩
        · dsimp only
          rw [same]
          exact before
        · have open_ : repairRefused store context.selectedFolderId pairing.acceptance.deviceUuid = false := accepted
          simp only [repairBound,open_,Bool.false_or,List.contains_iff_mem] at safe
          simp only [open_,Bool.false_or,Bool.not_eq_true'] at fits
          dsimp only
          rw [same]
          exact repaired_settled fresh before (repairs_parts repairs) safe accepted fits
  unfold acceptPhone
  generalize acceptFolder pairing.acceptance pairing.draft (registered identity pairing store) pairing.directory = result
    at bound
  obtain ⟨result,after⟩ := result
  cases result with
  | error raised => exact bound
  | ok record =>
      dsimp only
      cases inserted : insertMobileBackupSession after pairing.acceptance.sessionId pairing.acceptance.deviceUuid
          record.folderId .paired pairing.draft.createdAt pairing.acceptance.currentTime with
      | none => exact bound
      | some last => exact insert_settled bound inserted

theorem start_settled {payload : Fields} {currentTime : DateTime} (referential : Referential d.store)
    (settled : Settled (outlook d.store)) (fits : oneAtATime lib d (.start payload currentTime) = true) :
    Settled (outlook (handleStartRequest lib payload currentTime d).2.store) := by
  unfold handleStartRequest
  unfold oneAtATime at fits
  split
  · exact settled
  · rename_i request context passed
    simp only [passed] at fits
    obtain ⟨-,found,-⟩ := session_parts passed
    obtain ⟨life,here,named,owner,-⟩ := context_life found
    unfold acceptStart
    rw [resolve_started]
    dsimp only
    split
    · exact settled
    · rename_i binds
      rw [Bool.or_eq_true,or_iff_right binds] at fits
      obtain ⟨home,bound,mine⟩ := life_home referential here
      rw [outlook_update]
      have alone : ∀ other ∈ (outlook d.store).lives, other.deviceUuid = life.deviceUuid →
          other.sessionId ≠ life.sessionId → other.status ≠ .transferring ∧
            ((outlook d.store).Latest other → ¬ other.status.Terminal) := by
        intro other member same apart
        obtain ⟨row,there,rfl⟩ := List.mem_map.mp member
        rw [outlook_latest]
        rw [owner] at same
        rw [named] at apart
        have allowed := List.all_eq_true.mp fits row there
        have device : row.deviceUuid = request.deviceUuid := same
        have session : row.sessionId ≠ request.sessionId := apart
        simp only [device,session,ne_eq,not_true_eq_false,decide_false,Bool.false_or,Bool.and_eq_true,Bool.not_eq_true',
          decide_eq_true_eq,Bool.and_eq_false_imp,decide_eq_false_iff_not] at allowed
        exact allowed
      have starts := settled_starts settled here alone bound mine
      rw [named,owner] at starts
      exact starts

-- Whatever ended the transfer, neither the session nor the folder goes on transferring.
theorem completion_ended {request : MobileTransferSessionRequest} {interruptionReason : Option String}
    {current : Option FolderTransferState} {reached : MobileBackupState} (resolved : resolveNextBackupState current
      (completionOf request interruptionReason).transitionEvent .transferInProgress = some reached) :
    (completionOf request interruptionReason).sessionStatus ≠ .transferring ∧
      folderTransferStateFromBackupState reached ≠ .transferring := by
  unfold completionOf at resolved ⊢
  dsimp only at resolved ⊢
  split at resolved
  · have stopped : resolveNextBackupState current .transferStopped .transferInProgress = some .transferStopped :=
      resolve_ended current rfl (by decide)
    rename_i asked
    cases stopped.symm.trans resolved
    rw [if_pos asked]
    exact ⟨nofun,nofun⟩
  · rename_i asked
    rw [if_neg asked]
    split at resolved
    · have completed : resolveNextBackupState current .transferCompleted .transferInProgress = some .transferCompleted :=
        resolve_ended current rfl (by decide)
      rename_i counted
      cases completed.symm.trans resolved
      rw [if_pos counted]
      exact ⟨nofun,nofun⟩
    · have failed : resolveNextBackupState current .transferFailed .transferInProgress = some .transferFailed :=
        resolve_ended current rfl (by decide)
      rename_i counted
      cases failed.symm.trans resolved
      rw [if_neg counted]
      exact ⟨nofun,nofun⟩

theorem complete_settled {payload : Fields} {currentTime : DateTime} (settled : Settled (outlook d.store)) :
    Settled (outlook (handleCompleteRequest lib payload currentTime d).2.store) := by
  unfold handleCompleteRequest
  split
  · exact settled
  · rename_i request context passed
    obtain ⟨-,found,running⟩ := session_parts passed
    unfold finishTransfer
    split
    · exact settled
    · rename_i interruptionReason _
      dsimp only
      split
      · exact settled
      · rename_i next resolved
        split
        · exact settled
        · obtain ⟨ended,quiet⟩ := completion_ended resolved
          exact update_ends settled found running ended quiet

theorem upload_settled {call : UploadCall} (settled : Settled (outlook d.store)) :
    Settled (outlook (handleAssetUpload lib call d).2.store) := by
  have writes : UploadWrites lib call d (handleAssetUpload lib call d) := upload_writes
  generalize handleAssetUpload lib call d = result at writes
  cases writes with
  | quiet refusal same =>
      rw [same]
      exact settled
  | @counted _ _ _ store _ accepted code sessions mobileFolders same =>
      have kept : outlook store = outlook d.store := by
        unfold outlook
        rw [sessions,mobileFolders]
      rw [same,outlook_count,kept]
      exact settled
  | failed accepted refusal same =>
      obtain ⟨found,running⟩ := authorise_parts accepted.granted
      rw [same]
      exact fail_settled settled found running

theorem streamError_settled {metadataPayload : Option Fields} {error : OSError} {currentTime : DateTime}
    (settled : Settled (outlook d.store)) :
    Settled (outlook (handleAssetUploadStreamError lib metadataPayload error currentTime d).2.store) := by
  unfold handleAssetUploadStreamError
  split
  · exact settled
  · rename_i context passed
    obtain ⟨metadata,-,found,running⟩ := streamError_parts passed
    rw [fail_writes]
    exact fail_settled settled found running

theorem step_settled (referential : Referential d.store) (settled : Settled (outlook d.store)) (event : BackupEvent)
    (bound : repairsBound d event = true) (fits : oneAtATime lib d event = true)
    (taken : (backupSystem identity lib).step d event = some next) : Settled (outlook next.store) := by
  cases event with
  | accept pairing => cases taken; exact accept_settled referential settled bound fits
  | start payload currentTime => cases taken; exact start_settled referential settled fits
  | upload call => cases taken; exact upload_settled settled
  | complete payload currentTime => cases taken; exact complete_settled settled
  | streamError metadataPayload error currentTime => cases taken; exact streamError_settled settled
  | insertFolder folderPath =>
      cases taken
      have grows : Grows d.store (insertFolder d.store folderPath).2 := insertFolder_grows
      unfold outlook
      rw [grows.sessions,grows.mobileFolders]
      exact settled
  | deleteFolders folderPaths =>
      cases taken
      unfold deleteFolders outlook
      dsimp only
      split
      · exact settled
      · exact delete_settled referential settled
  | files files => cases taken; exact settled

structure Unpaired (store : Store) : Prop where
  mobileFolders : store.mobileFolders.rows = []
  sessions : store.sessions.rows = []
  assets : store.assets.rows = []

theorem unpaired_referential {store : Store} (unpaired : Unpaired store) : Referential store := by
  have none : bindings store = [] := by rw [bindings,unpaired.mobileFolders]; rfl
  refine ⟨?_,?_,?_,?_⟩
  · rw [none]
    exact List.nodup_nil
  · rw [none]
    exact nofun
  · rw [sessionBindings,unpaired.sessions]
    exact nofun
  · rw [unpaired.assets]
    exact nofun

theorem unpaired_settled {store : Store} (unpaired : Unpaired store) : Settled (outlook store) := by
  have empty : outlook store = ⟨[],[]⟩ := by
    rw [outlook,unpaired.sessions,unpaired.mobileFolders]
    rfl
  rw [empty]
  refine ⟨nofun,nofun,fun deviceUuid => ?_⟩
  constructor
  · rintro ⟨_,member,_⟩
    cases member
  · rintro ⟨_,member,_⟩
    cases member

-- In every run in which a device comes to no second session while one of its sessions runs.
theorem sessions_agree (identity : DesktopIdentity) (lib : Libraries) (d s : Desktop) (unpaired : Unpaired d.store)
    (path : Reaches (backupSystem identity lib)
      (fun d event => repairsBound d event = true ∧ oneAtATime lib d event = true) d s) : Agrees s.store := by
  have kept := @reaches_preserves _ _ (backupSystem identity lib)
    (fun d event => repairsBound d event = true ∧ oneAtATime lib d event = true) d s
    (fun d => Referential d.store ∧ Settled (outlook d.store))
  have reached := kept (fun d event next held allowed taken =>
    ⟨step_referential held.1 event allowed.1 taken,step_settled held.1 held.2 event allowed.1 allowed.2 taken⟩)
    ⟨unpaired_referential unpaired,unpaired_settled unpaired⟩ path
  exact settled_agrees reached.2

end Runs

def freshDesktop : Desktop := ⟨⟨.empty,1,.empty,.empty,.empty,.empty⟩,.empty,[]⟩

theorem fresh_unpaired : Unpaired freshDesktop.store := ⟨rfl,rfl,rfl⟩

def firstStart : BackupEvent := .start (sampleRequest startProofPurpose "session-2" [("total_assets",.int 1)]) 1

def pairingAgain : Pairing := {secondPairing with
  acceptance:={secondPairing.acceptance with
    sessionId:="session-3"
    currentTime:=2}}

theorem paired_again_hides : ¬ ∀ (identity : DesktopIdentity) (lib : Libraries) (d s : Desktop), Unpaired d.store →
    Reaches (backupSystem identity lib) (fun d event => repairsBound d event = true) d s → Agrees s.store := by
  intro all
  obtain ⟨s,path,seen⟩ := checkedRun_exhibits (backupSystem runIdentity runLibraries)
    (fun d event => repairsBound d event = true) freshDesktop [.accept secondPairing,firstStart,.accept pairingAgain]
    (fun s => runningSession s.store "phone-1" && s.store.mobileFolders.rows.all fun row => row.transferState = .paired)
    (by decide +kernel)
  have agrees := all runIdentity runLibraries freshDesktop s fresh_unpaired path
  rw [Bool.and_eq_true,List.all_eq_true] at seen
  obtain ⟨row,member,-,shown⟩ := (agrees.folder "phone-1").mpr seen.1
  have paired := of_decide_eq_true (seen.2 row member)
  cases shown.symm.trans paired

theorem first_session_agrees : ∃ s : Desktop, Agrees s.store ∧ runningSession s.store "phone-1" = true := by
  obtain ⟨s,path,seen⟩ := checkedRun_exhibits (backupSystem runIdentity runLibraries)
    (fun d event => repairsBound d event = true ∧ oneAtATime runLibraries d event = true) freshDesktop
    [.accept secondPairing,firstStart] (fun s => runningSession s.store "phone-1") (by decide +kernel)
  exact ⟨s,sessions_agree runIdentity runLibraries freshDesktop s fresh_unpaired path,seen⟩

end ImageSearch.SessionAgreement
