import ImageSearch.ReferentialStore
import ImageSearch.TerminalSessions
import ImageSearch.ExclusiveClaims

namespace ImageSearch.MobileLibrary
open Transitions Threads Payload Tables BackupFolder MobileStore TransferService UploadOutcomes TransferThreads
open TerminalSessions PairingStore PairingService PairingThreads PairingSections ExclusiveClaims ReferentialStore

-- The whole desktop: the pairing service with its tables, and the folders.
structure Library where
  service : Service
  files : Files
  published : List BusEvent

def Library.store (library : Library) : Store := library.service.store

def Library.desktop (library : Library) : Desktop := ⟨library.store,library.files,library.published⟩

def Library.withStore (library : Library) (store : Store) : Library := {library with service:={library.service with store}}

def Library.withDesktop (library : Library) (d : Desktop) : Library :=
  {library.withStore d.store with
    files:=d.files
    published:=d.published}

inductive Worker where
  | pairing (claim : Claim)
  | transfer (activity : Activity)

inductive Turn where
  | pairing (input : Input)
  | transfer

def stepWorker (identity : DesktopIdentity) (lib : Libraries) (library : Library) : Worker → Turn → Option (Library × Worker)
  | .pairing claim,.pairing input => (stepClaim identity library.service claim input).map fun next =>
      ({library with service:=next.1},.pairing next.2)
  | .transfer activity,.transfer => (stepActivity lib library.desktop activity ()).map fun next =>
      (library.withDesktop next.1,.transfer next.2)
  | _,_ => none

inductive LibraryEvent where
  | session (event : Event)
  | insertFolder (folderPath : String)
  | deleteFolders (folderPaths : List String)

def stepLibrary (library : Library) : LibraryEvent → Option Library
  | .session (.tables _) => none
  | .session event => (stepEvent library.service event).map fun service => {library with service}
  | .insertFolder folderPath => some (library.withStore (insertFolder library.store folderPath).2)
  | .deleteFolders folderPaths => some (library.withStore (deleteFolders library.store folderPaths))

def libraryPool (Index : Type*) [DecidableEq Index] (identity : DesktopIdentity) (lib : Libraries) :
    System (Pool Index Library Worker) (Move Index Turn LibraryEvent) := pool (stepWorker identity lib) stepLibrary

structure Reliance where
  deviceUuid : String
  folderId : Option Nat

def acceptanceRelies (a : Acceptance) : AcceptancePhase → Option Reliance
  | .binding _ => some ⟨a.deviceUuid,none⟩
  | .recording _ folder => some ⟨a.deviceUuid,some folder.folderId⟩
  | _ => none

def upserting : UploadStage → Option UploadJob
  | .authorised job | .unsigned job | .probing job _ | .picked job _ | .receiving job .. | .claiming job .. | .moving job ..
  | .copying job .. | .copied job .. | .stamping job _ | .recording job _ => some job
  | _ => none

def claimRelies (claim : Claim) : Option Reliance :=
  match claim.phase with
  | .accepting a phase => acceptanceRelies a phase
  | _ => none

def resolverRelies (claim : Claim) : Option Reliance :=
  match claim.resolver with
  | .accepting a phase => acceptanceRelies a phase
  | _ => none

def relies : Worker → List Reliance
  | .pairing claim => (claimRelies claim).toList ++ (resolverRelies claim).toList
  | .transfer (.upload _ stage) => (upserting stage).toList.map fun job => ⟨job.metadata.deviceUuid,none⟩
  | .transfer _ => []

def repairOf (a : Acceptance) : AcceptancePhase → Outside → Option MobileBackupAgainSessionContext
  | .binding _,.directory _ => a.repairs
  | _,_ => none

def repairTurn : Worker → Turn → Option (Acceptance × MobileBackupAgainSessionContext)
  | .pairing claim,.pairing (.request outside) =>
    match claim.phase with
    | .accepting a phase => (repairOf a phase outside).map fun context => (a,context)
    | _ => none
  | .pairing claim,.pairing (.resolver outside) =>
    match claim.resolver with
    | .accepting a phase => (repairOf a phase outside).map fun context => (a,context)
    | _ => none
  | _,_ => none

def replaces (store : Store) (a : Acceptance) (context : MobileBackupAgainSessionContext) (deviceUuid : String) : Bool :=
  !repairRefused store context.selectedFolderId a.deviceUuid && deviceUuid = context.expectedDeviceUuid

def repairBound (store : Store) (a : Acceptance) (context : MobileBackupAgainSessionContext) : Bool :=
  repairRefused store context.selectedFolderId a.deviceUuid ||
    (bindings store).contains (context.selectedFolderId,context.expectedDeviceUuid)

-- A repair finds the folder bound as it was when pairing started, and neither a repair nor a
-- deletion removes a device that a call in flight counts on.
def referencesKept : Condition Library Worker Turn LibraryEvent where
  own library worker turn := ((repairTurn worker turn).all fun repair => repairBound library.store repair.1 repair.2) = true
  beside library worker turn other := ((repairTurn worker turn).all fun repair =>
    (relies other).all fun reliance => !replaces library.store repair.1 repair.2 reliance.deviceUuid) = true
  event library event other := (match event with
    | .deleteFolders folderPaths => (relies other).all fun reliance =>
      !deletedDevice library.store (deletedFolderIds library.store folderPaths) reliance.deviceUuid
    | _ => true) = true

def Stands (store : Store) (reliance : Reliance) : Prop :=
  HasDevice store reliance.deviceUuid ∧ ∀ folderId, reliance.folderId = some folderId →
    (folderId,reliance.deviceUuid) ∈ bindings store

theorem stands_spared {store next : Store} {gone : String → Prop} {reliance : Reliance} (stands : Stands store reliance)
    (spares : Spares store next gone) (spared : ¬ gone reliance.deviceUuid) : Stands next reliance :=
  ⟨spares.device _ stands.1 spared,fun folderId named => spares.binding _ (stands.2 folderId named) spared⟩

section Acceptance
variable {identity : DesktopIdentity} {service : Service} {a : Acceptance} {phase : AcceptancePhase} {outside : Outside}

def goneBy (store : Store) (a : Acceptance) (phase : AcceptancePhase) (outside : Outside) (deviceUuid : String) : Prop :=
  ∃ context, repairOf a phase outside = some context ∧ replaces store a context deviceUuid = true

structure TableWrites (store next : Store) (gone : String → Prop) : Prop where
  referential : Referential next
  spares : Spares store next gone

theorem writes_still {store : Store} {gone : String → Prop} (referential : Referential store) : TableWrites store store gone :=
  ⟨referential,fun _ has _ => has,fun _ member _ => member⟩

theorem writes_nobody {store next : Store} {gone : String → Prop} (referential : Referential next)
    (spares : Spares store next nobody) : TableWrites store next gone :=
  ⟨referential,fun deviceUuid has _ => spares.device deviceUuid has id,fun ids member _ => spares.binding ids member id⟩

theorem repairs_parts {context : MobileBackupAgainSessionContext} (repairs : a.repairs = some context) :
    context.expectedDeviceUuid ≠ a.deviceUuid := by
  have chosen := (Option.filter_eq_some_iff.mp repairs).2
  simp only [Bool.and_eq_true,decide_eq_true_eq] at chosen
  exact Ne.symm chosen.1

theorem acceptFolder_binds {store : Store} {draft : MobilePairingSessionDraft} {directory : Directory}
    (referential : Referential store) (device : HasDevice store a.deviceUuid)
    (safe : (repairOf a (.binding draft) (.directory directory)).all (fun context => repairBound store a context) = true) :
    Binds store a.deviceUuid (goneBy store a (.binding draft) (.directory directory)) (acceptFolder a draft store directory) := by
  unfold acceptFolder
  cases repairs : a.repairs with
  | none =>
      have binds : Binds store a.deviceUuid nobody (getOrCreateMobileFolder store draft.destinationParent a.deviceUuid
        a.deviceName a.currentTime directory) := folder_binds referential device
      exact ⟨binds.referential,(writes_nobody binds.referential binds.spares).spares,binds.bound⟩
  | some context =>
      have chosen : repairOf a (.binding draft) (.directory directory) = some context := repairs
      simp only [chosen,Option.all_some,repairBound,Bool.or_eq_true,List.contains_iff_mem] at safe
      have binds : Binds store a.deviceUuid (fun deviceUuid => repairRefused store context.selectedFolderId a.deviceUuid = false ∧
          deviceUuid = context.expectedDeviceUuid) (repairMobileFolderDeviceBinding store context.selectedFolderId
            context.selectedFolderPath context.expectedDeviceUuid a.deviceUuid a.currentTime) :=
        repair_binds referential device (repairs_parts repairs) safe
      refine ⟨binds.referential,⟨?_,?_⟩,binds.bound⟩
      · intro other has spared
        refine binds.spares.device other has fun gone => spared ⟨context,chosen,?_⟩
        simp [replaces,gone.1,gone.2]
      · intro ids member spared
        refine binds.spares.binding ids member fun gone => spared ⟨context,chosen,?_⟩
        simp [replaces,gone.1,gone.2]

theorem acceptance_tables {after : Service × AcceptanceStep} (referential : Referential service.store)
    (stands : ∀ reliance, acceptanceRelies a phase = some reliance → Stands service.store reliance)
    (safe : (repairOf a phase outside).all (fun context => repairBound service.store a context) = true)
    (moved : stepAcceptance identity service a phase outside = some after) :
    TableWrites service.store after.1.store (goneBy service.store a phase outside) ∧
      ∀ phase' reliance, after.2 = .on phase' → acceptanceRelies a phase' = some reliance → Stands after.1.store reliance := by
  unfold stepAcceptance at moved
  split at moved
  · split at moved <;> cases moved
    · exact ⟨writes_still referential,nofun⟩
    · refine ⟨writes_still referential,?_⟩
      rintro phase' reliance ⟨⟩ ⟨⟩
  · cases moved
    refine ⟨writes_nobody (upsert_referential referential) upsert_spares,?_⟩
    rintro phase' reliance ⟨⟩ ⟨⟩
    exact ⟨upsert_device.mpr (.inr rfl),nofun⟩
  · rename_i draft directory
    have binds := acceptFolder_binds referential (stands _ rfl).1 safe
    simp only [Option.some.injEq] at moved
    subst moved
    refine ⟨⟨binds.referential,binds.spares⟩,?_⟩
    intro phase' reliance reached named
    dsimp only at reached
    split at reached
    · cases reached
    · rename_i folder done
      cases reached
      cases named
      have bound := binds.bound folder done
      refine ⟨(binds.referential.bindings _ bound).1,?_⟩
      rintro folderId ⟨⟩
      exact bound
  · rename_i draft folder
    split at moved
    · cases moved
      exact ⟨writes_still referential,nofun⟩
    · rename_i store inserted
      cases moved
      obtain ⟨after,spares⟩ := insert_referential referential ((stands _ rfl).2 _ rfl) inserted
      refine ⟨writes_nobody after spares,?_⟩
      rintro phase' reliance ⟨⟩ ⟨⟩
  · split at moved <;> cases moved
    · exact ⟨writes_still referential,nofun⟩
    · exact ⟨writes_still referential,nofun⟩
  · cases moved

end Acceptance

section Claims
variable {identity : DesktopIdentity} {service : Service} {claim : Claim} {outside : Outside}

def Handed (claim : Claim) : Prop := claim.resolver ≠ .absent → settledOwn claim.phase = true

theorem settled_relies (settled : settledOwn claim.phase = true) : claimRelies claim = none := by
  unfold claimRelies
  split
  · rename_i accepting
    rw [accepting] at settled
    cases settled
  · rfl

theorem begin_relies {a : Acceptance} : claimRelies {claim with phase:=a.begin} = none := by
  unfold Acceptance.begin
  split
  · split <;> rfl
  · rfl

-- Everything a step of a claim or its resolver does to the tables, and to what they count on.
structure Steps (service : Service) (claim : Claim) (turn : Turn) (after : Service × Claim) : Prop where
  writes : TableWrites service.store after.1.store fun deviceUuid =>
    ∃ repair, repairTurn (.pairing claim) turn = some repair ∧ replaces service.store repair.1 repair.2 deviceUuid = true
  own : ∀ reliance ∈ relies (.pairing after.2), Stands after.1.store reliance
  handed : Handed after.2

theorem relies_parts {reliance : Reliance} :
    reliance ∈ relies (.pairing claim) ↔ claimRelies claim = some reliance ∨ resolverRelies claim = some reliance := by
  simp [relies]

theorem receive_store (service : Service) (claim : Claim) : (receiveClaim service claim).1.store = service.store := by
  rcases receive_parts service claim with ⟨same,-⟩ | ⟨session,-,-,same,-⟩ | ⟨session,platform,-,-,-,-,-,begun⟩
  · rw [same]
  · rw [same]
    rfl
  · rw [begun]

theorem stopped_store {pending : PendingMismatchResolution} {message : String} :
    (completePairingStopped service pending message).store = service.store := by
  unfold completePairingStopped
  split <;> rfl

theorem request_steps {after : Service × Claim} (referential : Referential service.store)
    (stands : ∀ reliance ∈ relies (.pairing claim), Stands service.store reliance) (handed : Handed claim)
    (safe : ((repairTurn (.pairing claim) (.pairing (.request outside))).all fun repair =>
      repairBound service.store repair.1 repair.2) = true)
    (moved : stepRequest identity service claim outside = some after) :
    Steps service claim (.pairing (.request outside)) after := by
  have absent : settledOwn claim.phase = false → claim.resolver = .absent := by
    intro unsettled
    by_contra present
    cases unsettled.symm.trans (handed present)
  unfold stepRequest at moved
  split at moved
  · rename_i arrived
    cases moved
    have gone := absent (by rw [arrived]; rfl)
    refine ⟨?_,?_,fun present => absurd gone present⟩
    · dsimp only
      rw [receive_store]
      exact writes_still referential
    · intro reliance counted
      rcases relies_parts.mp counted with mine | resolving
      · rcases receive_parts service claim with ⟨-,answer,answered,-⟩ | ⟨session,-,-,-,answer,answered,-⟩ |
          ⟨session,platform,-,-,-,-,-,begun⟩
        · simp [claimRelies,answered] at mine
        · simp [claimRelies,answered] at mine
        · rw [begun,begin_relies] at mine
          cases mine
      · simp [resolverRelies,gone] at resolving
  · rename_i a context mismatching
    have gone := absent (by rw [mismatching]; rfl)
    split at moved <;> cases moved
    · refine ⟨writes_still referential,?_,fun _ => rfl⟩
      intro reliance counted
      simp [relies,claimRelies,resolverRelies] at counted
    · refine ⟨writes_still referential,?_,fun _ => rfl⟩
      intro reliance counted
      simp [relies,claimRelies,resolverRelies,gone] at counted
  · rename_i outside _ _ a phase accepting
    obtain ⟨after,step,rfl⟩ := Option.map_eq_some_iff.mp moved
    have gone := absent (by rw [accepting]; rfl)
    simp only [repairTurn,accepting,Option.all_map] at safe
    obtain ⟨writes,next⟩ := acceptance_tables referential
      (fun reliance counted => stands reliance (relies_parts.mpr (.inl (by rw [claimRelies,accepting]; exact counted))))
      safe step
    refine ⟨⟨writes.referential,?_⟩,?_,fun present => absurd gone present⟩
    · refine ⟨fun deviceUuid has spared => writes.spares.device deviceUuid has fun lost => spared ?_,
        fun ids member spared => writes.spares.binding ids member fun lost => spared ?_⟩
      all_goals
        obtain ⟨context,chosen,replaced⟩ := lost
        exact ⟨(a,context),by simp [repairTurn,accepting,chosen],replaced⟩
    · intro reliance counted
      rcases relies_parts.mp counted with mine | resolving
      · cases reached : after.2 with
        | on phase' =>
            simp only [claimRelies,reached] at mine
            exact next phase' reliance reached mine
        | done result => simp [claimRelies,reached] at mine
      · simp [resolverRelies,gone] at resolving
  · rename_i leaving
    cases moved
    refine ⟨writes_still referential,?_,fun _ => rfl⟩
    intro reliance counted
    rcases relies_parts.mp counted with mine | resolving
    · cases mine
    · exact stands reliance (relies_parts.mpr (.inr resolving))
  · cases moved

theorem resolver_steps {after : Service × Claim} (referential : Referential service.store)
    (stands : ∀ reliance ∈ relies (.pairing claim), Stands service.store reliance) (handed : Handed claim)
    (safe : ((repairTurn (.pairing claim) (.pairing (.resolver outside))).all fun repair =>
      repairBound service.store repair.1 repair.2) = true)
    (moved : stepResolver identity service claim outside = some after) :
    Steps service claim (.pairing (.resolver outside)) after := by
  have settled : claim.resolver ≠ .absent → ∀ reliance, claimRelies claim ≠ some reliance := by
    intro present reliance mine
    cases (settled_relies (handed present)).symm.trans mine
  unfold stepResolver at moved
  split at moved
  · rename_i pending outside resolving
    obtain ⟨resolver,step,rfl⟩ := Option.map_eq_some_iff.mp moved
    have present : claim.resolver ≠ .absent := by simp [resolving]
    refine ⟨writes_still referential,?_,fun _ => handed present⟩
    intro reliance counted
    rcases relies_parts.mp counted with mine | relied
    · exact absurd mine (settled present reliance)
    · unfold resolve at step
      split at step <;> cases step <;> simp [resolverRelies,acceptanceRelies] at relied
  · rename_i pending message stopping
    cases moved
    have present : claim.resolver ≠ .absent := by simp [stopping]
    refine ⟨?_,?_,fun _ => handed present⟩
    · dsimp only
      rw [stopped_store]
      exact writes_still referential
    · intro reliance counted
      rcases relies_parts.mp counted with mine | relied
      · exact absurd mine (settled present reliance)
      · cases relied
  · rename_i outside _ _ a phase accepting
    obtain ⟨after,step,rfl⟩ := Option.map_eq_some_iff.mp moved
    have present : claim.resolver ≠ .absent := by simp [accepting]
    simp only [repairTurn,accepting,Option.all_map] at safe
    obtain ⟨writes,next⟩ := acceptance_tables referential
      (fun reliance counted => stands reliance (relies_parts.mpr (.inr (by rw [resolverRelies,accepting]; exact counted))))
      safe step
    refine ⟨⟨writes.referential,?_⟩,?_,fun _ => handed present⟩
    · refine ⟨fun deviceUuid has spared => writes.spares.device deviceUuid has fun lost => spared ?_,
        fun ids member spared => writes.spares.binding ids member fun lost => spared ?_⟩
      all_goals
        obtain ⟨context,chosen,replaced⟩ := lost
        exact ⟨(a,context),by simp [repairTurn,accepting,chosen],replaced⟩
    · intro reliance counted
      rcases relies_parts.mp counted with mine | relied
      · exact absurd mine (settled present reliance)
      · cases reached : after.2 with
        | on phase' =>
            simp only [resolverRelies,reached] at relied
            exact next phase' reliance reached relied
        | done result => cases result <;> simp [resolverRelies,reached] at relied
  · cases moved

end Claims

section Transfers
variable {lib : Libraries} {d d' : Desktop} {t t' : Activity}

-- A request of a transfer writes no reference but the device of an asset it was authorised for.
structure Transfers (d : Desktop) (t : Activity) (d' : Desktop) (t' : Activity) : Prop where
  same : SameBindings d.store d'.store
  assets : ∀ row ∈ d'.store.assets.rows, (∃ old ∈ d.store.assets.rows, row.deviceUuid = old.deviceUuid) ∨
    ∃ reliance ∈ relies (.transfer t), row.deviceUuid = reliance.deviceUuid
  relied : ∀ reliance ∈ relies (.transfer t'), reliance ∈ relies (.transfer t) ∨
    reliance.folderId = none ∧ HasDevice d.store reliance.deviceUuid

theorem upserting_job {stage : UploadStage} {job : UploadJob} (here : upserting stage = some job) : stage.job? = some job := by
  cases stage <;> first | exact here | cases here

theorem upload_assets {call : UploadCall} {stage stage' : UploadStage}
    (moved : stepUpload lib call d stage = some (d',stage')) : SameBindings d.store d'.store ∧
      (d'.store.assets = d.store.assets ∨ ∃ job row, upserting stage = some job ∧ row.deviceUuid = job.metadata.deviceUuid ∧
        d'.store = upsertMobileAssetRecord d.store row) := by
  rcases (stage_step moved).store with same | ⟨job,-,counted | ⟨stored,rfl,recorded⟩ | ⟨error,state,-,failed⟩⟩
  · rw [same]
    exact ⟨same_refl,.inl rfl⟩
  · rw [counted]
    exact ⟨increment_same,.inl increment_assets⟩
  · rw [recorded]
    exact ⟨upsert_same,.inr ⟨job,_,rfl,rfl,rfl⟩⟩
  · rw [failed]
    exact ⟨update_same,.inl rfl⟩

theorem upload_upserting {call : UploadCall} {stage stage' : UploadStage} {job : UploadJob}
    (moved : stepUpload lib call d stage = some (d',stage')) (next : upserting stage' = some job) :
    upserting stage = some job ∨ HasDevice d.store job.metadata.deviceUuid := by
  rcases (stage_step moved).running job (upserting_job next) with ⟨before,alive⟩ | ⟨-,passed⟩
  · cases stage <;> first | exact .inl before | cases before
    · cases moved
      cases next
    · cases moved
      cases next
    · exact absurd rfl (alive _)
    · cases moved
      cases next
  · have found := (authorise_parts (check_passed passed).granted).1
    obtain ⟨session,device,folder,-,-,present,-⟩ := context_parts found
    obtain ⟨member,same⟩ := find_mem present
    exact .inr (List.mem_map.mpr ⟨device,member,same⟩)

theorem upload_transfers {call : UploadCall} {stage stage' : UploadStage}
    (moved : stepUpload lib call d stage = some (d',stage')) :
    Transfers d (.upload call stage) d' (.upload call stage') := by
  obtain ⟨same,assets⟩ := upload_assets moved
  refine ⟨same,?_,?_⟩
  · intro row member
    rcases assets with kept | ⟨job,stored,here,device,recorded⟩
    · exact .inl ⟨row,kept ▸ member,rfl⟩
    · rw [recorded] at member
      rcases mem_upsert member with rfl | ⟨old,-⟩ | ⟨old,present,-,rfl⟩
      · exact .inr ⟨⟨job.metadata.deviceUuid,none⟩,by simp [relies,here],device⟩
      · exact .inl ⟨row,old,rfl⟩
      · exact .inl ⟨old,present,rfl⟩
  · intro reliance counted
    obtain ⟨job,next,rfl⟩ : ∃ job, upserting stage' = some job ∧ ⟨job.metadata.deviceUuid,none⟩ = reliance := by
      simpa [relies] using counted
    rcases upload_upserting moved next with before | device
    · exact .inl (by simp [relies,before])
    · exact .inr ⟨rfl,device⟩

theorem quiet_transfers (same : SameBindings d.store d'.store) (assets : d'.store.assets = d.store.assets)
    (relied : relies (.transfer t') = []) : Transfers d t d' t' := by
  refine ⟨same,?_,?_⟩
  · intro row member
    exact .inl ⟨row,assets ▸ member,rfl⟩
  · intro reliance counted
    rw [relied] at counted
    cases counted

theorem fail_same (context : MobileTransferContext) (currentTime : DateTime) (publish : Bool) (response : Response) (d : Desktop) :
    SameBindings d.store (failTransfer context currentTime publish response d).2.store ∧
      (failTransfer context currentTime publish response d).2.store.assets = d.store.assets := by
  rcases fail_store context currentTime publish response d with same | ⟨state,written⟩
  · rw [same]
    exact ⟨same_refl,rfl⟩
  · rw [written]
    exact ⟨update_same,rfl⟩

theorem start_same (request : MobileTransferSessionRequest) (context : MobileTransferContext) (currentTime : DateTime)
    (d : Desktop) : SameBindings d.store (acceptStart request context currentTime d).2.store ∧
      (acceptStart request context currentTime d).2.store.assets = d.store.assets := by
  unfold acceptStart
  split
  · exact ⟨same_refl,rfl⟩
  · split
    · exact ⟨same_refl,rfl⟩
    · exact ⟨update_same,rfl⟩

theorem complete_same (payload : Fields) (request : MobileTransferSessionRequest) (context : MobileTransferContext)
    (currentTime : DateTime) (d : Desktop) :
    SameBindings d.store (finishTransfer payload request context currentTime d).2.store ∧
      (finishTransfer payload request context currentTime d).2.store.assets = d.store.assets := by
  unfold finishTransfer
  split
  · exact ⟨same_refl,rfl⟩
  · dsimp only
    split
    · exact ⟨same_refl,rfl⟩
    · split
      · exact ⟨same_refl,rfl⟩
      · exact ⟨update_same,rfl⟩

theorem checked_transfers {Pending : Type} {check : Store → Except (Except Raised Response) Pending}
    {write : Pending → Desktop → Except Raised Response × Desktop} {stage stage' : Checked Pending}
    (same : ∀ held d, SameBindings d.store (write held d).2.store ∧ (write held d).2.store.assets = d.store.assets)
    (relied : relies (.transfer t') = []) (moved : stepChecked check write d stage = some (d',stage')) :
    Transfers d t d' t' := by
  rcases stepChecked_parts moved with ⟨-,rfl,-⟩ | ⟨held,result,-,written,-⟩
  · exact quiet_transfers same_refl rfl relied
  · obtain ⟨bindings,assets⟩ := same held d
    rw [written] at bindings assets
    exact quiet_transfers bindings assets relied

theorem activity_transfers (moved : stepActivity lib d t () = some (d',t')) : Transfers d t d' t' := by
  cases t with
  | upload call stage =>
      obtain ⟨⟨after,stage'⟩,step,equal⟩ := Option.map_eq_some_iff.mp moved
      cases equal
      exact upload_transfers step
  | start payload currentTime stage =>
      obtain ⟨⟨after,stage'⟩,step,equal⟩ := Option.map_eq_some_iff.mp moved
      cases equal
      exact checked_transfers (fun held d => start_same held.1 held.2 currentTime d) rfl step
  | existence payload stage =>
      obtain ⟨⟨after,stage'⟩,step,equal⟩ := Option.map_eq_some_iff.mp moved
      cases equal
      exact checked_transfers (fun _ _ => ⟨same_refl,rfl⟩) rfl step
  | complete payload currentTime stage =>
      obtain ⟨⟨after,stage'⟩,step,equal⟩ := Option.map_eq_some_iff.mp moved
      cases equal
      exact checked_transfers (fun held d => complete_same payload held.1 held.2 currentTime d) rfl step
  | streamError metadataPayload error currentTime stage =>
      obtain ⟨⟨after,stage'⟩,step,equal⟩ := Option.map_eq_some_iff.mp moved
      cases equal
      exact checked_transfers (fun held d => fail_same held currentTime true (streamErrorResponse error) d) rfl step

end Transfers

section Runs
variable {identity : DesktopIdentity} {lib : Libraries} {library : Library} {worker other : Worker} {turn : Turn}

def HandedOver : Worker → Prop
  | .pairing claim => Handed claim
  | .transfer _ => True

def referencing : Assertions Library Worker where
  world library := Referential library.store
  thread library worker := (∀ reliance ∈ relies worker, Stands library.store reliance) ∧ HandedOver worker

structure WorkerStep (library : Library) (worker : Worker) (turn : Turn) (after : Library × Worker) : Prop where
  writes : TableWrites library.store after.1.store fun deviceUuid =>
    ∃ repair, repairTurn worker turn = some repair ∧ replaces library.store repair.1 repair.2 deviceUuid = true
  own : ∀ reliance ∈ relies after.2, Stands after.1.store reliance
  handed : HandedOver after.2

theorem worker_step {after : Library × Worker} (referential : Referential library.store)
    (stands : ∀ reliance ∈ relies worker, Stands library.store reliance) (handed : HandedOver worker)
    (own : referencesKept.own library worker turn) (moved : stepWorker identity lib library worker turn = some after) :
    WorkerStep library worker turn after := by
  unfold stepWorker at moved
  split at moved
  · rename_i claim input
    obtain ⟨after,step,rfl⟩ := Option.map_eq_some_iff.mp moved
    cases input with
    | request outside =>
        obtain ⟨writes,relied,handed⟩ := request_steps referential stands handed own step
        exact ⟨writes,relied,handed⟩
    | resolver outside =>
        obtain ⟨writes,relied,handed⟩ := resolver_steps referential stands handed own step
        exact ⟨writes,relied,handed⟩
  · rename_i activity
    obtain ⟨⟨d',t'⟩,step,rfl⟩ := Option.map_eq_some_iff.mp moved
    obtain ⟨same,assets,relied⟩ := activity_transfers step
    have spares : Spares library.store d'.store nobody := spares_same same
    have after : Referential d'.store := by
      refine referential_same referential same fun row member => ?_
      rcases assets row member with ⟨old,present,device⟩ | ⟨reliance,counted,device⟩
      · exact device ▸ referential.assets old present
      · exact device ▸ (stands reliance counted).1
    refine ⟨writes_nobody after spares,?_,trivial⟩
    intro reliance counted
    rcases relied reliance counted with before | ⟨unbound,device⟩
    · exact stands_spared (stands reliance before) spares id
    · refine ⟨spares.device _ device id,fun folderId named => ?_⟩
      cases unbound.symm.trans named
  · cases moved

-- What an event does to the tables: the deletion of folders removes devices, nothing else does.
theorem event_writes {event : LibraryEvent} {next : Library} (referential : Referential library.store)
    (moved : stepLibrary library event = some next) : Referential next.store ∧
      ∀ reliance, Stands library.store reliance → (∀ folderPaths, event = .deleteFolders folderPaths →
        deletedDevice library.store (deletedFolderIds library.store folderPaths) reliance.deviceUuid = false) →
        Stands next.store reliance := by
  cases event with
  | insertFolder folderPath =>
      cases moved
      have grows : Grows library.store (insertFolder library.store folderPath).2 := insertFolder_grows
      exact ⟨grows_referential referential grows,fun _ stands _ => stands_spared stands (grows_spares grows) id⟩
  | deleteFolders folderPaths =>
      cases moved
      obtain ⟨after,spares⟩ := delete_referential folderPaths referential
      refine ⟨after,fun reliance stands kept => stands_spared stands spares fun gone => ?_⟩
      cases gone.symm.trans (kept folderPaths rfl)
  | session event =>
      have others : ∀ store, event ≠ .tables store := by
        rintro store rfl
        cases moved
      obtain ⟨service,step,rfl⟩ : ∃ service, stepEvent library.service event = some service ∧ {library with service} = next := by
        cases event with
        | tables store => cases moved
        | _ => exact Option.map_eq_some_iff.mp moved
      have same : ({library with service} : Library).store = library.store := event_store others step
      rw [same]
      exact ⟨referential,fun _ stands _ => stands⟩

theorem referencing_stable : Stable referencing (stepWorker identity lib) stepLibrary referencesKept where
  own := by
    rintro library worker turn next worker' referential ⟨stands,handed⟩ own moved
    obtain ⟨writes,relied,handed'⟩ := worker_step referential stands handed own moved
    exact ⟨writes.referential,relied,handed'⟩
  other := by
    rintro library worker other turn next worker' referential ⟨stands,handed⟩ ⟨stands',handed'⟩ - - own beside moved
    obtain ⟨writes,-,-⟩ := worker_step referential stands handed own moved
    refine ⟨⟨fun reliance counted => stands_spared (stands' reliance counted) writes.spares ?_,handed'⟩,trivial,trivial⟩
    rintro ⟨repair,chosen,replaced⟩
    have spared : (relies other).all (fun reliance => !replaces library.store repair.1 repair.2 reliance.deviceUuid) = true := by
      simpa [referencesKept,chosen] using beside
    have spared := List.all_eq_true.mp spared reliance counted
    rw [replaced] at spared
    cases spared
  eventWorld referential moved := (event_writes referential moved).1
  eventThread := by
    rintro library event next other referential ⟨stands,handed⟩ kept moved
    refine ⟨fun reliance counted => (event_writes referential moved).2 reliance (stands reliance counted) ?_,handed⟩
    rintro folderPaths rfl
    have spared := List.all_eq_true.mp kept reliance counted
    simpa using spared

-- What the schema's REFERENCES ask, which SQLite does not enforce here, and that every session
-- has the one folder of its device.
structure Integrity (store : Store) : Prop where
  folderDevice : ∀ row ∈ store.mobileFolders.rows, row.deviceUuid ∈ store.devices.rows.map MobileDeviceRow.deviceUuid
  sessionDevice : ∀ row ∈ store.sessions.rows, row.deviceUuid ∈ store.devices.rows.map MobileDeviceRow.deviceUuid
  assetDevice : ∀ row ∈ store.assets.rows, row.deviceUuid ∈ store.devices.rows.map MobileDeviceRow.deviceUuid
  folderFolder : ∀ row ∈ store.mobileFolders.rows, row.folderId ∈ store.folders.rows.map FolderRow.id
  sessionFolder : ∀ row ∈ store.sessions.rows, row.folderId ∈ store.folders.rows.map FolderRow.id
  sessionBound : ∀ row ∈ store.sessions.rows, ∃ folder ∈ store.mobileFolders.rows, folder.deviceUuid = row.deviceUuid ∧
    folder.folderId = row.folderId ∧ ∀ other ∈ store.mobileFolders.rows, other.deviceUuid = row.deviceUuid → other = folder

theorem referential_integrity {store : Store} (referential : Referential store) : Integrity store := by
  have session : ∀ row ∈ store.sessions.rows, (row.folderId,row.deviceUuid) ∈ bindings store := fun row member =>
    referential.sessions _ (List.mem_map_of_mem member)
  refine ⟨?_,?_,referential.assets,?_,?_,?_⟩
  · exact fun row member => (referential.bindings _ (List.mem_map_of_mem member)).1
  · exact fun row member => (referential.bindings _ (session row member)).1
  · exact fun row member => (referential.bindings _ (List.mem_map_of_mem member)).2
  · exact fun row member => (referential.bindings _ (session row member)).2
  · intro row member
    obtain ⟨folder,there,same⟩ := List.mem_map.mp (session row member)
    obtain ⟨named,device⟩ := Prod.mk.inj same
    refine ⟨folder,there,device,named,fun other present mine => ?_⟩
    have equal := binding_device referential (List.mem_map_of_mem present) (List.mem_map_of_mem there) (mine.trans device.symm)
    exact List.inj_on_of_nodup_map store.mobileFolders.distinct present there (Prod.mk.inj equal).1

def arrivingWorker : Worker → Prop
  | .pairing claim => claim.phase = .arrived ∧ claim.resolver = .absent
  | .transfer activity => arriving activity = true

theorem arriving_relies (arrived : arrivingWorker worker) : relies worker = [] ∧ HandedOver worker := by
  cases worker with
  | pairing claim =>
      obtain ⟨phase,absent⟩ := arrived
      exact ⟨by simp [relies,claimRelies,resolverRelies,phase,absent],fun present => absurd absent present⟩
  | transfer activity =>
      cases activity with
      | upload call stage => cases stage <;> first | exact ⟨rfl,trivial⟩ | cases arrived
      | _ => exact ⟨rfl,trivial⟩

variable {Index : Type*} [DecidableEq Index] {start last : Pool Index Library Worker}

theorem references_kept (referential : Referential start.world.store) (arrived : ∀ i, arrivingWorker (start.threads i))
    (path : Reaches (libraryPool Index identity lib) referencesKept.Admits start last) : Integrity last.world.store := by
  have fresh : referencing.Hold start := by
    refine ⟨referential,fun i => ?_,fun _ _ _ => trivial⟩
    obtain ⟨nothing,handed⟩ := arriving_relies (arrived i)
    exact ⟨by rw [nothing]; nofun,handed⟩
  exact referential_integrity (hold_reaches referencing_stable fresh path).world

end Runs

instance (library : Library) (worker : Worker) (turn : Turn) : Decidable (referencesKept.own library worker turn) :=
  inferInstanceAs (Decidable (_ = true))
instance (library : Library) (worker other : Worker) (turn : Turn) : Decidable (referencesKept.beside library worker turn other) :=
  inferInstanceAs (Decidable (_ = true))
instance (library : Library) (event : LibraryEvent) (other : Worker) : Decidable (referencesKept.event library event other) :=
  inferInstanceAs (Decidable (_ = true))

def replacedPhone : Pool Unit Library Worker where
  world := {
    service := .constructed {
      folders := ⟨[⟨1,"/backups/Phone"⟩],by decide⟩
      nextFolderId := 2
      devices := ⟨[⟨"phone-0","android","Phone","key-0",0,0⟩],by decide⟩
      mobileFolders := ⟨[⟨1,"phone-0",.paired,0⟩],by decide⟩
      sessions := .empty
      assets := .empty}
    files := .empty
    published := []}
  threads _ := .pairing (sampleClaim "session-1" "code-1" "phone-1")

theorem replacedPhone_referential : Referential replacedPhone.world.store := by
  refine ⟨by decide,?_,nofun,nofun⟩
  intro ids member
  cases List.mem_singleton.mp member
  exact ⟨List.mem_singleton_self _,List.mem_singleton_self _⟩

theorem replacedPhone_arrived : ∀ i, arrivingWorker (replacedPhone.threads i) := fun _ => ⟨rfl,rfl⟩

def continued (meanwhile : List LibraryEvent) : List (Move Unit Turn LibraryEvent) :=
  let takes (inputs : List Input) : List (Move Unit Turn LibraryEvent) := inputs.map fun input => .thread () (.pairing input)
  .environment (.session (.start (sampleDraft "session-1" "code-1") (some ⟨1,"/backups/Phone","phone-0"⟩))) ::
    takes [.request .resume,.request .resume] ++ meanwhile.map .environment ++
    takes [.resolver (.decided (some .continueInSelectedFolder)),.resolver .resume,.resolver .resume,
      .resolver (.directory ⟨id,none⟩),.resolver .resume]

-- The folder is deleted while the question is open; the session that follows has none.
theorem deleted_folder_paired : ¬ ∀ (identity : DesktopIdentity) (lib : Libraries) (start last : Pool Unit Library Worker),
    Referential start.world.store → (∀ i, arrivingWorker (start.threads i)) →
    Reachable (libraryPool Unit identity lib) start last → Integrity last.world.store := by
  intro all
  obtain ⟨last,path,seen⟩ := checkedRun_exhibits (libraryPool Unit sampleIdentity sampleLibraries) (fun _ _ => True)
    replacedPhone (continued [.deleteFolders ["/backups/Phone"]])
    (fun last => last.world.store.sessions.rows.any fun row => row.folderId ∉ last.world.store.folders.rows.map FolderRow.id)
    (by decide +kernel)
  obtain ⟨row,member,dangling⟩ := List.any_eq_true.mp seen
  exact of_decide_eq_true dangling ((all sampleIdentity sampleLibraries replacedPhone last replacedPhone_referential
    replacedPhone_arrived path).sessionFolder row member)

theorem continued_folder_bound : ∃ last, Reaches (libraryPool Unit sampleIdentity sampleLibraries) referencesKept.Admits
    replacedPhone last ∧ Integrity last.world.store ∧ last.world.store.sessions.rows ≠ [] := by
  obtain ⟨last,path,seen⟩ := checkedRun_exhibits (libraryPool Unit sampleIdentity sampleLibraries) referencesKept.Admits
    replacedPhone (continued [.insertFolder "/photos"]) (fun last => last.world.store.sessions.rows ≠ []) (by decide +kernel)
  exact ⟨last,path,references_kept replacedPhone_referential replacedPhone_arrived path,of_decide_eq_true seen⟩

end ImageSearch.MobileLibrary
