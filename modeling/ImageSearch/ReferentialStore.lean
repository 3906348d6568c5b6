import ImageSearch.PairingStore

namespace ImageSearch.ReferentialStore
open Payload Tables BackupState MobileStore PairingStore

variable {store next : Store} {deviceUuid : String} {gone : String → Prop}

def rstrip (drop : Char → Bool) (text : List Char) : List Char := (text.reverse.dropWhile drop).reverse

def folderPathVariants (folderPath : String) : List String :=
  let normalizedPath := folderPath.toList.map fun c => if c = '\\' then '/' else c
  if normalizedPath = ['/'] then ["/"]
  else
    let trimmedPath := rstrip (fun c => c = '/') normalizedPath
    [String.ofList trimmedPath,String.ofList (trimmedPath ++ ['/'])]

def deletedFolderIds (store : Store) (folderPaths : List String) : List Nat :=
  (store.folders.rows.filter fun row => row.path ∈ folderPaths.flatMap folderPathVariants).map FolderRow.id

def deleteFolders (store : Store) (folderPaths : List String) : Store :=
  let folderIds := deletedFolderIds store folderPaths
  let store := if folderIds = [] then store else deleteMobileDeviceDataForFolderIds store folderIds
  {store with folders:=store.folders.delete fun row => row.path ∈ folderPaths.flatMap folderPathVariants}

def HasDevice (store : Store) (deviceUuid : String) : Prop := deviceUuid ∈ store.devices.rows.map MobileDeviceRow.deviceUuid

def HasFolder (store : Store) (folderId : Nat) : Prop := folderId ∈ store.folders.rows.map FolderRow.id

def bindings (store : Store) : List (Nat × String) := store.mobileFolders.rows.map fun row => (row.folderId,row.deviceUuid)

def sessionBindings (store : Store) : List (String × String × Nat) :=
  store.sessions.rows.map fun row => (row.sessionId,row.deviceUuid,row.folderId)

structure Referential (store : Store) : Prop where
  unique : ((bindings store).map Prod.snd).Nodup
  bindings : ∀ ids ∈ bindings store, HasDevice store ids.2 ∧ HasFolder store ids.1
  sessions : ∀ ids ∈ sessionBindings store, (ids.2.2,ids.2.1) ∈ ReferentialStore.bindings store
  assets : ∀ row ∈ store.assets.rows, HasDevice store row.deviceUuid

-- What a statement leaves of the devices and bindings of those it does not remove.
structure Spares (store next : Store) (gone : String → Prop) : Prop where
  device : ∀ deviceUuid, HasDevice store deviceUuid → ¬ gone deviceUuid → HasDevice next deviceUuid
  binding : ∀ ids ∈ bindings store, ¬ gone ids.2 → ids ∈ bindings next

def nobody (_ : String) : Prop := False

theorem binding_device {one two : Nat × String} (referential : Referential store) (mine : one ∈ bindings store)
    (other : two ∈ bindings store) (same : one.2 = two.2) : one = two :=
  List.inj_on_of_nodup_map referential.unique mine other same

theorem binding_folder {one two : Nat × String} (mine : one ∈ bindings store) (other : two ∈ bindings store)
    (same : one.1 = two.1) : one = two := by
  obtain ⟨row,member,rfl⟩ := List.mem_map.mp mine
  obtain ⟨row',member',rfl⟩ := List.mem_map.mp other
  have equal : row = row' := List.inj_on_of_nodup_map store.mobileFolders.distinct member member' same
  rw [equal]

theorem spares_refl : Spares store store nobody := ⟨fun _ has _ => has,fun _ member _ => member⟩

theorem spares_same (same : SameBindings store next) : Spares store next nobody := by
  refine ⟨?_,?_⟩
  · intro deviceUuid has _
    unfold HasDevice
    rw [same.devices]
    exact has
  · intro ids member _
    unfold bindings
    rw [same.mobileFolders]
    exact member

theorem referential_same (referential : Referential store) (same : SameBindings store next)
    (assets : ∀ row ∈ next.assets.rows, HasDevice store row.deviceUuid) : Referential next := by
  have bound : bindings next = bindings store := same.mobileFolders
  have device : ∀ deviceUuid, HasDevice next deviceUuid ↔ HasDevice store deviceUuid := by
    intro deviceUuid
    unfold HasDevice
    rw [same.devices]
  have folder : ∀ folderId, HasFolder next folderId ↔ HasFolder store folderId := by
    intro folderId
    unfold HasFolder
    rw [same.folders]
  refine ⟨bound ▸ referential.unique,?_,?_,?_⟩
  · rw [bound]
    intro ids member
    rw [device,folder]
    exact referential.bindings ids member
  · intro ids member
    rw [bound]
    unfold sessionBindings at member
    rw [same.sessions] at member
    exact referential.sessions ids member
  · intro row member
    rw [device]
    exact assets row member

theorem keys_upsert {Key Row : Type*} {key : Row → Key} [DecidableEq Key] {table : Table key} {row : Row} {merge : Row → Row}
    {same : ∀ row, key (merge row) = key row} (k : Key) :
    k ∈ (table.upsert row merge same).rows.map key ↔ k ∈ table.rows.map key ∨ k = key row := by
  have absent : (table.upsert row merge same).find? k = if key row = k then some ((table.find? k).elim row merge)
      else table.find? k := find_upsert k
  rw [← not_iff_not,not_or,← find_none,← find_none,absent]
  by_cases hit : key row = k
  · subst hit
    simp
  · simp [hit,Ne.symm hit]

theorem upsert_device {platform deviceName trustKeyB64 : String} {pairedAt : DateTime} {other : String} :
    HasDevice (upsertMobileDevice store deviceUuid platform deviceName trustKeyB64 pairedAt) other ↔
      HasDevice store other ∨ other = deviceUuid := keys_upsert other

theorem upsert_referential {platform deviceName trustKeyB64 : String} {pairedAt : DateTime} (referential : Referential store) :
    Referential (upsertMobileDevice store deviceUuid platform deviceName trustKeyB64 pairedAt) := by
  refine ⟨referential.unique,?_,referential.sessions,?_⟩
  · intro ids member
    obtain ⟨device,folder⟩ := referential.bindings ids member
    exact ⟨upsert_device.mpr (.inl device),folder⟩
  · intro row member
    exact upsert_device.mpr (.inl (referential.assets row member))

theorem upsert_spares {platform deviceName trustKeyB64 : String} {pairedAt : DateTime} :
    Spares store (upsertMobileDevice store deviceUuid platform deviceName trustKeyB64 pairedAt) nobody :=
  ⟨fun _ has _ => upsert_device.mpr (.inl has),fun _ member _ => member⟩

theorem stale_none (referential : Referential store) : dropStaleFolders store deviceUuid = store := by
  unfold dropStaleFolders
  have fresh : (store.mobileFolders.rows.filter fun row =>
      row.deviceUuid = deviceUuid && (store.folders.find? row.folderId).isNone) = [] := by
    refine List.filter_eq_nil_iff.mpr fun row member stale => ?_
    simp only [Bool.and_eq_true,Option.isNone_iff_eq_none] at stale
    have folder := (referential.bindings _ (List.mem_map_of_mem member)).2
    exact find_none.mp stale.2 folder
  rw [fresh]
  rfl

theorem bound_binding {folder : FolderRow} (bound : boundFolder store deviceUuid = some folder) :
    (folder.id,deviceUuid) ∈ bindings store := by
  obtain ⟨row,member,found⟩ := List.exists_of_findSome?_eq_some bound
  split at found
  · rename_i mine
    have same := (find_mem found).2
    exact List.mem_map.mpr ⟨row,member,by rw [same,mine]⟩
  · cases found

structure Grows (store next : Store) : Prop where
  folder : ∀ folderId, HasFolder store folderId → HasFolder next folderId
  devices : next.devices = store.devices
  mobileFolders : next.mobileFolders = store.mobileFolders
  sessions : next.sessions = store.sessions
  assets : next.assets = store.assets

theorem grows_refl : Grows store store := ⟨fun _ => id,rfl,rfl,rfl,rfl⟩

theorem grows_referential (referential : Referential store) (grows : Grows store next) : Referential next := by
  have bound : bindings next = bindings store := by
    unfold bindings
    rw [grows.mobileFolders]
  have device : ∀ deviceUuid, HasDevice store deviceUuid → HasDevice next deviceUuid := by
    intro deviceUuid has
    unfold HasDevice
    rw [grows.devices]
    exact has
  refine ⟨bound ▸ referential.unique,?_,?_,?_⟩
  · rw [bound]
    intro ids member
    exact ⟨device _ (referential.bindings ids member).1,grows.folder _ (referential.bindings ids member).2⟩
  · unfold sessionBindings
    rw [bound,grows.sessions]
    exact referential.sessions
  · rw [grows.assets]
    exact fun row member => device _ (referential.assets row member)

theorem grows_spares (grows : Grows store next) : Spares store next nobody := by
  refine ⟨?_,?_⟩
  · intro deviceUuid has _
    unfold HasDevice
    rw [grows.devices]
    exact has
  · intro ids member _
    unfold bindings
    rw [grows.mobileFolders]
    exact member

theorem insertFolder_grows {folderPath : String} : Grows store (insertFolder store folderPath).2 := by
  unfold insertFolder
  dsimp only
  split
  · exact grows_refl
  · exact ⟨fun folderId has => (keys_upsert folderId).mpr (.inl has),rfl,rfl,rfl,rfl⟩

theorem inserted_folder {folderPath : String} {folder : FolderRow}
    (found : (insertFolder store folderPath).1.or (getExactFolder (insertFolder store folderPath).2 folderPath) = some folder) :
    HasFolder (insertFolder store folderPath).2 folder.id := by
  rcases Option.or_eq_some_iff.mp found with inserted | ⟨-,exact⟩
  · unfold insertFolder at inserted ⊢
    dsimp only at inserted ⊢
    split at inserted
    · cases inserted
    · cases inserted
      exact (keys_upsert _).mpr (.inr rfl)
  · exact List.mem_map_of_mem (List.mem_of_find?_eq_some exact)

theorem bind_referential {folder : FolderRow} {mobileFolders : Table MobileFolderRow.folderId} {updatedAt : DateTime}
    (referential : Referential store) (device : HasDevice store deviceUuid) (there : HasFolder store folder.id)
    (unbound : (store.mobileFolders.rows.any fun row => row.deviceUuid = deviceUuid) = false)
    (inserted : store.mobileFolders.insert? ⟨folder.id,deviceUuid,.paired,updatedAt⟩ = some mobileFolders) :
    Referential {store with mobileFolders} ∧ Spares store {store with mobileFolders} nobody ∧
      (folder.id,deviceUuid) ∈ bindings {store with mobileFolders} := by
  have bound : bindings {store with mobileFolders} = bindings store ++ [(folder.id,deviceUuid)] := by
    unfold bindings
    rw [(insert_parts inserted).2,List.map_append]
    rfl
  refine ⟨⟨?_,?_,?_,referential.assets⟩,⟨fun _ has _ => has,?_⟩,?_⟩
  · rw [bound,List.map_append]
    refine List.Nodup.append referential.unique (List.nodup_singleton _) ?_
    intro other member mine
    cases List.mem_singleton.mp mine
    obtain ⟨ids,there,same⟩ := List.mem_map.mp member
    obtain ⟨row,member,rfl⟩ := List.mem_map.mp there
    exact List.any_eq_false.mp unbound row member (decide_eq_true same)
  · rw [bound]
    intro ids member
    rcases List.mem_append.mp member with old | new
    · exact referential.bindings ids old
    · cases List.mem_singleton.mp new
      exact ⟨device,there⟩
  · intro ids member
    rw [bound]
    exact List.mem_append_left _ (referential.sessions ids member)
  · intro ids member _
    rw [bound]
    exact List.mem_append_left _ member
  · rw [bound]
    exact List.mem_append_right _ (List.mem_singleton_self _)

-- What a call that binds a folder leaves: also when it raises.
structure Binds (store : Store) (deviceUuid : String) (gone : String → Prop) (result : Except Raised MobileFolderRecord × Store) :
    Prop where
  referential : Referential result.2
  spares : Spares store result.2 gone
  bound : ∀ record, result.1 = .ok record → (record.folderId,deviceUuid) ∈ bindings result.2

theorem bindFolder_binds {folderPath : String} {updatedAt : DateTime} (referential : Referential store)
    (device : HasDevice store deviceUuid) : Binds store deviceUuid nobody (bindFolder store folderPath deviceUuid updatedAt) := by
  have grows : Grows store (insertFolder store folderPath).2 := insertFolder_grows
  have after := grows_referential referential grows
  have failed : ∀ raised, Binds store deviceUuid nobody (.error raised,(insertFolder store folderPath).2) :=
    fun raised => ⟨after,grows_spares grows,nofun⟩
  unfold bindFolder
  dsimp only
  split
  · exact failed _
  · rename_i folder found
    split
    · exact failed _
    · rename_i unbound
      split
      · exact failed _
      · rename_i mobileFolders inserted
        have device' := (grows_spares grows).device deviceUuid device id
        obtain ⟨now,spares,bound⟩ := bind_referential after device' (inserted_folder found) (by simpa using unbound) inserted
        refine ⟨now,⟨?_,?_⟩,?_⟩
        · exact fun other has _ => spares.device other ((grows_spares grows).device other has id) id
        · exact fun ids member _ => spares.binding ids ((grows_spares grows).binding ids member id) id
        · rintro record ⟨⟩
          exact bound

theorem folder_binds {destinationParent deviceName : String} {updatedAt : DateTime} {directory : Directory}
    (referential : Referential store) (device : HasDevice store deviceUuid) :
    Binds store deviceUuid nobody
      (getOrCreateMobileFolder store destinationParent deviceUuid deviceName updatedAt directory) := by
  unfold getOrCreateMobileFolder
  rw [stale_none referential]
  dsimp only
  split
  · rename_i folder bound
    have same : SameBindings store {store with
        mobileFolders:=store.mobileFolders.modify (fun row => row.deviceUuid = deviceUuid)
          (fun row => {row with
            transferState:=.paired
            transferStateUpdatedAt:=updatedAt}) fun _ => rfl} := by
      refine ⟨rfl,rfl,columns_modify _ ?_ ?_,rfl⟩ <;> intro row <;> rfl
    refine ⟨referential_same referential same referential.assets,spares_same same,?_⟩
    rintro record ⟨⟩
    exact (spares_same same).binding _ (bound_binding bound) id
  · split
    · exact ⟨referential,spares_refl,nofun⟩
    · exact bindFolder_binds referential device

theorem insert_referential {sessionId : String} {folderId : Nat} {status : SessionStatus} {startedAt pairedAt : DateTime}
    (referential : Referential store) (bound : (folderId,deviceUuid) ∈ bindings store)
    (inserted : insertMobileBackupSession store sessionId deviceUuid folderId status startedAt pairedAt = some next) :
    Referential next ∧ Spares store next nobody := by
  obtain ⟨sessions,added,rfl⟩ := Option.map_eq_some_iff.mp inserted
  refine ⟨⟨referential.unique,referential.bindings,?_,referential.assets⟩,⟨fun _ has _ => has,fun _ member _ => member⟩⟩
  intro ids member
  unfold sessionBindings at member
  rw [(insert_parts added).2,List.map_append] at member
  rcases List.mem_append.mp member with old | new
  · exact referential.sessions ids old
  · cases List.mem_singleton.mp new
    exact bound

-- The rows of the previous device become the replacement's, nobody else's.
theorem moved_assets {previous replacement : String} {row : AssetRow}
    (member : row ∈ (moveAssets store previous replacement).assets.rows) :
    row.deviceUuid = replacement ∨ (row ∈ store.assets.rows ∧ row.deviceUuid ≠ previous) := by
  have moves : ∀ (rows : List AssetRow) (start : Store), row ∈ (rows.foldl (fun store row =>
      upsertMobileAssetRecord store {row with deviceUuid:=replacement}) start).assets.rows →
      row.deviceUuid = replacement ∨ row ∈ start.assets.rows := by
    intro rows
    induction rows with
    | nil => exact fun start member => .inr member
    | cons head rest ih =>
        intro start member
        rcases ih _ member with mine | before
        · exact .inl mine
        · rcases mem_upsert before with rfl | ⟨old,-⟩ | ⟨old,-,same,rfl⟩
          · exact .inl rfl
          · exact .inr old
          · have device : old.deviceUuid = replacement := congrArg Prod.fst same
            exact .inl device
  unfold moveAssets at member
  obtain ⟨there,kept⟩ := mem_delete.mp member
  rcases moves _ _ there with mine | old
  · exact .inl mine
  · exact .inr ⟨old,by simpa using kept⟩

theorem moved_tables {previous replacement : String} :
    (moveAssets store previous replacement).devices = store.devices ∧
    (moveAssets store previous replacement).folders = store.folders ∧
    (moveAssets store previous replacement).mobileFolders = store.mobileFolders ∧
    (moveAssets store previous replacement).sessions = store.sessions := by
  have moves : ∀ (rows : List AssetRow) (start : Store), let moved := rows.foldl (fun store row =>
        upsertMobileAssetRecord store {row with deviceUuid:=replacement}) start
      moved.devices = start.devices ∧ moved.folders = start.folders ∧ moved.mobileFolders = start.mobileFolders ∧
        moved.sessions = start.sessions := by
    intro rows
    induction rows with
    | nil => exact fun _ => ⟨rfl,rfl,rfl,rfl⟩
    | cons head rest ih => exact fun start => ih _
  exact moves _ store

theorem session_moved (replacement : String) (folderId : Nat) (row : BackupSessionRow) :
    {row with deviceUuid:=replacement,folderId:=folderId}.sessionId = row.sessionId := rfl

def repaired (store : Store) (folderId : Nat) (previous replacement : String) (updatedAt : DateTime) : Store :=
  let moved := moveAssets store previous replacement
  {moved with
    mobileFolders:=moved.mobileFolders.modify (fun row => row.folderId = folderId)
      (fun row => {row with
        deviceUuid:=replacement
        transferState:=.paired
        transferStateUpdatedAt:=updatedAt}) fun _ => rfl
    sessions:=moved.sessions.modify (fun row => row.deviceUuid = previous)
      (fun row => {row with
        deviceUuid:=replacement
        folderId:=folderId}) (session_moved replacement folderId)
    devices:=moved.devices.delete fun row => row.deviceUuid = previous}

def repairRefused (store : Store) (folderId : Nat) (replacement : String) : Bool :=
  (conflictingFolder store replacement).any fun row => row.folderId ≠ folderId

theorem repair_parts {folderId : Nat} {folderPath previous replacement : String} {updatedAt : DateTime}
    (different : previous ≠ replacement) :
    (repairRefused store folderId replacement = true ∧
      ∃ raised, repairMobileFolderDeviceBinding store folderId folderPath previous replacement updatedAt = (.error raised,store)) ∨
    (repairRefused store folderId replacement = false ∧
      repairMobileFolderDeviceBinding store folderId folderPath previous replacement updatedAt =
        (.ok ⟨folderId,folderPath,true⟩,repaired store folderId previous replacement updatedAt)) := by
  unfold repairMobileFolderDeviceBinding
  simp only [if_neg different]
  split
  · rename_i refused
    exact .inl ⟨refused,_,rfl⟩
  · rename_i accepted
    exact .inr ⟨by simpa [repairRefused] using accepted,rfl⟩

section Repair
variable {folderId : Nat} {previous replacement : String} {updatedAt : DateTime}

theorem repaired_bindings : bindings (repaired store folderId previous replacement updatedAt) =
    (bindings store).map fun ids => if ids.1 = folderId then (ids.1,replacement) else ids := by
  unfold bindings repaired
  dsimp only [Table.modify]
  rw [moved_tables.2.2.1,List.map_map,List.map_map]
  refine List.map_congr_left fun row _ => ?_
  by_cases hit : row.folderId = folderId <;> simp [hit]

theorem mem_repaired {ids : Nat × String} (bound : (folderId,previous) ∈ bindings store) :
    ids ∈ bindings (repaired store folderId previous replacement updatedAt) ↔
      ids = (folderId,replacement) ∨ (ids ∈ bindings store ∧ ids.1 ≠ folderId) := by
  rw [repaired_bindings,List.mem_map]
  constructor
  · rintro ⟨old,member,rfl⟩
    by_cases hit : old.1 = folderId
    · exact .inl (by simp [hit])
    · exact .inr (by simp [hit,member])
  · rintro (rfl | ⟨member,other⟩)
    · exact ⟨(folderId,previous),bound,by simp⟩
    · exact ⟨ids,member,by simp [other]⟩

-- Who has the folder is the previous device, and nobody else is.
theorem folder_previous {ids : Nat × String} (referential : Referential store) (bound : (folderId,previous) ∈ bindings store)
    (member : ids ∈ bindings store) : ids.1 = folderId ↔ ids.2 = previous := by
  constructor
  · intro same
    rw [binding_folder member bound same]
  · intro same
    rw [binding_device referential member bound same]

theorem replacement_unbound (different : previous ≠ replacement) (bound : (folderId,previous) ∈ bindings store)
    (accepted : repairRefused store folderId replacement = false) : ∀ ids ∈ bindings store, ids.2 ≠ replacement := by
  rintro ids member rfl
  obtain ⟨row,there,rfl⟩ := List.mem_map.mp member
  cases found : conflictingFolder store row.deviceUuid with
  | none =>
      have absent := List.find?_eq_none.mp found row there
      simp at absent
  | some holder =>
      have here : holder ∈ store.mobileFolders.rows := List.mem_of_find?_eq_some found
      have device : holder.deviceUuid = row.deviceUuid := by simpa using List.find?_some found
      have folder : holder.folderId = folderId := by simpa [repairRefused,found] using accepted
      have same := binding_folder (List.mem_map_of_mem here) bound folder
      exact different ((Prod.mk.inj same).2.symm.trans device)

theorem repaired_device {deviceUuid : String} : HasDevice (repaired store folderId previous replacement updatedAt) deviceUuid ↔
    HasDevice store deviceUuid ∧ deviceUuid ≠ previous := by
  unfold HasDevice repaired
  dsimp only
  rw [moved_tables.1]
  simp only [List.mem_map,mem_delete,decide_eq_false_iff_not]
  constructor
  · rintro ⟨row,⟨member,other⟩,rfl⟩
    exact ⟨⟨row,member,rfl⟩,other⟩
  · rintro ⟨⟨row,member,rfl⟩,other⟩
    exact ⟨row,⟨member,other⟩,rfl⟩

theorem repaired_unique (referential : Referential store) (different : previous ≠ replacement)
    (bound : (folderId,previous) ∈ bindings store) (accepted : repairRefused store folderId replacement = false) :
    ((bindings (repaired store folderId previous replacement updatedAt)).map Prod.snd).Nodup := by
  have devices : (bindings (repaired store folderId previous replacement updatedAt)).map Prod.snd =
      ((bindings store).map Prod.snd).map fun deviceUuid => if deviceUuid = previous then replacement else deviceUuid := by
    rw [repaired_bindings,List.map_map,List.map_map]
    refine List.map_congr_left fun ids member => ?_
    have same := folder_previous referential bound member
    by_cases hit : ids.2 = previous <;> simp [hit,same]
  rw [devices]
  refine List.Nodup.map_on ?_ referential.unique
  intro one member two member' equal
  obtain ⟨ids,there,rfl⟩ := List.mem_map.mp member
  obtain ⟨ids',there',rfl⟩ := List.mem_map.mp member'
  have free := replacement_unbound different bound accepted
  by_cases hit : ids.2 = previous <;> by_cases hit' : ids'.2 = previous
  · exact hit.trans hit'.symm
  · simp only [hit,hit',if_true,if_false] at equal
    exact absurd equal.symm (free ids' there')
  · simp only [hit,hit',if_true,if_false] at equal
    exact absurd equal (free ids there)
  · simpa [hit,hit'] using equal

theorem repaired_referential (referential : Referential store) (device : HasDevice store replacement)
    (different : previous ≠ replacement) (bound : (folderId,previous) ∈ bindings store)
    (accepted : repairRefused store folderId replacement = false) :
    Referential (repaired store folderId previous replacement updatedAt) := by
  have folder : ∀ folderId', HasFolder (repaired store folderId previous replacement updatedAt) folderId' ↔
      HasFolder store folderId' := by
    intro folderId'
    unfold HasFolder repaired
    rw [moved_tables.2.1]
  refine ⟨repaired_unique referential different bound accepted,?_,?_,?_⟩
  · intro ids member
    rw [folder,repaired_device]
    rcases (mem_repaired bound).mp member with rfl | ⟨old,other⟩
    · exact ⟨⟨device,Ne.symm different⟩,(referential.bindings _ bound).2⟩
    · obtain ⟨has,there⟩ := referential.bindings ids old
      exact ⟨⟨has,fun same => other ((folder_previous referential bound old).mpr same)⟩,there⟩
  · intro ids member
    obtain ⟨row,there,rfl⟩ := List.mem_map.mp member
    simp only [repaired,mem_modify,moved_tables.2.2.2] at there
    obtain ⟨old,before,rfl⟩ := there
    have kept := referential.sessions _ (List.mem_map_of_mem before)
    rw [mem_repaired bound]
    by_cases mine : old.deviceUuid = previous
    · exact .inl (by simp [mine])
    · refine .inr ?_
      simp only [mine,decide_false,Bool.false_eq_true,if_false]
      exact ⟨kept,fun same => mine ((folder_previous referential bound kept).mp same)⟩
  · intro row member
    rw [repaired_device]
    rcases moved_assets member with mine | ⟨old,other⟩
    · exact ⟨mine ▸ device,fun same => different (same.symm.trans mine)⟩
    · exact ⟨referential.assets row old,other⟩

theorem repair_binds {folderPath : String} (referential : Referential store) (device : HasDevice store replacement)
    (different : previous ≠ replacement)
    (safe : repairRefused store folderId replacement = true ∨ (folderId,previous) ∈ bindings store) :
    Binds store replacement (fun deviceUuid => repairRefused store folderId replacement = false ∧ deviceUuid = previous)
      (repairMobileFolderDeviceBinding store folderId folderPath previous replacement updatedAt) := by
  rcases repair_parts different with ⟨-,raised,same⟩ | ⟨accepted,same⟩
  · rw [same]
    exact ⟨referential,⟨fun _ has _ => has,fun _ member _ => member⟩,nofun⟩
  · rw [same]
    have bound : (folderId,previous) ∈ bindings store := by
      rcases safe with refused | bound
      · cases accepted.symm.trans refused
      · exact bound
    refine ⟨repaired_referential referential device different bound accepted,⟨?_,?_⟩,?_⟩
    · exact fun other has spared => repaired_device.mpr ⟨has,fun mine => spared ⟨accepted,mine⟩⟩
    · intro ids member spared
      refine (mem_repaired bound).mpr (.inr ⟨member,fun mine => spared ⟨accepted,?_⟩⟩)
      exact (folder_previous referential bound member).mp mine
    · rintro record ⟨⟩
      exact (mem_repaired bound).mpr (.inl rfl)

end Repair

def deletedDevice (store : Store) (folderIds : List Nat) (deviceUuid : String) : Bool :=
  store.mobileFolders.rows.any fun row => row.folderId ∈ folderIds && row.deviceUuid = deviceUuid

theorem deleted_device {folderIds : List Nat} :
    deletedDevice store folderIds deviceUuid = true ↔ ∃ ids ∈ bindings store, ids.1 ∈ folderIds ∧ ids.2 = deviceUuid := by
  unfold deletedDevice bindings
  simp only [List.any_eq_true,Bool.and_eq_true,decide_eq_true_eq,List.mem_map]
  constructor
  · rintro ⟨row,member,deleted,same⟩
    exact ⟨_,⟨row,member,rfl⟩,deleted,same⟩
  · rintro ⟨_,⟨row,member,rfl⟩,deleted,same⟩
    exact ⟨row,member,deleted,same⟩

-- The text is the device of a deleted folder, so its rows go; the empty text is none.
theorem delete_listed {folderIds : List Nat} : deviceUuid ∈ ((store.mobileFolders.rows.filter fun row =>
      row.folderId ∈ folderIds).map MobileFolderRow.deviceUuid).filter (fun deviceUuid => deviceUuid ≠ "") ↔
    deletedDevice store folderIds deviceUuid = true ∧ deviceUuid ≠ "" := by
  simp only [deletedDevice,List.mem_filter,List.mem_map,List.any_eq_true,Bool.and_eq_true,decide_eq_true_eq]
  constructor
  · rintro ⟨⟨row,⟨member,deleted⟩,same⟩,there⟩
    exact ⟨⟨row,member,deleted,same⟩,there⟩
  · rintro ⟨⟨row,member,deleted,same⟩,there⟩
    exact ⟨⟨row,⟨member,deleted⟩,same⟩,there⟩

structure Deletes (store next : Store) (folderIds : List Nat) : Prop where
  folders : next.folders = store.folders
  devices : ∀ deviceUuid, HasDevice next deviceUuid ↔
    HasDevice store deviceUuid ∧ ¬ (deletedDevice store folderIds deviceUuid = true ∧ deviceUuid ≠ "")
  bindings : ∀ ids, ids ∈ bindings next ↔ ids ∈ ReferentialStore.bindings store ∧ ids.1 ∉ folderIds ∧
    ¬ (deletedDevice store folderIds ids.2 = true ∧ ids.2 ≠ "")
  sublist : List.Sublist (ReferentialStore.bindings next) (ReferentialStore.bindings store)
  sessions : ∀ ids ∈ sessionBindings next, ids ∈ sessionBindings store ∧ ids.2.2 ∉ folderIds ∧
    ¬ (deletedDevice store folderIds ids.2.1 = true ∧ ids.2.1 ≠ "")
  assets : ∀ row ∈ next.assets.rows, row ∈ store.assets.rows ∧
    ¬ (deletedDevice store folderIds row.deviceUuid = true ∧ row.deviceUuid ≠ "")

theorem delete_data {folderIds : List Nat} : Deletes store (deleteMobileDeviceDataForFolderIds store folderIds) folderIds := by
  unfold deleteMobileDeviceDataForFolderIds
  refine ⟨rfl,?_,?_,List.filter_sublist.map _,?_,?_⟩
  · intro deviceUuid
    unfold HasDevice
    simp only [List.mem_map,mem_delete,decide_eq_false_iff_not]
    constructor
    · rintro ⟨row,⟨member,kept⟩,rfl⟩
      exact ⟨⟨row,member,rfl⟩,fun gone => kept (delete_listed.mpr gone)⟩
    · rintro ⟨⟨row,member,rfl⟩,kept⟩
      exact ⟨row,⟨member,fun gone => kept (delete_listed.mp gone)⟩,rfl⟩
  · intro ids
    unfold bindings
    simp only [List.mem_map,mem_delete,Bool.or_eq_false_iff,decide_eq_false_iff_not]
    constructor
    · rintro ⟨row,⟨member,folder,kept⟩,rfl⟩
      exact ⟨⟨row,member,rfl⟩,folder,fun gone => kept (delete_listed.mpr gone)⟩
    · rintro ⟨⟨row,member,rfl⟩,folder,kept⟩
      exact ⟨row,⟨member,folder,fun gone => kept (delete_listed.mp gone)⟩,rfl⟩
  · intro ids member
    obtain ⟨row,there,rfl⟩ := List.mem_map.mp member
    obtain ⟨before,kept⟩ := mem_delete.mp there
    simp only [Bool.or_eq_false_iff,decide_eq_false_iff_not] at kept
    exact ⟨List.mem_map_of_mem before,kept.1,fun gone => kept.2 (delete_listed.mpr gone)⟩
  · intro row member
    obtain ⟨before,kept⟩ := mem_delete.mp member
    simp only [decide_eq_false_iff_not] at kept
    exact ⟨before,fun gone => kept (delete_listed.mpr gone)⟩

theorem deletes_none : Deletes store store [] := by
  have none_ : ∀ deviceUuid, ¬ (deletedDevice store [] deviceUuid = true ∧ deviceUuid ≠ "") := by
    rintro deviceUuid ⟨deleted,-⟩
    simp [deletedDevice] at deleted
  refine ⟨rfl,fun other => ?_,fun ids => ?_,List.Sublist.refl _,fun ids member => ?_,fun row member => ?_⟩
  · exact ⟨fun has => ⟨has,none_ other⟩,And.left⟩
  · exact ⟨fun member => ⟨member,List.not_mem_nil,none_ _⟩,And.left⟩
  · exact ⟨member,List.not_mem_nil,none_ _⟩
  · exact ⟨member,none_ _⟩

theorem delete_parts (store : Store) (folderPaths : List String) :
    ∃ emptied, Deletes store emptied (deletedFolderIds store folderPaths) ∧ deleteFolders store folderPaths =
      {emptied with folders:=store.folders.delete fun row => row.path ∈ folderPaths.flatMap folderPathVariants} := by
  unfold deleteFolders
  dsimp only
  split
  · rename_i nothing
    rw [nothing]
    exact ⟨store,deletes_none,rfl⟩
  · exact ⟨_,delete_data,by rw [delete_data.folders]⟩

theorem delete_referential (folderPaths : List String) (referential : Referential store) :
    Referential (deleteFolders store folderPaths) ∧
      Spares store (deleteFolders store folderPaths) fun deviceUuid =>
        deletedDevice store (deletedFolderIds store folderPaths) deviceUuid = true := by
  obtain ⟨emptied,deletes,same⟩ := delete_parts store folderPaths
  rw [same]
  refine ⟨⟨?_,?_,?_,?_⟩,?_,?_⟩
  · exact (deletes.sublist.map Prod.snd).nodup referential.unique
  · intro ids member
    obtain ⟨before,folder,spared⟩ := (deletes.bindings ids).mp member
    obtain ⟨device,there⟩ := referential.bindings ids before
    refine ⟨(deletes.devices ids.2).mpr ⟨device,spared⟩,?_⟩
    obtain ⟨row,present,id⟩ := List.mem_map.mp there
    refine List.mem_map.mpr ⟨row,mem_delete.mpr ⟨present,decide_eq_false fun named => folder ?_⟩,id⟩
    exact List.mem_map.mpr ⟨row,List.mem_filter.mpr ⟨present,decide_eq_true named⟩,id⟩
  · intro ids member
    obtain ⟨before,folder,spared⟩ := deletes.sessions ids member
    exact (deletes.bindings _).mpr ⟨referential.sessions ids before,folder,spared⟩
  · intro row member
    obtain ⟨before,spared⟩ := deletes.assets row member
    exact (deletes.devices row.deviceUuid).mpr ⟨referential.assets row before,spared⟩
  · exact fun deviceUuid has spared => (deletes.devices deviceUuid).mpr ⟨has,fun gone => spared gone.1⟩
  · intro ids member spared
    refine (deletes.bindings ids).mpr ⟨member,fun folder => spared ?_,fun gone => spared gone.1⟩
    exact deleted_device.mpr ⟨ids,member,folder,rfl⟩

end ImageSearch.ReferentialStore
