import ImageSearch.SubtreeFrames
import ImageSearch.Transitions

namespace ImageSearch.FolderDirectories
open Payload Tables MobileStore PairingStore ReferentialStore FileCatalog FolderEvents FolderPaths Transitions
  Subtrees SubtreeFrames

variable {store next : Store}

def folderTable (store : Store) : Catalog where
  folders := ⟨store.folders.rows.map fun row => ⟨row.id,row.path,.scanning⟩,by
    rw [List.map_map]
    exact store.folders.distinct⟩
  nextFolderId := store.nextFolderId
  files := .empty
  nextFileId := 0

def registeredPath (store : Store) (folderPath : String) : Option String :=
  let path := forwardSlashes (normalizedFolderPath folderPath)
  match matchParentFolder (folderTable store) path with
  | some parent => if isSameFolderPath parent.path path then some path else none
  | none => some path

def registerFolder (store : Store) (folderPath : String) : Store :=
  match registeredPath store folderPath with
  | some path => (PairingStore.insertFolder store path).2
  | none => store

-- The path that a phone without a folder is given, unless its directory cannot be made.
def pairedPath (store : Store) (destinationParent deviceUuid deviceName : String) (directory : Directory) : Option String :=
  let store := dropStaleFolders store deviceUuid
  if (boundFolder store deviceUuid).isSome || directory.refused.isSome then none
  else some (mobileFolderPath store destinationParent deviceUuid deviceName directory)

inductive FolderOperation where
  | register (folderPath : String)
  | pair (destinationParent deviceUuid deviceName : String) (updatedAt : DateTime) (directory : Directory)
  | repair (folderId : Nat) (folderPath previousDeviceUuid replacementDeviceUuid : String) (updatedAt : DateTime)
  | delete (folderPaths : List String)

def folderSystem : System Store FolderOperation where
  step store
    | .register folderPath => some (registerFolder store folderPath)
    | .pair destinationParent deviceUuid deviceName updatedAt directory =>
      some (getOrCreateMobileFolder store destinationParent deviceUuid deviceName updatedAt directory).2
    | .repair folderId folderPath previousDeviceUuid replacementDeviceUuid updatedAt =>
      some (repairMobileFolderDeviceBinding store folderId folderPath previousDeviceUuid replacementDeviceUuid updatedAt).2
    | .delete folderPaths => some (ReferentialStore.deleteFolders store folderPaths)

def insertedPath (store : Store) : FolderOperation → Option String
  | .register folderPath => registeredPath store folderPath
  | .pair destinationParent deviceUuid deviceName _ directory =>
    pairedPath store destinationParent deviceUuid deviceName directory
  | .repair .. => none
  | .delete _ => none

-- Two paths that differ in their slashes only, as far as these are told apart, denote one
-- directory.
def OneRow (store : Store) : Prop :=
  ∀ one ∈ store.folders.rows, ∀ two ∈ store.folders.rows, place one.path = place two.path → one = two

def Unspelt (store : Store) (operation : FolderOperation) : Prop :=
  ∀ path ∈ insertedPath store operation, ∀ row ∈ store.folders.rows, place row.path = place path →
    row.path = forwardSlashes path

def Adds (store next : Store) (added : Option String) : Prop :=
  ∀ row ∈ next.folders.rows, row ∈ store.folders.rows ∨
    ∃ path ∈ added, row = ⟨store.nextFolderId,forwardSlashes path⟩ ∧ ∀ old ∈ store.folders.rows, old.path ≠ forwardSlashes path

theorem adds_same (same : next.folders = store.folders) {added : Option String} : Adds store next added := by
  intro row member
  rw [same] at member
  exact .inl member

theorem insert_adds (path : String) : Adds store (PairingStore.insertFolder store path).2 (some path) := by
  intro row member
  unfold PairingStore.insertFolder at member
  dsimp only at member
  split at member
  · exact .inl member
  · rename_i absent
    rcases mem_upsert member with rfl | ⟨old,-⟩ | ⟨old,there,-,rfl⟩
    · right
      refine ⟨path,rfl,rfl,?_⟩
      intro old there same
      have unlike := List.find?_eq_none.mp absent old there
      exact unlike (decide_eq_true same)
    · exact .inl old
    · exact .inl there

theorem register_adds (folderPath : String) : Adds store (registerFolder store folderPath) (registeredPath store folderPath) := by
  unfold registerFolder
  cases registeredPath store folderPath with
  | some path => exact insert_adds path
  | none => exact adds_same rfl

theorem stale_folders {deviceUuid : String} : (dropStaleFolders store deviceUuid).folders = store.folders ∧
    (dropStaleFolders store deviceUuid).nextFolderId = store.nextFolderId := by
  unfold dropStaleFolders
  dsimp only
  split <;> exact ⟨rfl,rfl⟩

theorem bind_folders {folderPath deviceUuid : String} {updatedAt : DateTime} :
    (bindFolder store folderPath deviceUuid updatedAt).2.folders = (PairingStore.insertFolder store folderPath).2.folders := by
  unfold bindFolder
  dsimp only
  split
  · rfl
  · split
    · rfl
    · split <;> rfl

theorem pair_adds {destinationParent deviceUuid deviceName : String} {updatedAt : DateTime} {directory : Directory} :
    Adds store (getOrCreateMobileFolder store destinationParent deviceUuid deviceName updatedAt directory).2
      (pairedPath store destinationParent deviceUuid deviceName directory) := by
  obtain ⟨same,next⟩ := @stale_folders store deviceUuid
  unfold getOrCreateMobileFolder pairedPath
  dsimp only
  split
  · exact adds_same same
  · rename_i unbound
    split
    · exact adds_same same
    · rename_i accepted
      rw [unbound,accepted]
      intro row member
      rw [bind_folders] at member
      have added := insert_adds _ row member
      rw [same,next] at added
      exact added

theorem repair_folders {folderId : Nat} {folderPath previous replacement : String} {updatedAt : DateTime} :
    (repairMobileFolderDeviceBinding store folderId folderPath previous replacement updatedAt).2.folders = store.folders := by
  unfold repairMobileFolderDeviceBinding
  dsimp only
  split
  · rfl
  · split
    · rfl
    · exact moved_tables.2.1

theorem operation_adds {operation : FolderOperation} (taken : folderSystem.step store operation = some next) :
    Adds store next (insertedPath store operation) := by
  cases operation with
  | register folderPath =>
      cases taken
      exact register_adds folderPath
  | pair destinationParent deviceUuid deviceName updatedAt directory =>
      cases taken
      exact pair_adds
  | repair folderId folderPath previous replacement updatedAt =>
      cases taken
      exact adds_same repair_folders
  | delete folderPaths =>
      cases taken
      intro row member
      rw [deleted_folders] at member
      exact .inl (mem_delete.mp member).1

theorem place_forward (path : String) : place (forwardSlashes path) = place path := by
  unfold place
  have same : (forwardSlashes (forwardSlashes path)).toList = (forwardSlashes path).toList := by
    rw [forwardSlashes,String.toList_ofList]
    exact slashes_unix (forward_plain path)
  rw [same]

theorem one_row_adds {added : Option String} (adds : Adds store next added) (one : OneRow store)
    (unspelt : ∀ path ∈ added, ∀ row ∈ store.folders.rows, place row.path = place path → row.path = forwardSlashes path) :
    OneRow next := by
  have apart : ∀ path ∈ added, (∀ old ∈ store.folders.rows, old.path ≠ forwardSlashes path) →
      ∀ row ∈ store.folders.rows, place row.path ≠ place (forwardSlashes path) := by
    intro path mine absent row member same
    exact absent row member (unspelt path mine row member (same.trans (place_forward path)))
  intro first member second member' same
  rcases adds first member with old | ⟨path,mine,rfl,absent⟩
  · rcases adds second member' with old' | ⟨path,mine,rfl,absent⟩
    · exact one first old second old' same
    · exact absurd same (apart path mine absent first old)
  · rcases adds second member' with old' | ⟨path',mine',rfl,-⟩
    · exact absurd same.symm (apart path mine absent second old')
    · rw [Option.mem_unique mine mine']

-- A run in which no directory is inserted under its other spelling registers none twice.
theorem one_directory_one_row {start s : Store} (path : Reaches folderSystem Unspelt start s) (one : OneRow start) : OneRow s :=
  reaches_preserves (fun _ _ _ before unspelt taken => one_row_adds (operation_adds taken) before unspelt) one path

def emptyStore : Store := ⟨.empty,1,.empty,.empty,.empty,.empty⟩

def phonePaired : FolderOperation := .pair "/photos" "uuid" "Phone" 0 ⟨id,none⟩

theorem empty_one : OneRow emptyStore := fun _ member => absurd member List.not_mem_nil

instance (store : Store) (operation : FolderOperation) : Decidable (Unspelt store operation) :=
  inferInstanceAs (Decidable (∀ path ∈ insertedPath store operation, ∀ row ∈ store.folders.rows, place row.path = place path →
    row.path = forwardSlashes path))

theorem other_directories_one_row : ∃ s, Reaches folderSystem Unspelt emptyStore s ∧ s.folders.rows.length = 2 ∧ OneRow s := by
  obtain ⟨s,path,seen⟩ := checkedRun_exhibits folderSystem Unspelt emptyStore
    [phonePaired,.register "/photos/Other",.register "/photos/Other/"] (fun s => s.folders.rows.length = 2) (by decide +kernel)
  exact ⟨s,path,of_decide_eq_true seen,one_directory_one_row path empty_one⟩

-- The folder of a phone has no closing slash, and the UI's has one: the UNIQUE path does not
-- tell that they are the same.
theorem paired_folder_registered_again : ¬ ∀ s, Reachable folderSystem emptyStore s → OneRow s := by
  intro all
  obtain ⟨s,path,seen⟩ := checkedRun_exhibits folderSystem (fun _ _ => True) emptyStore
    [phonePaired,.register "/photos/Phone"] (fun s => s.folders.rows = [⟨1,"/photos/Phone"⟩,⟨2,"/photos/Phone/"⟩])
    (by decide +kernel)
  have one := all s path
  unfold OneRow at one
  rw [of_decide_eq_true seen] at one
  have same := one ⟨1,"/photos/Phone"⟩ (by simp) ⟨2,"/photos/Phone/"⟩ (by simp) (by decide +kernel)
  exact absurd same (by decide)

section Registrations
variable (fresh : ∀ row ∈ store.folders.rows, row.id < store.nextFolderId)
include fresh

theorem insert_places (path : String) : places (FolderEvents.insertFolder (folderTable store) path) =
    places (folderTable (PairingStore.insertFolder store path).2) := by
  have unused : store.nextFolderId ∉ store.folders.rows.map FolderRow.id := by
    intro used
    obtain ⟨row,member,same⟩ := List.mem_map.mp used
    exact absurd (fresh row member) (by omega)
  have unused' : (folderTable store).nextFolderId ∉ (folderTable store).folders.rows.map Folder.id := by
    unfold folderTable
    rw [List.map_map]
    exact unused
  unfold FolderEvents.insertFolder PairingStore.insertFolder
  dsimp only
  cases found : getExactFolder store (String.ofList (path.toList.map fun c => if c = '\\' then '/' else c)) with
  | some row =>
      have there : ((folderTable store).folders.rows.any fun folder => folder.path = forwardSlashes path) = true := by
        have same := @List.find?_some _ (fun row : FolderRow => decide (row.path = forwardSlashes path)) _ _ found
        refine List.any_eq_true.mpr ⟨⟨row.id,row.path,.scanning⟩,?_,same⟩
        exact List.mem_map.mpr ⟨row,List.mem_of_find?_eq_some found,rfl⟩
      rw [if_pos there]
  | none =>
      have absent : ¬ ((folderTable store).folders.rows.any fun folder => folder.path = forwardSlashes path) = true := by
        intro there
        obtain ⟨folder,member,same⟩ := List.any_eq_true.mp there
        obtain ⟨row,listed,rfl⟩ := List.mem_map.mp member
        exact List.find?_eq_none.mp found row listed same
      rw [if_neg absent]
      have rows : (store.folders.upsert ⟨store.nextFolderId,forwardSlashes path⟩ id fun _ => rfl).rows =
          store.folders.rows ++ [⟨store.nextFolderId,forwardSlashes path⟩] := upsert_fresh unused
      have rows' : ((folderTable store).folders.upsert ⟨store.nextFolderId,forwardSlashes path,.scanning⟩ id fun _ => rfl).rows =
          (folderTable store).folders.rows ++ [⟨store.nextFolderId,forwardSlashes path,.scanning⟩] := upsert_fresh unused'
      refine (congrArg (List.map fun folder : Folder => (folder.id,folder.path)) rows').trans ?_
      refine Eq.trans ?_ (congrArg (fun rows => (rows.map fun row : FolderRow =>
        (⟨row.id,row.path,.scanning⟩ : Folder)).map fun folder => (folder.id,folder.path)) rows).symm
      rw [List.map_append,List.map_append,List.map_append]
      rfl

-- What the UI registers is what the other model of the folders has.
theorem register_places (folderPath : String) :
    places (FolderEvents.registerFolder (folderTable store) folderPath) =
      places (folderTable (registerFolder store folderPath)) := by
  unfold FolderEvents.registerFolder registerFolder registeredPath
  dsimp only
  cases matchParentFolder (folderTable store) (forwardSlashes (normalizedFolderPath folderPath)) with
  | some parent =>
      dsimp only
      cases isSameFolderPath parent.path (forwardSlashes (normalizedFolderPath folderPath)) with
      | true => exact insert_places fresh _
      | false => rfl
  | none => exact insert_places fresh _

end Registrations

end ImageSearch.FolderDirectories
