import ImageSearch.OwnedFiles
import ImageSearch.Subtrees

namespace ImageSearch.SubtreeFrames
open Tables MobileStore ReferentialStore FileCatalog IndexCalls FolderEvents FolderPaths OwnedFiles Subtrees

variable {Vector : Type*}

-- The whole database with the index files. The folders are one table, of which either part
-- has columns, and a device has one folder at most.
structure Records (Vector : Type*) where
  library : PhotoLibrary Vector
  store : Store
  folders : (store.folders.rows.map fun row => (row.id,row.path)) = places library.catalog
  devices : ((bindings store).map Prod.snd).Nodup

section Places
variable {path other row variant : String}

theorem place_normalized (path : String) : place (normalizedFolderPath path) = place path := by
  unfold place normalizedFolderPath
  split
  · rfl
  · rw [show (forwardSlashes (path ++ "/")).toList = (forwardSlashes path).toList ++ ['/'] by
      unfold forwardSlashes
      rw [String.toList_ofList,String.toList_ofList,String.toList_append,List.map_append]
      rfl]
    exact List.rdropWhile_concat_pos (fun c => decide (c = '/')) _ _ (decide_eq_true rfl)

theorem forward_plain (path : String) : '\\' ∉ (forwardSlashes path).toList := by
  unfold forwardSlashes
  rw [String.toList_ofList,List.mem_map]
  rintro ⟨c,-,same⟩
  split at same
  · exact absurd same (by decide)
  · rename_i other
    exact other same

theorem place_plain (path : String) : '\\' ∉ place path := by
  obtain ⟨k,whole⟩ := rstrip_slashes (forwardSlashes path).toList
  intro inside
  apply forward_plain path
  rw [whole]
  exact List.mem_append_left _ inside

theorem opening_plain (path : String) : '\\' ∉ opening path := by
  intro inside
  rcases List.mem_append.mp inside with before | slash
  · exact place_plain path before
  · exact absurd slash (by decide)

theorem place_again (path : String) : place (String.ofList (place path)) = place path := by
  have same : (forwardSlashes (String.ofList (place path))).toList = place path := by
    unfold forwardSlashes
    rw [String.toList_ofList,String.toList_ofList]
    exact slashes_unix (place_plain path)
  rw [place,same]
  exact rstrip_open place_open

theorem place_opening (path : String) : place (String.ofList (opening path)) = place path := by
  have normal : String.ofList (opening path) = normalizedFolderPath (String.ofList (place path)) := by
    unfold normalizedFolderPath opening
    rw [String.toList_ofList,if_neg place_open]
    apply String.toList_injective
    rw [String.toList_ofList,String.toList_append,String.toList_ofList]
    rfl
  rw [normal,place_normalized,place_again]

theorem variant_text (spelt : variant ∈ folderPathVariants path) :
    variant.toList = place path ∨ variant.toList = opening path := by
  have stripped : place path = rstrip (fun c => c = '/') (path.toList.map fun c => if c = '\\' then '/' else c) := by
    unfold place forwardSlashes
    rw [String.toList_ofList]
  unfold folderPathVariants at spelt
  dsimp only at spelt
  split at spelt
  · rename_i root
    right
    rw [List.mem_singleton.mp spelt]
    unfold opening
    rw [stripped,root]
    rfl
  · rw [← stripped] at spelt
    rcases List.mem_cons.mp spelt with rfl | spelt
    · exact .inl String.toList_ofList
    · rw [List.mem_singleton.mp spelt]
      exact .inr String.toList_ofList

theorem place_variant (spelt : variant ∈ folderPathVariants path) : place variant = place path := by
  rcases variant_text spelt with same | same
  · rw [← place_again path,← same,String.ofList_toList]
  · rw [← place_opening path,← same,String.ofList_toList]

theorem within_self (path : String) : Within path (forwardSlashes path) := by
  obtain ⟨k,whole⟩ := rstrip_slashes (forwardSlashes path).toList
  apply within_iff.mpr
  cases k with
  | zero =>
      rw [List.replicate_zero,List.append_nil] at whole
      exact .inl whole
  | succ k =>
      right
      rw [whole,List.replicate_succ]
      exact ⟨List.replicate k '/',by unfold opening place; simp⟩

theorem stripped_within (rest : List Char) : rstrip (fun c => c = '/') (opening path ++ rest) = place path ∨
    opening path <+: rstrip (fun c => c = '/') (opening path ++ rest) := by
  induction rest using List.reverseRecOn with
  | nil =>
      left
      rw [List.append_nil]
      exact rstrip_closed place_open
  | append_singleton front last ih =>
      rw [← List.append_assoc]
      by_cases slash : decide (last = '/') = true
      · rw [show rstrip (fun c => c = '/') (opening path ++ front ++ [last]) =
          rstrip (fun c => c = '/') (opening path ++ front) from List.rdropWhile_concat_pos _ _ _ slash]
        exact ih
      · right
        rw [show rstrip (fun c => c = '/') (opening path ++ front ++ [last]) = opening path ++ front ++ [last] from
          List.rdropWhile_concat_neg _ _ _ slash,List.append_assoc]
        exact List.prefix_append _ _

theorem variant_within (inside : Within path row) (spelt : variant ∈ folderPathVariants row) : Within path variant := by
  have slashed : ∀ text, place row = text → (text = place path ∨ opening path <+: text) → Within path variant := by
    rintro _ rfl at'
    apply within_iff.mpr
    rcases variant_text spelt with same | same
    · rw [same]
      exact at'
    · rw [same]
      right
      rcases at' with here | below
      · unfold opening
        rw [here]
      · exact below.trans (List.prefix_append _ _)
  rcases within_iff.mp inside with whole | ⟨rest,whole⟩
  · refine slashed (place path) ?_ (.inl rfl)
    rw [← place_again path,← whole,String.ofList_toList]
  · have forward : (forwardSlashes row).toList = opening path ++ rest.map fun c => if c = '\\' then '/' else c := by
      unfold forwardSlashes
      rw [String.toList_ofList,← whole,List.map_append,slashes_unix (opening_plain path)]
    refine slashed _ rfl ?_
    unfold place
    rw [forward]
    exact stripped_within _

end Places

section Deletions
variable {store : Store} {paths : List String}

theorem deleted_folders : (ReferentialStore.deleteFolders store paths).folders =
    store.folders.delete fun row => row.path ∈ paths.flatMap folderPathVariants := by
  unfold ReferentialStore.deleteFolders
  dsimp only
  split <;> rfl

-- What names no deleted folder and is of none of their devices stays.
structure KeepsOthers (store next : Store) (folderIds : List Nat) : Prop where
  bindings : List.Sublist (bindings next) (bindings store)
  mobileFolders : ∀ row ∈ store.mobileFolders.rows, row.folderId ∉ folderIds →
    deletedDevice store folderIds row.deviceUuid = false → row ∈ next.mobileFolders.rows
  devices : ∀ row ∈ store.devices.rows, deletedDevice store folderIds row.deviceUuid = false → row ∈ next.devices.rows
  sessions : ∀ row ∈ store.sessions.rows, row.folderId ∉ folderIds →
    deletedDevice store folderIds row.deviceUuid = false → row ∈ next.sessions.rows
  assets : ∀ row ∈ store.assets.rows, deletedDevice store folderIds row.deviceUuid = false → row ∈ next.assets.rows

theorem deleted_keeps : KeepsOthers store (ReferentialStore.deleteFolders store paths) (deletedFolderIds store paths) := by
  unfold ReferentialStore.deleteFolders
  dsimp only
  split
  · exact ⟨List.Sublist.refl _,fun _ member _ _ => member,fun _ member _ => member,fun _ member _ _ => member,
      fun _ member _ => member⟩
  · have unlisted : ∀ {uuid}, deletedDevice store (deletedFolderIds store paths) uuid = false →
        uuid ∉ ((store.mobileFolders.rows.filter fun row => row.folderId ∈ deletedFolderIds store paths).map
          MobileFolderRow.deviceUuid).filter fun deviceUuid => deviceUuid ≠ "" := by
      intro uuid kept listed
      rw [(delete_listed.mp listed).1] at kept
      cases kept
    refine ⟨List.filter_sublist.map _,?_,?_,?_,?_⟩
    · exact fun row member other kept =>
        mem_delete.mpr ⟨member,Bool.or_eq_false_iff.mpr ⟨decide_eq_false other,decide_eq_false (unlisted kept)⟩⟩
    · exact fun row member kept => mem_delete.mpr ⟨member,decide_eq_false (unlisted kept)⟩
    · exact fun row member other kept =>
        mem_delete.mpr ⟨member,Bool.or_eq_false_iff.mpr ⟨decide_eq_false other,decide_eq_false (unlisted kept)⟩⟩
    · exact fun row member kept => mem_delete.mpr ⟨member,decide_eq_false (unlisted kept)⟩

end Deletions

def Records.removeFolder (records : Records Vector) (folder : Folder) : Records Vector where
  library := FolderEvents.removeFolder records.library folder
  store := ReferentialStore.deleteFolders records.store [folder.path]
  folders := by
    have same : places (FolderEvents.removeFolder records.library folder).catalog =
        (places records.library.catalog).filter fun place => !decide (place.2 ∈ [folder.path].flatMap folderPathVariants) := by
      unfold places
      rw [List.filter_map]
      rfl
    rw [same,← records.folders,deleted_folders,List.filter_map]
    rfl
  devices := (deleted_keeps.bindings.map Prod.snd).nodup records.devices

def Records.deleteFolder (records : Records Vector) (folderPath : String) : Records Vector :=
  if folderPath = "" then records
  else (getSubfolders records.library.catalog (normalizedFolderPath folderPath)).foldl Records.removeFolder records

def Records.withFiles (records : Records Vector) (files : Table File.id) : Records Vector where
  library := {records.library with catalog:={records.library.catalog with files}}
  store := records.store
  folders := records.folders
  devices := records.devices

def Records.onDeleted (records : Records Vector) (paths : List String) : Records Vector :=
  let catalog := records.library.catalog
  ((paths.filterMap (deletedFolder catalog)).eraseDups).foldl (fun records folder => records.deleteFolder folder.path)
    (records.withFiles (deleteFilesByIds catalog (paths.flatMap (deletedFiles catalog))).files)

def Records.renameFilesInFolder (records : Records Vector) (folderPath newFolderPath : String) (folderId : Nat) :
    Records Vector :=
  records.withFiles (FolderEvents.renameFilesInFolder records.library.catalog folderPath newFolderPath folderId).files

-- What happens to the library is what the program does to it.
theorem removeFolders_library (records : Records Vector) (folders : List Folder) :
    (folders.foldl Records.removeFolder records).library = folders.foldl FolderEvents.removeFolder records.library := by
  induction folders generalizing records with
  | nil => rfl
  | cons folder folders ih => exact ih (records.removeFolder folder)

theorem deleteFolder_library (records : Records Vector) (folderPath : String) :
    (records.deleteFolder folderPath).library = FolderEvents.deleteFolder records.library folderPath := by
  unfold Records.deleteFolder FolderEvents.deleteFolder
  split
  · rfl
  · exact removeFolders_library _ _

theorem deleteFolders_library (records : Records Vector) (folders : List Folder) :
    (folders.foldl (fun records folder => records.deleteFolder folder.path) records).library =
      folders.foldl (fun library folder => FolderEvents.deleteFolder library folder.path) records.library := by
  induction folders generalizing records with
  | nil => rfl
  | cons folder folders ih => rw [List.foldl_cons,List.foldl_cons,ih,deleteFolder_library]

theorem onDeleted_library (records : Records Vector) (paths : List String) :
    (records.onDeleted paths).library = FolderEvents.onDeleted records.library paths := deleteFolders_library _ _

section Frames
variable {path other : String} {before middle after : Records Vector}

def Inside (records : Records Vector) (path : String) (folderId : Nat) : Prop :=
  ∃ place ∈ places records.library.catalog, place.1 = folderId ∧ Within path place.2

def Held (records : Records Vector) (path deviceUuid : String) : Prop :=
  ∃ ids ∈ bindings records.store, Inside records path ids.1 ∧ ids.2 = deviceUuid

-- What is not in the subtree, nor of a folder of it, stays as it is, and nothing is added to
-- the folders and bindings.
structure Spared (path : String) (before after : Records Vector) : Prop where
  places : ∀ place ∈ places after.library.catalog, place ∈ FolderPaths.places before.library.catalog
  bindings : ∀ ids ∈ bindings after.store, ids ∈ ReferentialStore.bindings before.store
  folders : ∀ folder ∈ before.library.catalog.folders.rows, ¬ Within path folder.path →
    folder ∈ after.library.catalog.folders.rows
  indices : ∀ folderId, ¬ Inside before path folderId → after.library.indices folderId = before.library.indices folderId
  files : ∀ file ∈ before.library.catalog.files.rows, ¬ Within path file.path → ¬ Inside before path file.folderId →
    file ∈ after.library.catalog.files.rows
  mobileFolders : ∀ row ∈ before.store.mobileFolders.rows, ¬ Inside before path row.folderId →
    row ∈ after.store.mobileFolders.rows
  devices : ∀ row ∈ before.store.devices.rows, ¬ Held before path row.deviceUuid → row ∈ after.store.devices.rows
  sessions : ∀ row ∈ before.store.sessions.rows, ¬ Inside before path row.folderId → ¬ Held before path row.deviceUuid →
    row ∈ after.store.sessions.rows
  assets : ∀ row ∈ before.store.assets.rows, ¬ Held before path row.deviceUuid → row ∈ after.store.assets.rows

theorem spared_files {files : Table File.id} (kept : ∀ file ∈ before.library.catalog.files.rows, ¬ Within path file.path →
    ¬ Inside before path file.folderId → file ∈ files.rows) : Spared path before (before.withFiles files) :=
  ⟨fun _ => id,fun _ => id,fun _ member _ => member,fun _ _ => rfl,kept,fun _ member _ => member,fun _ member _ => member,
    fun _ member _ _ => member,fun _ member _ => member⟩

theorem spared_refl : Spared path before before :=
  ⟨fun _ => id,fun _ => id,fun _ member _ => member,fun _ _ => rfl,fun _ member _ _ => member,fun _ member _ => member,
    fun _ member _ => member,fun _ member _ _ => member,fun _ member _ => member⟩

theorem outside_held {row : MobileFolderRow} (member : row ∈ before.store.mobileFolders.rows)
    (outside : ¬ Inside before path row.folderId) : ¬ Held before path row.deviceUuid := by
  rintro ⟨ids,there,inside,same⟩
  have mine : (row.folderId,row.deviceUuid) ∈ bindings before.store := List.mem_map_of_mem member
  have equal : ids = (row.folderId,row.deviceUuid) := List.inj_on_of_nodup_map before.devices there mine same
  rw [equal] at inside
  exact outside inside

theorem spared_removeFolder {folder : Folder} (spared : Spared path before middle)
    (registered : (folder.id,folder.path) ∈ places before.library.catalog) (within : Within path folder.path) :
    Spared path before (middle.removeFolder folder) := by
  have inside : Inside before path folder.id := ⟨_,registered,rfl,within⟩
  have deleted : ∀ folderId ∈ deletedFolderIds middle.store [folder.path], Inside before path folderId := by
    intro folderId listed
    obtain ⟨row,found,rfl⟩ := List.mem_map.mp listed
    obtain ⟨there,variant⟩ := List.mem_filter.mp found
    rw [List.flatMap_singleton,decide_eq_true_eq] at variant
    have place : (row.id,row.path) ∈ places middle.library.catalog :=
      middle.folders ▸ List.mem_map_of_mem (f := fun row : FolderRow => (row.id,row.path)) there
    exact ⟨_,spared.places _ place,rfl,variant_within within variant⟩
  have kept : ∀ {uuid}, ¬ Held before path uuid → deletedDevice middle.store (deletedFolderIds middle.store [folder.path]) uuid = false := by
    intro uuid free
    by_contra taken
    obtain ⟨ids,bound,listed,same⟩ := deleted_device.mp (Bool.not_eq_false _ ▸ taken)
    exact free ⟨ids,spared.bindings ids bound,deleted _ listed,same⟩
  have keeps := @deleted_keeps middle.store [folder.path]
  refine ⟨?_,?_,?_,?_,?_,?_,?_,?_,?_⟩
  · exact fun place member => spared.places place (mem_places.mp member).1
  · exact fun ids member => spared.bindings ids (keeps.bindings.subset member)
  · intro row member outside
    refine mem_delete.mpr ⟨spared.folders row member outside,decide_eq_false ?_⟩
    rw [List.flatMap_singleton]
    exact fun variant => outside (variant_within within variant)
  · intro folderId outside
    have different : folderId ≠ folder.id := by
      rintro rfl
      exact outside inside
    exact (Function.update_of_ne different _ _).trans (spared.indices folderId outside)
  · intro file member outside foreign
    refine mem_delete.mpr ⟨spared.files file member outside foreign,decide_eq_false ?_⟩
    intro same
    exact foreign (same ▸ inside)
  · intro row member outside
    exact keeps.mobileFolders row (spared.mobileFolders row member outside) (fun listed => outside (deleted _ listed))
      (kept (outside_held member outside))
  · exact fun row member free => keeps.devices row (spared.devices row member free) (kept free)
  · exact fun row member outside free => keeps.sessions row (spared.sessions row member outside free)
      (fun listed => outside (deleted _ listed)) (kept free)
  · exact fun row member free => keeps.assets row (spared.assets row member free) (kept free)

-- No folder elsewhere looks as if it were below the path.
def Clear (records : Records Vector) (path : String) : Prop :=
  ∀ place ∈ places records.library.catalog, Resembling (opening path) place.2.toList → opening path <+: place.2.toList

theorem spared_deleteFolder (spared : Spared path before middle) (clear : Clear before path) (same : place other = place path) :
    Spared path before (middle.deleteFolder other) := by
  unfold Records.deleteFolder
  split
  · exact spared
  · have listed : ∀ folder ∈ getSubfolders middle.library.catalog (normalizedFolderPath other),
        (folder.id,folder.path) ∈ places before.library.catalog ∧ Within path folder.path := by
      intro folder member
      obtain ⟨there,inside⟩ := subfolders_iff.mp member
      have registered := spared.places _ (List.mem_map_of_mem there)
      have at' : place (normalizedFolderPath other) = place path := (place_normalized other).trans same
      refine ⟨registered,within_iff.mpr ?_⟩
      rcases inside with alike | ⟨whole,-⟩
      · unfold opening at alike
        rw [at'] at alike
        exact .inr (clear _ registered alike)
      · exact .inl (whole.trans at')
    revert listed
    generalize getSubfolders middle.library.catalog (normalizedFolderPath other) = folders
    intro listed
    induction folders generalizing middle with
    | nil => exact spared
    | cons folder folders ih =>
        obtain ⟨registered,within⟩ := listed folder List.mem_cons_self
        exact ih (spared_removeFolder spared registered within) fun row member => listed row (List.mem_cons_of_mem _ member)

theorem spared_onDeleted (clear : Clear before path)
    (files : ∀ file ∈ matchChildFiles before.library.catalog path, Within path file.path) :
    Spared path before (before.onDeleted [path]) := by
  unfold Records.onDeleted
  dsimp only
  rw [List.flatMap_singleton]
  have start : Spared path before
      (before.withFiles (deleteFilesByIds before.library.catalog (deletedFiles before.library.catalog path)).files) := by
    apply spared_files
    intro file member outside _
    refine mem_delete.mpr ⟨member,decide_eq_false fun listed => ?_⟩
    have matched : ∃ row ∈ before.library.catalog.files.rows, row.id = file.id ∧ Within path row.path := by
      unfold deletedFiles at listed
      split at listed
      · rename_i direct found
        have whole := List.find?_some found
        rw [decide_eq_true_eq] at whole
        exact ⟨direct,List.mem_of_find?_eq_some found,(List.mem_singleton.mp listed).symm,whole ▸ within_self path⟩
      · obtain ⟨row,there,same⟩ := List.mem_map.mp listed
        exact ⟨row,(children_iff.mp there).1,same,files row there⟩
    obtain ⟨row,there,same,inside⟩ := matched
    have equal : row = file := List.inj_on_of_nodup_map before.library.catalog.files.distinct there member same
    exact outside (equal ▸ inside)
  have listed : ∀ folder ∈ ([path].filterMap (deletedFolder before.library.catalog)).eraseDups, place folder.path = place path := by
    intro folder member
    obtain ⟨one,there,found⟩ := List.mem_filterMap.mp (List.mem_eraseDups.mp member)
    rw [List.mem_singleton.mp there] at found
    unfold deletedFolder at found
    split at found
    · cases found
    · have sorted := List.mem_of_mem_head? found
      have spelt := (List.mem_filter.mp ((List.mem_insertionSort _).mp sorted)).2
      exact place_variant (of_decide_eq_true spelt)
  revert listed start
  generalize ([path].filterMap (deletedFolder before.library.catalog)).eraseDups = folders
  generalize before.withFiles _ = rest
  intro start listed
  induction folders generalizing rest with
  | nil => exact start
  | cons folder folders ih =>
      apply ih
      · exact spared_deleteFolder start clear (listed folder List.mem_cons_self)
      · exact fun row member => listed row (List.mem_cons_of_mem _ member)

end Frames

section Renames
variable {catalog : Catalog} {path newPath : String} {folderId : Nat} {file : File} {target : File → String} {rows : List File}

def renamedPath (folderPath newFolderPath : String) (row : File) : String :=
  normalizedFolderPath (forwardSlashes newFolderPath) ++
    String.ofList (row.path.toList.drop (normalizedFolderPath (forwardSlashes folderPath)).length)

def renameRow (target : File → String) (folderId : Nat) (catalog : Catalog) (row : File) : Catalog :=
  {catalog with
    files:=(catalog.files.delete fun file => file.path = target row).modify (fun file => file.id = row.id)
      (fun file => {file with
        path:=target row
        folderId}) fun _ => rfl}

theorem renames_rows : renameFilesInFolder catalog path newPath folderId =
    (matchChildFiles catalog path).foldl (renameRow (renamedPath path newPath) folderId) catalog := by
  have plain : forwardSlashes (normalizedFolderPath (forwardSlashes path)) = normalizedFolderPath (forwardSlashes path) := by
    obtain ⟨k,spelt⟩ := spelling_slashes path
    have clean : '\\' ∉ (normalizedFolderPath (forwardSlashes path)).toList := by
      rw [show (normalizedFolderPath (forwardSlashes path)).toList = spelling path from rfl,spelt,List.mem_append]
      rintro (inside | inside)
      · exact opening_plain path inside
      · exact absurd (List.eq_of_mem_replicate inside) (by decide)
    apply String.toList_injective
    unfold forwardSlashes at clean ⊢
    rw [String.toList_ofList,slashes_unix clean]
  have same : matchChildFiles catalog (normalizedFolderPath (forwardSlashes path)) = matchChildFiles catalog path := by
    unfold matchChildFiles
    rw [plain,normalized_again]
  unfold renameFilesInFolder
  dsimp only
  rw [same]
  rfl

theorem mem_renameRow {row : File} (member : file ∈ (renameRow target folderId catalog row).files.rows) :
    ∃ old ∈ catalog.files.rows, old.id = file.id ∧ old.path ≠ target row ∧ (old.id ≠ row.id → old = file) := by
  obtain ⟨old,there,rfl⟩ := List.mem_map.mp member
  obtain ⟨before,other⟩ := mem_delete.mp there
  refine ⟨old,before,?_,of_decide_eq_false other,?_⟩
  · split <;> rfl
  · intro different
    rw [if_neg (by simpa using different)]

-- Nothing but the files is changed.
theorem renames_files : rows.foldl (renameRow target folderId) catalog =
    {catalog with files:=(rows.foldl (renameRow target folderId) catalog).files} := by
  induction rows generalizing catalog with
  | nil => rfl
  | cons row rows ih =>
      rw [List.foldl_cons]
      exact ih

theorem renames_keep (member : file ∈ catalog.files.rows) (other : ∀ row ∈ rows, row.id ≠ file.id ∧ target row ≠ file.path) :
    file ∈ (rows.foldl (renameRow target folderId) catalog).files.rows := by
  induction rows generalizing catalog with
  | nil => exact member
  | cons row rows ih =>
      obtain ⟨different,elsewhere⟩ := other row List.mem_cons_self
      apply ih
      · refine List.mem_map.mpr ⟨file,mem_delete.mpr ⟨member,decide_eq_false elsewhere.symm⟩,if_neg ?_⟩
        simpa using different.symm
      · exact fun next there => other next (List.mem_cons_of_mem _ there)

theorem renames_absent (absent : ∀ old ∈ catalog.files.rows, old.id ≠ file.id) :
    file ∉ (rows.foldl (renameRow target folderId) catalog).files.rows := by
  induction rows generalizing catalog with
  | nil => exact fun member => absent file member rfl
  | cons row rows ih =>
      apply ih
      intro next member same
      obtain ⟨old,there,id,-⟩ := mem_renameRow member
      exact absent old there (id.trans same)

theorem renames_drop (only : ∀ old ∈ catalog.files.rows, old.id = file.id → old = file)
    (other : ∀ row ∈ rows, row.id ≠ file.id) (taken : ∃ row ∈ rows, target row = file.path) :
    file ∉ (rows.foldl (renameRow target folderId) catalog).files.rows := by
  induction rows generalizing catalog with
  | nil =>
      obtain ⟨row,member,-⟩ := taken
      cases member
  | cons row rows ih =>
      rw [List.foldl_cons]
      by_cases here : target row = file.path
      · apply renames_absent
        intro next member same
        obtain ⟨old,there,id,elsewhere,-⟩ := mem_renameRow member
        rw [only old there (id.trans same)] at elsewhere
        exact elsewhere here.symm
      · apply ih
        · intro next member same
          obtain ⟨old,there,id,-,kept⟩ := mem_renameRow member
          have equal : old = file := only old there (id.trans same)
          rw [← kept (by rw [equal]; exact (other row List.mem_cons_self).symm),equal]
        · exact fun next there => other next (List.mem_cons_of_mem _ there)
        · obtain ⟨next,member,same⟩ := taken
          rcases List.mem_cons.mp member with rfl | later
          · exact absurd same here
          · exact ⟨next,later,same⟩

end Renames

section Results
variable {records : Records Vector} {path newPath : String} {folderId : Nat}

-- No file below the path is renamed to the path of a file that is not of the subtree.
def Uncovered (records : Records Vector) (path newPath : String) : Prop :=
  ∀ file ∈ records.library.catalog.files.rows, Below path file.path → ∀ other ∈ records.library.catalog.files.rows,
    ¬ Within path other.path → ¬ Inside records path other.folderId → renamedPath path newPath file ≠ other.path

theorem renames_library : (records.renameFilesInFolder path newPath folderId).library =
    {records.library with
      catalog:=FolderEvents.renameFilesInFolder records.library.catalog path newPath folderId} := by
  unfold Records.renameFilesInFolder Records.withFiles
  rw [renames_rows,renames_files]

theorem spared_renames (exact' : Exact records.library.catalog path) :
    Spared path records (records.renameFilesInFolder path newPath folderId) ↔ Uncovered records path newPath := by
  have others : ∀ {other}, other ∈ records.library.catalog.files.rows → ¬ Within path other.path →
      ∀ row ∈ matchChildFiles records.library.catalog path, row.id ≠ other.id := by
    intro other member outside row listed same
    obtain ⟨there,below⟩ := (exact'.files row).mp listed
    have equal : row = other := List.inj_on_of_nodup_map records.library.catalog.files.distinct there member same
    exact outside (equal ▸ below.1)
  constructor
  · intro spared file there below other member outside foreign covered
    have kept := spared.files other member outside foreign
    unfold Records.renameFilesInFolder Records.withFiles at kept
    rw [renames_rows] at kept
    refine renames_drop ?_ (others member outside) ⟨file,(exact'.files file).mpr ⟨there,below⟩,covered⟩ kept
    exact fun old before same => List.inj_on_of_nodup_map records.library.catalog.files.distinct before member same
  · intro uncovered
    apply spared_files
    intro file member outside foreign
    rw [renames_rows]
    apply renames_keep member
    intro row listed
    obtain ⟨there,below⟩ := (exact'.files row).mp listed
    exact ⟨others member outside row listed,uncovered row there below file member outside foreign⟩

def lookalikes : Records Unit where
  library := ⟨⟨⟨[⟨1,"/my_photos/",.indexed⟩,⟨2,"/my-photos/",.indexed⟩],by decide⟩,3,
    ⟨[⟨1,"/my-photos/a.jpg",2,some 1,.indexed⟩],by decide⟩,2⟩,fun _ => none⟩
  store := ⟨⟨[⟨1,"/my_photos/"⟩,⟨2,"/my-photos/"⟩],by decide⟩,3,.empty,.empty,.empty,.empty⟩
  folders := by decide
  devices := by decide

end Results

end ImageSearch.SubtreeFrames
