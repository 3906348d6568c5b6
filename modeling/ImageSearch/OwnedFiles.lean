import ImageSearch.FolderPaths

namespace ImageSearch.OwnedFiles
open Tables ReferentialStore FileCatalog IndexCalls FolderEvents FolderPaths

variable {Vector : Type*} {catalog next : Catalog} {folderId : Nat}

-- No directory is registered twice, and what is not removed belongs to the deepest folder.
structure Ordered (catalog : Catalog) : Prop where
  folderIds : ∀ place ∈ places catalog, place.1 < catalog.nextFolderId
  plain : ∀ place ∈ places catalog, place.2 ∈ folderPathVariants place.2
  distinct : ∀ one ∈ places catalog, ∀ two ∈ places catalog, directory one.2 = directory two.2 → one = two
  fileIds : ∀ file ∈ catalog.files.rows, file.id < catalog.nextFileId
  unique : ∀ one ∈ catalog.files.rows, ∀ two ∈ catalog.files.rows, one.path = two.path → one.folderId = two.folderId → one = two
  owned : ∀ file ∈ catalog.files.rows, file.status ≠ .removed → Deepest (places catalog) file.folderId file.path

def spot (file : File) : Nat × String × Nat := (file.id,file.path,file.folderId)

-- A statement that changes the other columns, and makes no row live that is not owned.
structure Restates (catalog next : Catalog) : Prop where
  places : places next = places catalog
  folderIds : next.nextFolderId = catalog.nextFolderId
  fileIds : next.nextFileId = catalog.nextFileId
  spots : next.files.rows.map spot = catalog.files.rows.map spot
  live : ∀ file ∈ next.files.rows, file.status ≠ .removed →
    (∃ old ∈ catalog.files.rows, spot old = spot file ∧ old.status ≠ .removed) ∨
      Deepest (FolderPaths.places catalog) file.folderId file.path

theorem spot_parts {one two : File} (same : spot one = spot two) :
    one.id = two.id ∧ one.path = two.path ∧ one.folderId = two.folderId :=
  ⟨congrArg Prod.fst same,congrArg (fun s => s.2.1) same,congrArg (fun s => s.2.2) same⟩

theorem ordered_restates (ordered : Ordered catalog) (restates : Restates catalog next) : Ordered next := by
  have before : ∀ file ∈ next.files.rows, ∃ old ∈ catalog.files.rows, spot old = spot file := by
    intro file member
    have there : spot file ∈ next.files.rows.map spot := List.mem_map_of_mem member
    rw [restates.spots] at there
    exact List.mem_map.mp there
  refine ⟨?_,?_,?_,?_,?_,?_⟩
  · rw [restates.places,restates.folderIds]
    exact ordered.folderIds
  · rw [restates.places]
    exact ordered.plain
  · rw [restates.places]
    exact ordered.distinct
  · intro file member
    obtain ⟨old,there,same⟩ := before file member
    rw [restates.fileIds,← (spot_parts same).1]
    exact ordered.fileIds old there
  · intro one member two member' path folder
    obtain ⟨first,there,same⟩ := before one member
    obtain ⟨second,there',same'⟩ := before two member'
    obtain ⟨id,path',folder'⟩ := spot_parts same
    obtain ⟨id',path'',folder''⟩ := spot_parts same'
    have equal : first = second :=
      ordered.unique first there second there' (path'.trans (path.trans path''.symm)) (folder'.trans (folder.trans folder''.symm))
    refine List.inj_on_of_nodup_map next.files.distinct member member' ?_
    rw [← id,← id',equal]
  · intro file member live
    rw [restates.places]
    rcases restates.live file member live with ⟨old,there,same,live'⟩ | deepest
    · obtain ⟨-,path,folder⟩ := spot_parts same
      rw [← path,← folder]
      exact ordered.owned old there live'
    · exact deepest

section Statements
variable {p : File → Bool} {f : File → File} {same : ∀ file, (f file).id = file.id}

theorem modify_restates (spots : ∀ file, spot (f file) = spot file)
    (live : ∀ file ∈ catalog.files.rows, p file = true → (f file).status ≠ .removed → file.status ≠ .removed ∨
      Deepest (places catalog) file.folderId file.path) :
    Restates catalog {catalog with files:=catalog.files.modify p f same} := by
  refine ⟨rfl,rfl,rfl,columns_modify spot same spots,?_⟩
  intro file member stays
  obtain ⟨old,there,rfl⟩ := List.mem_map.mp member
  by_cases hit : p old = true
  · rw [if_pos hit] at stays ⊢
    rcases live old there hit stays with alive | deepest
    · exact .inl ⟨old,there,(spots old).symm,alive⟩
    · obtain ⟨-,path,folder⟩ := spot_parts (spots old)
      rw [path,folder]
      exact .inr deepest
  · rw [if_neg hit] at stays ⊢
    exact .inl ⟨old,there,rfl,stays⟩

theorem restates_removed {ids : List Nat} : Restates catalog (setRemoved catalog ids) :=
  modify_restates (fun _ => rfl) fun _ _ _ live => absurd rfl live

theorem restates_reset : Restates catalog (resetFiles catalog folderId) := by
  refine modify_restates (fun _ => rfl) ?_
  intro file _ hit _
  simp only [Bool.and_eq_true,decide_eq_true_eq] at hit
  exact .inl hit.2

theorem restates_status {status : FolderStatus} : Restates catalog (updateFolderStatus catalog folderId status) := by
  refine ⟨?_,rfl,rfl,rfl,fun file member live => .inl ⟨file,member,rfl,live⟩⟩
  unfold places updateFolderStatus
  apply columns_modify (fun folder : Folder => (folder.id,folder.path))
  · exact fun _ => rfl
  · exact fun _ => rfl

def Mine (catalog : Catalog) (folderId id : Nat) : Prop :=
  ∃ row ∈ catalog.files.rows, row.id = id ∧ row.folderId = folderId ∧ Deepest (places catalog) folderId row.path

theorem restates_recorded {id : Nat} (mine : Mine catalog folderId id) :
    Restates catalog (updateFile catalog id none none (some id) (some .indexed)) := by
  refine modify_restates (fun _ => rfl) ?_
  intro file member hit _
  obtain ⟨row,there,same,rfl,deepest⟩ := mine
  have equal : file = row := by
    refine List.inj_on_of_nodup_map catalog.files.distinct member there ?_
    exact (of_decide_eq_true hit).trans same.symm
  rw [equal]
  exact .inr deepest

theorem mine_restates {id : Nat} (restates : Restates catalog next) (mine : Mine catalog folderId id) : Mine next folderId id := by
  obtain ⟨row,member,rfl,rfl,deepest⟩ := mine
  have there : spot row ∈ catalog.files.rows.map spot := List.mem_map_of_mem member
  rw [← restates.spots] at there
  obtain ⟨file,member',same⟩ := List.mem_map.mp there
  obtain ⟨id,path,folder⟩ := spot_parts same
  refine ⟨file,member',id,folder,?_⟩
  rw [restates.places,path]
  exact deepest

end Statements

section Insertions
variable {path : String}

theorem insertFile_new (ordered : Ordered catalog) (unknown : ¬ (catalog.files.rows.any fun file =>
    file.path = forwardSlashes path && file.folderId = folderId) = true) : insertFile catalog path folderId = {catalog with
      files:=catalog.files.upsert ⟨catalog.nextFileId,forwardSlashes path,folderId,none,.pending⟩ id fun _ => rfl
      nextFileId:=catalog.nextFileId + 1} ∧
    (insertFile catalog path folderId).files.rows =
      catalog.files.rows ++ [⟨catalog.nextFileId,forwardSlashes path,folderId,none,.pending⟩] := by
  have inserted : insertFile catalog path folderId = {catalog with
      files:=catalog.files.upsert ⟨catalog.nextFileId,forwardSlashes path,folderId,none,.pending⟩ id fun _ => rfl
      nextFileId:=catalog.nextFileId + 1} := by
    unfold insertFile
    exact if_neg unknown
  refine ⟨inserted,?_⟩
  rw [inserted]
  apply upsert_fresh
  intro present
  obtain ⟨file,member,same⟩ := List.mem_map.mp present
  exact absurd (ordered.fileIds file member) (Nat.not_lt.mpr same.ge)

theorem insertFile_known (known : (catalog.files.rows.any fun file =>
    file.path = forwardSlashes path && file.folderId = folderId) = true)
    (deepest : Deepest (places catalog) folderId (forwardSlashes path)) : Restates catalog (insertFile catalog path folderId) := by
  unfold insertFile
  rw [if_pos known]
  refine modify_restates (fun _ => rfl) ?_
  intro file _ hit _
  simp only [Bool.and_eq_true,decide_eq_true_eq] at hit
  obtain ⟨⟨path',folder'⟩,-⟩ := hit
  rw [path',folder']
  exact .inr deepest

theorem ordered_insertFile (ordered : Ordered catalog) (deepest : Deepest (places catalog) folderId (forwardSlashes path)) :
    Ordered (insertFile catalog path folderId) := by
  by_cases known : (catalog.files.rows.any fun file => file.path = forwardSlashes path && file.folderId = folderId) = true
  · exact ordered_restates ordered (insertFile_known known deepest)
  · obtain ⟨inserted,rows⟩ := insertFile_new ordered known
    have apart : ∀ file ∈ catalog.files.rows, file.path = forwardSlashes path → file.folderId ≠ folderId := by
      intro file member path' folder'
      exact known (List.any_eq_true.mpr ⟨file,member,by simp [path',folder']⟩)
    have same : places (insertFile catalog path folderId) = places catalog := by
      unfold places
      rw [insertFile_folders]
    have counted : (insertFile catalog path folderId).nextFileId = catalog.nextFileId + 1 := by rw [inserted]
    have folders : (insertFile catalog path folderId).nextFolderId = catalog.nextFolderId := by rw [inserted]
    refine ⟨?_,?_,?_,?_,?_,?_⟩
    · rw [same,folders]
      exact ordered.folderIds
    · rw [same]
      exact ordered.plain
    · rw [same]
      exact ordered.distinct
    · rw [rows,counted]
      intro file member
      rcases List.mem_append.mp member with old | new
      · exact Nat.lt_succ_of_lt (ordered.fileIds file old)
      · cases List.mem_singleton.mp new
        exact Nat.lt_succ_self _
    · rw [rows]
      intro one member two member' paths folders'
      rcases List.mem_append.mp member with old | new <;> rcases List.mem_append.mp member' with old' | new'
      · exact ordered.unique one old two old' paths folders'
      · cases List.mem_singleton.mp new'
        exact absurd folders' (apart one old paths)
      · cases List.mem_singleton.mp new
        exact absurd folders'.symm (apart two old' paths.symm)
      · rw [List.mem_singleton.mp new,List.mem_singleton.mp new']
    · rw [rows,same]
      intro file member live
      rcases List.mem_append.mp member with old | new
      · exact ordered.owned file old live
      · cases List.mem_singleton.mp new
        exact deepest

-- A folder is registered that is no known directory, and no live row would belong to it.
theorem ordered_insertFolder (ordered : Ordered catalog) (plain : forwardSlashes path ∈ folderPathVariants (forwardSlashes path))
    (fresh : ∀ place ∈ places catalog, directory place.2 = directory (forwardSlashes path) → place.2 = forwardSlashes path)
    (deeper : ∀ file ∈ catalog.files.rows, file.status ≠ .removed → Contains (forwardSlashes path) file.path →
      ∀ place ∈ places catalog, place.1 = file.folderId → (directory (forwardSlashes path)).length ≤ (directory place.2).length) :
    Ordered (insertFolder catalog path) := by
  unfold insertFolder
  dsimp only
  split
  · exact ordered
  · rename_i unknown
    have rows : (catalog.folders.upsert ⟨catalog.nextFolderId,forwardSlashes path,.scanning⟩ id fun _ => rfl).rows =
        catalog.folders.rows ++ [⟨catalog.nextFolderId,forwardSlashes path,.scanning⟩] := by
      apply upsert_fresh
      intro present
      obtain ⟨folder,member,same⟩ := List.mem_map.mp present
      have lower := ordered.folderIds _ (List.mem_map_of_mem member)
      exact absurd lower (Nat.not_lt.mpr same.ge)
    have grown : places {catalog with
        folders:=catalog.folders.upsert ⟨catalog.nextFolderId,forwardSlashes path,.scanning⟩ id fun _ => rfl
        nextFolderId:=catalog.nextFolderId + 1} = places catalog ++ [(catalog.nextFolderId,forwardSlashes path)] := by
      unfold places
      dsimp only
      rw [rows,List.map_append,List.map_singleton]
    have new : ∀ place ∈ places catalog, directory place.2 ≠ directory (forwardSlashes path) := by
      intro place there same
      obtain ⟨folder,member,rfl⟩ := List.mem_map.mp there
      exact unknown (List.any_eq_true.mpr ⟨folder,member,decide_eq_true (fresh _ there same)⟩)
    refine ⟨?_,?_,?_,ordered.fileIds,ordered.unique,?_⟩
    · rw [grown]
      intro place there
      rcases List.mem_append.mp there with old | mine
      · exact Nat.lt_succ_of_lt (ordered.folderIds place old)
      · rw [List.mem_singleton.mp mine]
        exact Nat.lt_succ_self _
    · rw [grown]
      intro place there
      rcases List.mem_append.mp there with old | mine
      · exact ordered.plain place old
      · rw [List.mem_singleton.mp mine]
        exact plain
    · rw [grown]
      intro one there two there' same
      rcases List.mem_append.mp there with old | mine <;> rcases List.mem_append.mp there' with old' | mine'
      · exact ordered.distinct one old two old' same
      · rw [List.mem_singleton.mp mine'] at same
        exact absurd same (new one old)
      · rw [List.mem_singleton.mp mine] at same
        exact absurd same.symm (new two old')
      · rw [List.mem_singleton.mp mine,List.mem_singleton.mp mine']
    · rw [grown]
      intro file member live
      obtain ⟨place,there,mine,inside,deepest⟩ := ordered.owned file member live
      refine ⟨place,List.mem_append_left _ there,mine,inside,?_⟩
      intro other there' inside'
      rcases List.mem_append.mp there' with old | added
      · exact deepest other old inside'
      · rw [List.mem_singleton.mp added] at inside' ⊢
        exact deeper file member live inside' place there mine

end Insertions

theorem ordered_fewer (ordered : Ordered catalog) (folderIds : next.nextFolderId = catalog.nextFolderId)
    (fileIds : next.nextFileId = catalog.nextFileId) (fewer : places next ⊆ places catalog)
    (files : next.files.rows ⊆ catalog.files.rows)
    (stays : ∀ file ∈ next.files.rows, ∀ place ∈ places catalog, place.1 = file.folderId → place ∈ places next) :
    Ordered next := by
  refine ⟨?_,?_,?_,?_,?_,?_⟩
  · rw [folderIds]
    exact fun place there => ordered.folderIds place (fewer there)
  · exact fun place there => ordered.plain place (fewer there)
  · exact fun one there two there' => ordered.distinct one (fewer there) two (fewer there')
  · rw [fileIds]
    exact fun file member => ordered.fileIds file (files member)
  · exact fun one member two member' => ordered.unique one (files member) two (files member')
  · intro file member live
    obtain ⟨place,there,mine,inside,deepest⟩ := ordered.owned file (files member) live
    exact ⟨place,stays file member place there mine,mine,inside,fun other there => deepest other (fewer there)⟩

theorem ordered_deleteFiles {p : File → Bool} (ordered : Ordered catalog) :
    Ordered {catalog with files:=catalog.files.delete p} :=
  ordered_fewer ordered rfl rfl (fun _ there => there) (fun _ member => (mem_delete.mp member).1) fun _ _ _ there _ => there

theorem rstrip_ends {text : List Char} : (rstrip (fun c => c = '/') text).getLast? ≠ some '/' := by
  unfold rstrip
  rw [List.getLast?_reverse]
  intro ends
  have kept := List.head?_dropWhile_not (fun c => decide (c = '/')) text.reverse
  rw [ends] at kept
  cases kept

theorem variant_directory {one two : String} (first : one ∈ folderPathVariants path) (second : two ∈ folderPathVariants path) :
    directory one = directory two := by
  unfold folderPathVariants at first second
  dsimp only at first second
  split at first
  · rename_i root
    rw [if_pos root] at second
    rw [List.mem_singleton.mp first,List.mem_singleton.mp second]
  · rename_i inner
    rw [if_neg inner] at second
    generalize trimmed : rstrip (fun c => c = '/') _ = text at first second
    have open' : (String.ofList text).toList.getLast? ≠ some '/' := by
      rw [String.toList_ofList,← trimmed]
      exact rstrip_ends
    have all : ∀ spelling ∈ [String.ofList text,String.ofList (text ++ ['/'])], directory spelling = text ++ ['/'] := by
      intro spelling there
      rcases List.mem_cons.mp there with rfl | other
      · rw [open_directory open',String.toList_ofList]
      · rw [List.mem_singleton.mp other]
        rcases directory_cases (String.ofList (text ++ ['/'])) with ⟨-,same⟩ | ⟨ends,-⟩
        · rw [same,String.toList_ofList]
        · rw [String.toList_ofList,List.getLast?_concat] at ends
          exact absurd rfl ends
    rw [all one first,all two second]

def Alone (catalog : Catalog) (folder : Folder) : Prop :=
  ∀ place ∈ places catalog, place.2 ∈ folderPathVariants folder.path → place = (folder.id,folder.path)

theorem registered_alone {folder : Folder} (ordered : Ordered catalog) (member : folder ∈ catalog.folders.rows) :
    Alone catalog folder := by
  intro place there variant
  have mine : (folder.id,folder.path) ∈ places catalog := List.mem_map_of_mem member
  exact ordered.distinct place there _ mine (variant_directory variant (ordered.plain _ mine))

-- An indexed row has its vector in its folder's index, unless that folder's was just replaced.
def Searchable (library : PhotoLibrary Vector) (replaced : Option Nat) : Prop :=
  ∀ file ∈ library.catalog.files.rows, file.status = .indexed →
    replaced = some file.folderId ∨ ∃ id, file.clipIndex = some id ∧ id ∈ indexIds library file.folderId

structure Sound (library : PhotoLibrary Vector) : Prop where
  ordered : Ordered library.catalog
  searchable : Searchable library none

section Folders
variable {library : PhotoLibrary Vector} {folder : Folder}

theorem other_ids {index : Option (IndexFile Vector)} {other : Nat} (different : other ≠ folderId) :
    indexIds (setIndex library folderId index) other = indexIds library other := by
  unfold indexIds setIndex
  dsimp only
  rw [Function.update_of_ne different]

theorem mem_removeFolder {file : File} (member : file ∈ (removeFolder library folder).catalog.files.rows) :
    file ∈ library.catalog.files.rows ∧ file.folderId ≠ folder.id := by
  obtain ⟨there,other⟩ := mem_delete.mp member
  exact ⟨there,of_decide_eq_false other⟩

theorem mem_places {place : Nat × String} : place ∈ places (removeFolder library folder).catalog ↔
    place ∈ places library.catalog ∧ place.2 ∉ folderPathVariants folder.path := by
  unfold places removeFolder deleteFilesByFolderId FolderEvents.deleteFolders
  dsimp only
  rw [List.flatMap_singleton]
  constructor
  · intro there
    obtain ⟨row,member,rfl⟩ := List.mem_map.mp there
    obtain ⟨before,kept⟩ := mem_delete.mp member
    exact ⟨List.mem_map.mpr ⟨row,before,rfl⟩,of_decide_eq_false kept⟩
  · rintro ⟨there,kept⟩
    obtain ⟨row,member,rfl⟩ := List.mem_map.mp there
    exact List.mem_map.mpr ⟨row,mem_delete.mpr ⟨member,decide_eq_false kept⟩,rfl⟩

theorem sound_removeFolder (sound : Sound library) (alone : Alone library.catalog folder) : Sound (removeFolder library folder) := by
  refine ⟨?_,?_⟩
  · apply @ordered_fewer _ (removeFolder library folder).catalog sound.ordered rfl rfl
    · exact fun place there => (mem_places.mp there).1
    · exact fun file member => (mem_removeFolder member).1
    · intro file member place there mine
      refine mem_places.mpr ⟨there,fun variant => (mem_removeFolder member).2 ?_⟩
      rw [← mine,alone place there variant]
  · intro file member indexed
    obtain ⟨there,other⟩ := mem_removeFolder member
    have found : indexIds (removeFolder library folder) file.folderId = indexIds library file.folderId := other_ids other
    rw [found]
    exact sound.searchable file there indexed

theorem sound_removeFolders {folders : List Folder} (sound : Sound library) (alone : ∀ folder ∈ folders, Alone library.catalog folder) :
    Sound (folders.foldl removeFolder library) := by
  induction folders generalizing library with
  | nil => exact sound
  | cons folder folders ih =>
      apply ih (sound_removeFolder sound (alone folder List.mem_cons_self))
      intro other member place there
      exact alone other (List.mem_cons_of_mem _ member) place (mem_places.mp there).1

theorem sound_deleteFolder {folderPath : String} (sound : Sound library) : Sound (deleteFolder library folderPath) := by
  unfold deleteFolder
  split
  · exact sound
  · refine sound_removeFolders sound fun folder member => registered_alone sound.ordered ?_
    unfold getSubfolders at member
    dsimp only at member
    split at member
    · exact (List.mem_filter.mp member).1
    · exact (List.mem_filter.mp member).1

theorem sound_onDeleted {paths : List String} (sound : Sound library) : Sound (onDeleted library paths) := by
  unfold onDeleted
  dsimp only
  generalize (paths.filterMap (deletedFolder library.catalog)).eraseDups = folders
  have gone : Sound {library with catalog:=deleteFilesByIds library.catalog (paths.flatMap (deletedFiles library.catalog))} :=
    ⟨ordered_deleteFiles sound.ordered,fun file member indexed => sound.searchable file (mem_delete.mp member).1 indexed⟩
  revert gone
  generalize {library with catalog:=deleteFilesByIds library.catalog (paths.flatMap (deletedFiles library.catalog))} = rest
  intro gone
  induction folders generalizing rest with
  | nil => exact gone
  | cons folder folders ih => exact ih _ (sound_deleteFolder gone)

end Folders

section Renames
variable {src dest : String} {changes : Nat}

theorem counted_once {Row : Type*} {p : Row → Bool} {rows : List Row} {one two : Row} (once : rows.countP p ≤ 1)
    (member : one ∈ rows) (hit : p one = true) (member' : two ∈ rows) (hit' : p two = true) : one = two := by
  rw [List.countP_eq_length_filter] at once
  have first : one ∈ rows.filter p := List.mem_filter.mpr ⟨member,hit⟩
  have second : two ∈ rows.filter p := List.mem_filter.mpr ⟨member',hit'⟩
  match found : rows.filter p with
  | [] =>
      rw [found] at first
      cases first
  | [only] =>
      rw [found] at first second
      rw [List.mem_singleton.mp first,List.mem_singleton.mp second]
  | _ :: _ :: rest =>
      rw [found,List.length_cons,List.length_cons] at once
      omega

theorem renamed_rows (renamed : renameFile catalog src dest folderId = some (next,changes)) :
    ∃ kept ⊆ catalog.files.rows, (∀ file ∈ kept, file.path ≠ forwardSlashes dest) ∧
      (∀ one ∈ kept, ∀ two ∈ kept, one.path = forwardSlashes src → two.path = forwardSlashes src → one = two) ∧
      next.files.rows = kept.map (fun file => if file.path = forwardSlashes src then {file with
        path:=forwardSlashes dest
        folderId} else file) ∧
      places next = places catalog ∧ next.nextFolderId = catalog.nextFolderId ∧ next.nextFileId = catalog.nextFileId := by
  unfold renameFile at renamed
  dsimp only at renamed
  split at renamed
  · cases renamed
  · rename_i once
    cases renamed
    refine ⟨(catalog.files.delete fun file => file.path = forwardSlashes dest).rows,?_,?_,?_,?_,rfl,rfl,rfl⟩
    · exact fun file member => (mem_delete.mp member).1
    · exact fun file member => of_decide_eq_false (mem_delete.mp member).2
    · intro one member two member' path path'
      exact counted_once (Nat.not_lt.mp once) member (decide_eq_true path) member' (decide_eq_true path')
    · exact List.map_congr_left fun file _ => by simp

theorem ordered_renamed (ordered : Ordered catalog) (renamed : renameFile catalog src dest folderId = some (next,changes))
    (deepest : ∀ file ∈ catalog.files.rows, file.path = forwardSlashes src → file.status ≠ .removed →
      Deepest (places catalog) folderId (forwardSlashes dest)) : Ordered next := by
  obtain ⟨kept,fewer,other,once,rows,same,folderIds,fileIds⟩ := renamed_rows renamed
  refine ⟨?_,?_,?_,?_,?_,?_⟩
  · rw [same,folderIds]
    exact ordered.folderIds
  · rw [same]
    exact ordered.plain
  · rw [same]
    exact ordered.distinct
  · rw [rows,fileIds]
    intro file member
    obtain ⟨old,there,rfl⟩ := List.mem_map.mp member
    split
    · exact ordered.fileIds old (fewer there)
    · exact ordered.fileIds old (fewer there)
  · rw [rows]
    intro one member two member' paths folders
    obtain ⟨first,there,rfl⟩ := List.mem_map.mp member
    obtain ⟨second,there',rfl⟩ := List.mem_map.mp member'
    by_cases moved : first.path = forwardSlashes src <;> by_cases moved' : second.path = forwardSlashes src
    · rw [once first there second there' moved moved']
    · rw [if_pos moved,if_neg moved'] at paths
      exact absurd paths.symm (other second there')
    · rw [if_neg moved,if_pos moved'] at paths
      exact absurd paths (other first there)
    · rw [if_neg moved,if_neg moved'] at paths folders
      rw [if_neg moved,if_neg moved']
      exact ordered.unique first (fewer there) second (fewer there') paths folders
  · rw [rows,same]
    intro file member live
    obtain ⟨old,there,rfl⟩ := List.mem_map.mp member
    split at live
    · rename_i moved
      rw [if_pos moved]
      exact deepest old (fewer there) moved live
    · rename_i stays
      rw [if_neg stays]
      exact ordered.owned old (fewer there) live

theorem searchable_renamed {library : PhotoLibrary Vector} (searchable : Searchable library none)
    (renamed : renameFile library.catalog src dest folderId = some (next,changes))
    (stays : ∀ file ∈ library.catalog.files.rows, file.path = forwardSlashes src → file.status = .indexed →
      file.folderId = folderId) : Searchable {library with catalog:=next} none := by
  obtain ⟨kept,fewer,-,-,rows,-⟩ := renamed_rows renamed
  intro file member indexed
  have member : file ∈ next.files.rows := member
  rw [rows] at member
  obtain ⟨old,there,rfl⟩ := List.mem_map.mp member
  split at indexed
  · rename_i moved
    have here := stays old (fewer there) moved indexed
    rw [if_pos moved]
    subst here
    exact searchable old (fewer there) indexed
  · rename_i same
    rw [if_neg same]
    exact searchable old (fewer there) indexed

theorem renamed_counts {file : File} (renamed : renameFile catalog src dest folderId = some (next,changes))
    (member : file ∈ catalog.files.rows) (found : file.path = forwardSlashes src) : 0 < changes := by
  unfold renameFile at renamed
  dsimp only at renamed
  split at renamed
  · cases renamed
  · cases renamed
    by_cases replaced : file.path = forwardSlashes dest
    · apply Nat.add_pos_left
      exact List.countP_pos_iff.mpr ⟨file,member,decide_eq_true replaced⟩
    · apply Nat.add_pos_right
      exact List.countP_pos_iff.mpr ⟨file,mem_delete.mpr ⟨member,decide_eq_false replaced⟩,decide_eq_true found⟩

end Renames

end ImageSearch.OwnedFiles
