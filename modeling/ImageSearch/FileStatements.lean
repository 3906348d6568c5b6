import ImageSearch.FolderRuns
import ImageSearch.SubtreeFrames

namespace ImageSearch.FileStatements
open Transitions Threads Tables FileCatalog IndexCalls IndexWorkers IndexedPhotos PendingPhotos FolderRuns FolderEvents SubtreeFrames

variable {Index Vector : Type*} {catalog next : Catalog} {inserted : Option (String × Nat)}

-- What is done to the tables beside the workers, one committed statement or the removal of an
-- index file at a time: events of the file system, and folders that come and go.
inductive FileStatement where
  | insertFile (path : String) (folderId : Nat)
  | deleteFilesByIds (ids : List Nat)
  | deleteFilesByFolderId (folderId : Nat)
  | deleteFolders (folderPaths : List String)
  | insertFolder (folderPath : String)
  | removeIndex (folderId : Nat)
  | renameFile (oldPath newPath : String) (folderId : Nat)
  | renameFilesInFolder (folderPath newFolderPath : String) (folderId : Nat)

-- A rename that the table refuses leaves it as it was.
def FileStatement.perform (catalog : Catalog) : FileStatement → Catalog
  | .insertFile path folderId => FileCatalog.insertFile catalog path folderId
  | .deleteFilesByIds ids => FolderEvents.deleteFilesByIds catalog ids
  | .deleteFilesByFolderId folderId => FolderEvents.deleteFilesByFolderId catalog folderId
  | .deleteFolders folderPaths => FolderEvents.deleteFolders catalog folderPaths
  | .insertFolder folderPath => FolderEvents.insertFolder catalog folderPath
  | .removeIndex _ => catalog
  | .renameFile oldPath newPath folderId => ((FolderEvents.renameFile catalog oldPath newPath folderId).map Prod.fst).getD catalog
  | .renameFilesInFolder folderPath newFolderPath folderId =>
    FolderEvents.renameFilesInFolder catalog folderPath newFolderPath folderId

def stepFiles (library : PhotoLibrary Vector) (statement : FileStatement) : Option (PhotoLibrary Vector) :=
  some {library with
    catalog:=statement.perform library.catalog
    indices:=match statement with
      | .removeIndex folderId => Function.update library.indices folderId none
      | _ => library.indices}

def filePool (Index Vector : Type*) [DecidableEq Index] :
    System (Pool Index (PhotoLibrary Vector) (Worker Vector)) (Move Index (ThreadInput Vector) FileStatement) :=
  pool stepWorker stepFiles

def Clean (catalog : Catalog) : Prop := ∀ file ∈ catalog.files.rows, file.status = .pending → file.clipIndex = none

def FileStatement.inserts : FileStatement → Option (String × Nat)
  | .insertFile path folderId => some (forwardSlashes path,folderId)
  | _ => none

def Worker.inserts : Worker Vector → ThreadInput Vector → Option (String × Nat)
  | .index worker,.step (.entry path) =>
    if worker.stage matches .traversing && isImageFile path then some (forwardSlashes path,worker.folder.id) else none
  | .creation (.inserting creation (path :: _)),.step (.answer true) => some (forwardSlashes path,creation.folder.id)
  | _,_ => none

def revivesIndexed (catalog : Catalog) (inserted : Option (String × Nat)) : Bool := inserted.any fun place =>
  catalog.files.rows.any fun file => (file.path,file.folderId) = place && file.status = .removed && file.clipIndex ≠ none

def insertedBy (s : Pool Index (PhotoLibrary Vector) (Worker Vector)) : Move Index (ThreadInput Vector) FileStatement →
    Option (String × Nat)
  | .thread i input => Worker.inserts (s.threads i) input
  | .environment statement => statement.inserts

def revivesNone (s : Pool Index (PhotoLibrary Vector) (Worker Vector))
    (move : Move Index (ThreadInput Vector) FileStatement) : Prop :=
  revivesIndexed s.world.catalog (insertedBy s move) = false

instance (s : Pool Index (PhotoLibrary Vector) (Worker Vector)) (move : Move Index (ThreadInput Vector) FileStatement) :
    Decidable (revivesNone s move) := inferInstanceAs (Decidable (_ = false))

-- A pending row that names a vector did so before: as a pending row, or as the removed one
-- that was inserted again.
def Stems (catalog next : Catalog) (inserted : Option (String × Nat)) : Prop :=
  ∀ file ∈ next.files.rows, file.status = .pending → file.clipIndex ≠ none → ∃ old ∈ catalog.files.rows,
    old.id = file.id ∧ old.clipIndex ≠ none ∧
      (old.status = .pending ∨ (old.status = .removed ∧ inserted = some (old.path,old.folderId)))

theorem stems_of (rows : ∀ file ∈ next.files.rows, file.status = .pending → file.clipIndex ≠ none →
    ∃ old ∈ catalog.files.rows, old.id = file.id ∧ old.status = file.status ∧ old.clipIndex = file.clipIndex) :
    Stems catalog next inserted := by
  intro file member pending named
  obtain ⟨old,there,same,status,clip⟩ := rows file member pending named
  exact ⟨old,there,same,clip ▸ named,.inl (status.trans pending)⟩

theorem stems_files (same : next.files = catalog.files) : Stems catalog next inserted := by
  apply stems_of
  intro file member _ _
  exact ⟨file,same ▸ member,rfl,rfl,rfl⟩

theorem stems_removed {ids : List Nat} : Stems catalog (setRemoved catalog ids) inserted := by
  apply stems_of
  intro file member pending _
  rcases mem_setRemoved member with there | removed
  · exact ⟨file,there,rfl,rfl,rfl⟩
  · cases pending.symm.trans removed

theorem stems_recorded {id : Nat} :
    Stems catalog (updateFile catalog id none none (some id) (some .indexed)) inserted := by
  apply stems_of
  intro file member pending _
  rcases mem_updateFile member with there | ⟨old,-,-,rfl⟩
  · exact ⟨file,there,rfl,rfl,rfl⟩
  · cases pending

theorem stems_reset {folderId : Nat} : Stems catalog (resetFiles catalog folderId) inserted := by
  apply stems_of
  intro file member _ named
  obtain ⟨old,there,rfl⟩ := List.mem_map.mp member
  split at named
  · exact absurd rfl named
  · rename_i kept
    rw [if_neg kept]
    exact ⟨old,there,rfl,rfl,rfl⟩

theorem stems_deleted {p : File → Bool} : Stems catalog {catalog with files:=catalog.files.delete p} inserted := by
  apply stems_of
  intro file member _ _
  exact ⟨file,(mem_delete.mp member).1,rfl,rfl,rfl⟩

theorem stems_inserted {path : String} {folderId : Nat} :
    Stems catalog (insertFile catalog path folderId) (some (forwardSlashes path,folderId)) := by
  intro file member pending named
  unfold insertFile at member
  dsimp only at member
  split at member
  · obtain ⟨old,there,rfl⟩ := List.mem_map.mp member
    split at pending
    · rename_i revived
      rw [if_pos revived] at named ⊢
      simp only [Bool.and_eq_true,decide_eq_true_eq] at revived
      refine ⟨old,there,rfl,named,.inr ⟨revived.2,?_⟩⟩
      rw [revived.1.1,revived.1.2]
    · rename_i kept
      rw [if_neg kept] at named ⊢
      exact ⟨old,there,rfl,named,.inl pending⟩
  · rcases mem_upsert member with rfl | ⟨there,-⟩ | ⟨_,there,-,rfl⟩
    · exact absurd rfl named
    · exact ⟨file,there,rfl,named,.inl pending⟩
    · exact ⟨file,there,rfl,named,.inl pending⟩

theorem kept_renamed {oldPath newPath : String} {folderId changes : Nat} {file : File}
    (renamed : renameFile catalog oldPath newPath folderId = some (next,changes)) (member : file ∈ next.files.rows) :
    ∃ old ∈ catalog.files.rows, old.id = file.id ∧ old.status = file.status ∧ old.clipIndex = file.clipIndex := by
  unfold renameFile at renamed
  dsimp only at renamed
  split at renamed
  · cases renamed
  · cases renamed
    obtain ⟨old,there,rfl⟩ := List.mem_map.mp member
    refine ⟨old,(mem_delete.mp there).1,?_⟩
    split
    · exact ⟨rfl,rfl,rfl⟩
    · exact ⟨rfl,rfl,rfl⟩

theorem kept_renames {rows : List File} {target : File → String} {folderId : Nat} {file : File}
    (member : file ∈ (rows.foldl (renameRow target folderId) catalog).files.rows) :
    ∃ old ∈ catalog.files.rows, old.id = file.id ∧ old.status = file.status ∧ old.clipIndex = file.clipIndex := by
  induction rows generalizing catalog with
  | nil => exact ⟨file,member,rfl,rfl,rfl⟩
  | cons row rows ih =>
      rw [List.foldl_cons] at member
      obtain ⟨old,there,same,status,clip⟩ := ih member
      obtain ⟨before,here,rfl⟩ := List.mem_map.mp there
      refine ⟨before,(mem_delete.mp here).1,?_⟩
      rw [← same,← status,← clip]
      split
      · exact ⟨rfl,rfl,rfl⟩
      · exact ⟨rfl,rfl,rfl⟩

theorem statement_stems (statement : FileStatement) : Stems catalog (statement.perform catalog) statement.inserts := by
  cases statement with
  | insertFile path folderId => exact stems_inserted
  | deleteFilesByIds ids => exact stems_deleted
  | deleteFilesByFolderId folderId => exact stems_deleted
  | deleteFolders folderPaths => exact stems_files rfl
  | insertFolder folderPath =>
      apply stems_files
      unfold FileStatement.perform FolderEvents.insertFolder
      dsimp only
      split <;> rfl
  | removeIndex folderId => exact stems_files rfl
  | renameFile oldPath newPath folderId =>
      unfold FileStatement.perform
      dsimp only
      cases renamed : FolderEvents.renameFile catalog oldPath newPath folderId with
      | none => exact stems_files rfl
      | some after =>
          apply stems_of
          intro file member _ _
          exact kept_renamed renamed member
  | renameFilesInFolder folderPath newFolderPath folderId =>
      unfold FileStatement.perform
      dsimp only
      rw [renames_rows]
      apply stems_of
      intro file member _ _
      exact kept_renames member

section Workers
variable {library after : PhotoLibrary Vector} {folderId : Nat}

theorem call_stems {call call' : Call Vector} {input : CallInput Vector}
    (taken : stepCall folderId library call input = some (after,call')) : Stems library.catalog after.catalog inserted := by
  rcases call_catalog taken with same | ⟨ids,same⟩ | ⟨fileId,same⟩ | same | ⟨-,-,same⟩
  · exact stems_files (congrArg Catalog.files same)
  · rw [same]
    exact stems_removed
  · rw [same]
    exact stems_recorded
  · rw [same]
    exact stems_files rfl
  · rw [same]
    exact stems_reset

theorem worker_stems {worker worker' : Worker Vector} {input : ThreadInput Vector}
    (taken : stepWorker library worker input = some (after,worker')) :
    Stems library.catalog after.catalog (Worker.inserts worker input) := by
  unfold stepWorker at taken
  split at taken
  · split at taken
    · cases taken
      exact stems_files rfl
    · cases taken
  · split at taken
    · cases taken
      exact stems_files rfl
    · cases taken
  · obtain ⟨⟨library',stage'⟩,stepped,same⟩ := Option.map_eq_some_iff.mp taken
    cases same
    cases index_effect stepped with
    | still catalog => exact stems_files (congrArg Catalog.files catalog)
    | restates => exact stems_files rfl
    | finds stands told image =>
        rw [told]
        unfold Worker.inserts
        dsimp only
        rw [stands,image]
        exact stems_inserted
    | indexes _ _ called => exact call_stems called
  · obtain ⟨⟨library',stage'⟩,stepped,same⟩ := Option.map_eq_some_iff.mp taken
    cases same
    cases creation_effect stepped with
    | still catalog => exact stems_files (congrArg Catalog.files catalog)
    | restates => exact stems_files rfl
    | marks => exact stems_files rfl
    | inserts => exact stems_inserted
    | adds called => exact call_stems called
  · cases taken

end Workers

theorem clean_stems (clean : Clean catalog) (stems : Stems catalog next inserted)
    (fresh : revivesIndexed catalog inserted = false) : Clean next := by
  intro file member pending
  by_contra named
  obtain ⟨old,there,-,clip,was | ⟨was,given⟩⟩ := stems file member pending named
  · exact clip (clean old there was)
  · -- The row that was inserted again is the one that the condition rules out.
    rw [given] at fresh
    have revives : revivesIndexed catalog (some (old.path,old.folderId)) = true := by
      apply List.any_eq_true.mpr
      exact ⟨old,there,by simp [was,clip]⟩
    cases fresh.symm.trans revives

section Steps
variable [DecidableEq Index] {s s' : Pool Index (PhotoLibrary Vector) (Worker Vector)}
  {move : Move Index (ThreadInput Vector) FileStatement}

theorem move_stems (taken : (filePool Index Vector).step s move = some s') :
    Stems s.world.catalog s'.world.catalog (insertedBy s move) := by
  cases move with
  | thread i input =>
      obtain ⟨world',thread',moved,rfl⟩ := thread_parts taken
      exact worker_stems moved
  | environment statement =>
      obtain ⟨world',moved,rfl⟩ := environment_parts taken
      cases moved
      exact statement_stems statement

theorem clean_step (clean : Clean s.world.catalog) (fresh : revivesNone s move)
    (taken : (filePool Index Vector).step s move = some s') : Clean s'.world.catalog :=
  clean_stems clean (move_stems taken) fresh

end Steps

end ImageSearch.FileStatements
