import ImageSearch.ReferentialStore
import Mathlib.Data.List.Sort

namespace ImageSearch.FileCatalog
open Payload Tables ReferentialStore

-- folders.status. The schema names the first three; a worker that ends early writes the last.
inductive FolderStatus where
  | scanning | indexing | indexed | partiallyIndexed
  deriving DecidableEq, Repr

inductive FileStatus where
  | pending | indexed | removed
  deriving DecidableEq, Repr

structure Folder where
  id : Nat
  path : String
  status : FolderStatus
  deriving DecidableEq, Repr

structure File where
  id : Nat
  path : String
  folderId : Nat
  clipIndex : Option Nat
  status : FileStatus
  deriving DecidableEq, Repr

-- folders.path is UNIQUE, files are unique by (folder_id, path); the inserting operations
-- check these. The ids are AUTOINCREMENT's.
structure Catalog where
  folders : Table Folder.id
  nextFolderId : Nat
  files : Table File.id
  nextFileId : Nat

def forwardSlashes (path : String) : String := String.ofList (path.toList.map fun c => if c = '\\' then '/' else c)

def updateFolderStatus (catalog : Catalog) (folderId : Nat) (status : FolderStatus) : Catalog :=
  {catalog with
    folders:=catalog.folders.modify (fun folder => folder.id = folderId) (fun folder => {folder with status}) fun _ => rfl}

-- A file that is there already becomes pending again if it was removed.
def insertFile (catalog : Catalog) (path : String) (folderId : Nat) : Catalog :=
  let path := forwardSlashes path
  if catalog.files.rows.any fun file => file.path = path && file.folderId = folderId then {catalog with
    files:=catalog.files.modify
      (fun file => file.path = path && file.folderId = folderId && file.status = .removed)
      (fun file => {file with status:=.pending}) fun _ => rfl}
  else {catalog with
    files:=catalog.files.upsert ⟨catalog.nextFileId,path,folderId,none,.pending⟩ id fun _ => rfl
    nextFileId:=catalog.nextFileId + 1}

def updateFile (catalog : Catalog) (fileId : Nat) (path : Option String) (folderId clipIndex : Option Nat)
    (status : Option FileStatus) : Catalog :=
  {catalog with
    files:=catalog.files.modify (fun file => file.id = fileId)
      (fun file => {file with
        path:=(path.map forwardSlashes).getD file.path
        folderId:=folderId.getD file.folderId
        clipIndex:=clipIndex.or file.clipIndex
        status:=status.getD file.status}) fun _ => rfl}

def setRemoved (catalog : Catalog) (ids : List Nat) : Catalog :=
  {catalog with
    files:=catalog.files.modify (fun file => file.id ∈ ids) (fun file => {file with status:=.removed}) fun _ => rfl}

def markFilesDeleted (catalog : Catalog) (ids : List Nat) : Catalog := setRemoved catalog ids

def markFilesSkipped (catalog : Catalog) (ids : List Nat) : Catalog := setRemoved catalog ids

def resetFiles (catalog : Catalog) (folderId : Nat) : Catalog :=
  {catalog with
    files:=catalog.files.modify (fun file => file.folderId = folderId && file.status ≠ .removed)
      (fun file => {file with
        clipIndex:=none
        status:=.pending}) fun _ => rfl}

def supportedImageTypes : List String := [".jpg",".jpeg",".png",".bmp",".gif",".webp",".heic",".heif"]

def basename (path : String) : List Char := (path.toList.reverse.takeWhile fun c => c ≠ '/').reverse

def isImageFile (filePath : String) : Bool :=
  let fileName := basename (lower filePath)
  fileName ≠ [] && fileName.head? ≠ some '.' && supportedImageTypes.any fun type => type.toList.isSuffixOf fileName

-- SQLite's LIKE: % is any text, _ any character, letters of either case are the same.
def like : List Char → List Char → Bool
  | [],text => text.isEmpty
  | '%' :: pattern,text => text.tails.any fun rest => like pattern rest
  | '_' :: pattern,_ :: text => like pattern text
  | c :: pattern,d :: text => c.toLower = d.toLower && like pattern text
  | _ :: _,[] => false

def matchParentFolder (catalog : Catalog) (path : String) : Option Folder :=
  ((catalog.folders.rows.filter fun folder => like (folder.path.toList ++ ['%']) (forwardSlashes path).toList).insertionSort
    fun one two => two.path.length ≤ one.path.length).head?

def isFolderExists (catalog : Catalog) (folderPath : String) : Bool :=
  catalog.folders.rows.any fun folder => folder.path ∈ folderPathVariants folderPath

-- A path may have rows in several folders; the first one is answered.
def getFileByPath (catalog : Catalog) (path : String) : Option File :=
  catalog.files.rows.find? fun file => file.path = forwardSlashes path

def getPendingFilesForFolder (catalog : Catalog) (folderId offset limit : Nat) : List File :=
  (((catalog.files.rows.filter fun file => file.folderId = folderId && file.status = .pending).insertionSort
    fun one two => one.id ≤ two.id).drop offset).take limit

variable {catalog : Catalog} {file : File}

theorem insertFile_folders {path : String} {folderId : Nat} : (insertFile catalog path folderId).folders = catalog.folders := by
  unfold insertFile
  dsimp only
  split <;> rfl

theorem mem_insertFile {path : String} {folderId : Nat} (member : file ∈ (insertFile catalog path folderId).files.rows) :
    file ∈ catalog.files.rows ∨ file.status = .pending := by
  unfold insertFile at member
  dsimp only at member
  split at member
  · obtain ⟨old,there,rfl⟩ := List.mem_map.mp member
    split
    · exact .inr rfl
    · exact .inl there
  · rcases mem_upsert member with rfl | ⟨old,-⟩ | ⟨old,there,-,rfl⟩
    · exact .inr rfl
    · exact .inl old
    · exact .inl there

theorem mem_updateFile {fileId : Nat} {path : Option String} {folderId clipIndex : Option Nat} {status : Option FileStatus}
    (member : file ∈ (updateFile catalog fileId path folderId clipIndex status).files.rows) :
    file ∈ catalog.files.rows ∨ ∃ old ∈ catalog.files.rows, old.id = fileId ∧
      file = ⟨old.id,(path.map forwardSlashes).getD old.path,folderId.getD old.folderId,clipIndex.or old.clipIndex,
        status.getD old.status⟩ := by
  obtain ⟨old,there,rfl⟩ := List.mem_map.mp member
  by_cases mine : old.id = fileId
  · exact .inr ⟨old,there,mine,if_pos (decide_eq_true mine)⟩
  · rw [if_neg (by simpa using mine)]
    exact .inl there

theorem mem_setRemoved {ids : List Nat} (member : file ∈ (setRemoved catalog ids).files.rows) :
    file ∈ catalog.files.rows ∨ file.status = .removed := by
  obtain ⟨old,there,rfl⟩ := List.mem_map.mp member
  split
  · exact .inr rfl
  · exact .inl there

theorem mem_resetFiles {folderId : Nat} (member : file ∈ (resetFiles catalog folderId).files.rows) :
    file ∈ catalog.files.rows ∨ file.status = .pending := by
  obtain ⟨old,there,rfl⟩ := List.mem_map.mp member
  split
  · exact .inr rfl
  · exact .inl there

end ImageSearch.FileCatalog
