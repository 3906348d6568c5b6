import ImageSearch.IndexWorkers

namespace ImageSearch.FolderEvents
open ReferentialStore FileCatalog IndexCalls IndexWorkers

variable {Vector : Type*}

def normalizedFolderPath (folderPath : String) : String :=
  if folderPath.toList.getLast? = some '/' then folderPath else folderPath ++ "/"

def isSameFolderPath (path1 path2 : String) : Bool :=
  if path1 = "" then path2 = ""
  else if path2 = "" then false
  else normalizedFolderPath (forwardSlashes path1) = normalizedFolderPath (forwardSlashes path2)

def insertFolder (catalog : Catalog) (folderPath : String) : Catalog :=
  let path := forwardSlashes folderPath
  if catalog.folders.rows.any fun folder => folder.path = path then catalog
  else {catalog with
    folders:=catalog.folders.upsert ⟨catalog.nextFolderId,path,.scanning⟩ id fun _ => rfl
    nextFolderId:=catalog.nextFolderId + 1}

-- Inside a registered folder nothing is inserted. The folder of a phone is inserted without
-- this look at its parents.
def registerFolder (catalog : Catalog) (folderPath : String) : Catalog :=
  let path := forwardSlashes (normalizedFolderPath folderPath)
  match matchParentFolder catalog path with
  | some parent => if isSameFolderPath parent.path path then insertFolder catalog path else catalog
  | none => insertFolder catalog path

def getFolderByPath (catalog : Catalog) (folderPath : String) : Option Folder :=
  ((catalog.folders.rows.filter fun folder => folder.path ∈ folderPathVariants folderPath).insertionSort
    fun one two => one.path.length ≤ two.path.length).head?

def getSubfolders (catalog : Catalog) (folderPath : String) : List Folder :=
  let path := forwardSlashes folderPath
  if path = "/" then catalog.folders.rows.filter fun folder => folder.path = "/" || like ['/','%'] folder.path.toList
  else
    let normalizedPrefix := rstrip (fun c => c = '/') path.toList
    let withTrailingSlash := normalizedPrefix ++ ['/']
    catalog.folders.rows.filter fun folder => folder.path.toList = normalizedPrefix ||
      folder.path.toList = withTrailingSlash || like (withTrailingSlash ++ ['%']) folder.path.toList

def deleteFolders (catalog : Catalog) (folderPaths : List String) : Catalog :=
  {catalog with folders:=catalog.folders.delete fun folder => folder.path ∈ folderPaths.flatMap folderPathVariants}

def deleteFilesByFolderId (catalog : Catalog) (folderId : Nat) : Catalog :=
  {catalog with files:=catalog.files.delete fun file => file.folderId = folderId}

def deleteFilesByIds (catalog : Catalog) (ids : List Nat) : Catalog :=
  {catalog with files:=catalog.files.delete fun file => file.id ∈ ids}

def matchChildFiles (catalog : Catalog) (folderPath : String) : List File :=
  let folderPath := normalizedFolderPath (forwardSlashes folderPath)
  catalog.files.rows.filter fun file => like (folderPath.toList ++ ['%']) file.path.toList

def removeFolder (library : PhotoLibrary Vector) (folder : Folder) : PhotoLibrary Vector :=
  {setIndex library folder.id none with
    catalog:=deleteFilesByFolderId (deleteFolders library.catalog [folder.path]) folder.id}

def deleteFolder (library : PhotoLibrary Vector) (folderPath : String) : PhotoLibrary Vector :=
  if folderPath = "" then library
  else (getSubfolders library.catalog (normalizedFolderPath folderPath)).foldl removeFolder library

def deletedFiles (catalog : Catalog) (path : String) : List Nat :=
  match getFileByPath catalog path with
  | some directMatchedFile => [directMatchedFile.id]
  | none => (matchChildFiles catalog path).map File.id

def deletedFolder (catalog : Catalog) (path : String) : Option Folder :=
  match getFileByPath catalog path with
  | some _ => none
  | none => getFolderByPath catalog path

def onDeleted (library : PhotoLibrary Vector) (paths : List String) : PhotoLibrary Vector :=
  let fileIds := paths.flatMap (deletedFiles library.catalog)
  let folders := (paths.filterMap (deletedFolder library.catalog)).eraseDups
  folders.foldl (fun library folder => deleteFolder library folder.path)
    {library with catalog:=deleteFilesByIds library.catalog fileIds}

def onCreated (paths : List String) : List (List String) := (paths.filter isImageFile).toChunks limit

-- The table with the number of rows that were changed; `none` when two rows would become one.
def renameFile (catalog : Catalog) (oldPath newPath : String) (folderId : Nat) : Option (Catalog × Nat) :=
  let oldPath := forwardSlashes oldPath
  let newPath := forwardSlashes newPath
  let kept := catalog.files.delete fun file => file.path = newPath
  let changes := catalog.files.rows.countP (fun file => file.path = newPath) + kept.rows.countP fun file => file.path = oldPath
  if 1 < kept.rows.countP fun file => file.path = oldPath then none
  else some ({catalog with
    files:=kept.modify (fun file => file.path = oldPath) (fun file => {file with
      path:=newPath
      folderId}) fun _ => rfl},changes)

def renameFilesInFolder (catalog : Catalog) (folderPath newFolderPath : String) (folderId : Nat) : Catalog :=
  let folderPath := normalizedFolderPath (forwardSlashes folderPath)
  let newFolderPath := normalizedFolderPath (forwardSlashes newFolderPath)
  (matchChildFiles catalog folderPath).foldl (fun catalog row =>
    let newFilePath := newFolderPath ++ String.ofList (row.path.toList.drop folderPath.length)
    {catalog with
      files:=(catalog.files.delete fun file => file.path = newFilePath).modify (fun file => file.id = row.id)
        (fun file => {file with
          path:=newFilePath
          folderId}) fun _ => rfl}) catalog

-- What _on_moved has still to do: it sorts the events first, by what is then in the tables.
-- The changes are counted by the connection.
structure Moving where
  renames : List (String × String × Folder)
  created : List String
  deleted : List String
  totalChanges : Nat

def onMoved (catalog : Catalog) (events : List (String × String)) (totalChanges : Nat) : Moving where
  renames := events.filterMap fun (src,dest) =>
    match getFileByPath catalog src,matchParentFolder catalog dest with
    | some _,some destFolder => some (src,dest,destFolder)
    | _,_ => none
  created := events.filterMap fun (src,dest) =>
    match getFileByPath catalog src,matchParentFolder catalog dest with
    | none,some _ => some dest
    | _,_ => none
  deleted := events.filterMap fun (src,dest) =>
    match getFileByPath catalog src,matchParentFolder catalog dest with
    | some _,none => some src
    | _,_ => none
  totalChanges

def renameNext (catalog : Catalog) (moving : Moving) : Option (Catalog × Option Moving) :=
  match moving.renames with
  | [] => none
  | (src,dest,destFolder) :: renames => some (match renameFile catalog src dest destFolder.id with
    | none => (catalog,none)
    | some (renamed,changes) =>
      let totalChanges := moving.totalChanges + changes
      (if totalChanges = 0 then renameFilesInFolder renamed src dest destFolder.id else renamed,
        some {moving with renames,totalChanges}))

def entryPath (directory name : String) : String := normalizedFolderPath directory ++ name

-- The traversal comes to a file through directories that are not registered themselves;
-- the names lead from the folder to the file.
def traverse (catalog : Catalog) (directory : String) : List String → Option String
  | [] => none
  | name :: names =>
    if directory = "" || name = "" || '/' ∈ name.toList then none
    else if names = [] then some (entryPath directory name)
    else match getFolderByPath catalog (normalizedFolderPath (entryPath directory name)) with
      | some _ => none
      | none => traverse catalog (entryPath directory name) names

-- The program between the operations and in the course of one, with the batches of new files
-- that workers are still to be started for.
structure Indexer (Vector : Type*) where
  library : PhotoLibrary Vector
  worker : Worker Vector
  waiting : List (List String)
  moving : Option Moving

-- A `mobile` registration is what get_or_create_mobile_folder does when the phone has no
-- folder. `created` is told the paths that are files, `settle` the same of a move.
inductive Operation (Vector : Type*) where
  | register (folderPath : String)
  | mobile (folderPath : String)
  | remove (folderPath : String)
  | scan (folder : Folder)
  | created (paths : List String)
  | deleted (paths : List String)
  | moved (events : List (String × String)) (totalChanges : Nat)
  | rename
  | settle (files : List String)
  | work
  | found (names : List String)
  | step (input : WorkerInput Vector)

def Indexer.idle (indexer : Indexer Vector) : Bool := indexer.worker.isFinished && indexer.moving.isNone

def Indexer.withCatalog (indexer : Indexer Vector) (catalog : Catalog) : Indexer Vector :=
  {indexer with library:={indexer.library with catalog}}

def Indexer.advance (indexer : Indexer Vector) (input : ThreadInput Vector) : Option (Indexer Vector) :=
  (stepWorker indexer.library indexer.worker input).map fun next => {indexer with
    library:=next.1
    worker:=next.2}

def stepIndexer (indexer : Indexer Vector) : Operation Vector → Option (Indexer Vector)
  | .register folderPath =>
    if indexer.idle then some (indexer.withCatalog (registerFolder indexer.library.catalog folderPath)) else none
  | .mobile folderPath =>
    if indexer.idle then some (indexer.withCatalog (insertFolder indexer.library.catalog folderPath)) else none
  | .remove folderPath => if indexer.idle then some {indexer with library:=deleteFolder indexer.library folderPath} else none
  | .scan folder => if indexer.idle then indexer.advance (.index folder) else none
  | .created paths =>
    if indexer.idle then some {indexer with waiting:=indexer.waiting ++ onCreated paths} else none
  | .deleted paths => if indexer.idle then some {indexer with library:=onDeleted indexer.library paths} else none
  | .moved events totalChanges =>
    if indexer.idle then some {indexer with moving:=some (onMoved indexer.library.catalog events totalChanges)} else none
  | .rename => indexer.moving.bind fun moving => (renameNext indexer.library.catalog moving).map fun next =>
      {indexer.withCatalog next.1 with moving:=next.2}
  | .settle files => indexer.moving.bind fun moving =>
      if moving.renames ≠ [] then none
      else some {indexer with
        library:=onDeleted indexer.library moving.deleted
        waiting:=indexer.waiting ++ onCreated (moving.created.filter fun path => path ∈ files)
        moving:=none}
  | .work => match indexer.waiting with
    | paths :: waiting => if indexer.idle then {indexer with waiting}.advance (.create paths) else none
    | [] => none
  | .found names => match indexer.worker with
    | .index worker => (traverse indexer.library.catalog worker.folder.path names).bind fun path =>
        indexer.advance (.step (.entry path))
    | _ => none
  | .step (.entry _) => none
  | .step input => indexer.advance (.step input)

end ImageSearch.FolderEvents
