import ImageSearch.IndexCalls

namespace ImageSearch.IndexWorkers
open FileCatalog IndexCalls

variable {Vector : Type*}

-- What a step is told from outside: an entry of a directory or an error met there, whether the
-- worker has been stopped, whether a statement succeeds or the model is there, and the
-- inputs of the call of _add_to_index.
inductive WorkerInput (Vector : Type*) where
  | entry (path : String)
  | issue
  | stop (isStopped : Bool)
  | answer (done : Bool)
  | call (input : CallInput Vector)

def limit : Nat := 100

def callResult : CallOutcome → Bool
  | .returned result => result
  | .corrupted | .raised => false

def createsIndex (library : PhotoLibrary Vector) (folderId : Nat) (created : Bool) : Bool :=
  (library.indices folderId).isSome || created

def setFolderStatus (library : PhotoLibrary Vector) (folderId : Nat) (status : FolderStatus) : PhotoLibrary Vector :=
  {library with catalog:=updateFolderStatus library.catalog folderId status}

def addFile (library : PhotoLibrary Vector) (path : String) (folderId : Nat) : PhotoLibrary Vector :=
  {library with catalog:=insertFile library.catalog path folderId}

-- Where IndexWorker._run_impl and the generator build_index stand: before the step that the
-- name tells.
inductive IndexStage (Vector : Type*) where
  | starting
  | traversing
  | traversed
  | building
  | unready
  | creatingIndex
  | reading
  | indexing (call : Call Vector)
  | judging (result : Bool)
  | yielded
  | concluding (allSuccess : Bool)
  | finished

structure IndexWorker (Vector : Type*) where
  folder : Folder
  traversalIssueCount : Nat
  stage : IndexStage Vector

def IndexWorker.to (worker : IndexWorker Vector) (stage : IndexStage Vector) : IndexWorker Vector := {worker with stage}

def stepIndexWorker (library : PhotoLibrary Vector) (worker : IndexWorker Vector) (input : WorkerInput Vector) :
    Option (PhotoLibrary Vector × IndexWorker Vector) :=
  match worker.stage,input with
  | .starting,.answer done =>
    if done then some (setFolderStatus library worker.folder.id .scanning,worker.to .traversing)
    else some (library,worker.to .finished)
  | .traversing,.entry path =>
    some (if isImageFile path then addFile library path worker.folder.id else library,worker)
  | .traversing,.issue => some (library,{worker with traversalIssueCount:=worker.traversalIssueCount + 1})
  | .traversing,.stop isStopped => some (library,worker.to (if isStopped then .finished else .traversed))
  | .traversing,.answer _ => some (library,worker.to .finished)
  | .traversed,.answer done =>
    if done then some (setFolderStatus library worker.folder.id .indexing,worker.to .building)
    else some (library,worker.to .finished)
  | .building,.answer ready => some (library,worker.to (if ready then .creatingIndex else .unready))
  | .unready,.stop isStopped => some (library,worker.to (if isStopped then .finished else .concluding false))
  | .creatingIndex,.answer created => some (createIndexIfNeeded library worker.folder.id created,
      worker.to (if createsIndex library worker.folder.id created then .reading else .finished))
  | .reading,.answer done =>
    let files := getPendingFilesForFolder library.catalog worker.folder.id 0 limit
    let filesToIndex := files.filter fun file => file.clipIndex = none && file.status = .pending
    some (library,worker.to (if !done then .finished
      else if files = [] then .concluding true
      else if filesToIndex = [] then .reading
      else .indexing ⟨filesToIndex,.entering⟩))
  | .indexing call,.call input => (stepCall worker.folder.id library call input).map fun next =>
      (next.1,worker.to (match next.2.stage with
        | .finished outcome => .judging (callResult outcome)
        | _ => .indexing next.2))
  -- The generator ends here without a yield when the batch has failed or the model is gone.
  | .judging result,.answer ready => some (library,worker.to (if ready && result then .yielded else .concluding true))
  | .yielded,.stop isStopped => some (library,worker.to (if isStopped then .finished else .reading))
  | .concluding allSuccess,.answer done =>
    let status : FolderStatus := if allSuccess && worker.traversalIssueCount = 0 then .indexed else .partiallyIndexed
    some (if done then setFolderStatus library worker.folder.id status else library,worker.to .finished)
  | _,_ => none

abbrev Groups := List (Folder × List String)

structure Creation where
  folder : Folder
  files : List String
  rest : Groups
  deriving DecidableEq, Repr

-- The same of FileCreationIndexWorker._run_impl and append_to_index. A slice is what is
-- still to look at of the paths taken together, `later` the paths after it.
inductive CreationStage (Vector : Type*) where
  | matching (remaining : List String) (groups : Groups)
  | announcing (groups : Groups)
  | inserting (creation : Creation) (remaining : List String)
  | appending (creation : Creation)
  | creatingIndex (creation : Creation)
  | selecting (creation : Creation) (slice : List String) (chosen : List File) (later : List String)
  | adding (creation : Creation) (call : Call Vector) (later : List String)
  | yielded (creation : Creation) (result : Bool) (later : List String)
  | closing (creation : Creation) (result : Bool)
  | marking (creation : Creation) (allSuccess : Bool)
  | finished

def sliced (creation : Creation) (paths : List String) : CreationStage Vector :=
  .selecting creation (paths.take limit) [] (paths.drop limit)

-- folderId2FilePaths.setdefault(...).append(path), with the folder first seen.
def addToGroup (groups : Groups) (folder : Folder) (path : String) : Groups :=
  if groups.any fun group => group.1.id = folder.id then
    groups.map fun group => if group.1.id = folder.id then (group.1,group.2 ++ [path]) else group
  else groups ++ [(folder,[path])]

def groupFile (catalog : Catalog) (groups : Groups) (path : String) : Groups :=
  match matchParentFolder catalog path with
  | some folder => addToGroup groups folder path
  | none => groups

def chooseFile (catalog : Catalog) (chosen : List File) (path : String) : List File :=
  match getFileByPath catalog path with
  | some file => if file.status = .pending then chosen ++ [file] else chosen
  | none => chosen

def stepCreationWorker (library : PhotoLibrary Vector) (stage : CreationStage Vector) (input : WorkerInput Vector) :
    Option (PhotoLibrary Vector × CreationStage Vector) :=
  match stage,input with
  | .matching [] groups,.answer _ => some (library,if groups = [] then .finished else .announcing groups)
  | .matching (path :: remaining) groups,.answer done =>
    some (library,if done then .matching remaining (groupFile library.catalog groups path) else .finished)
  | .announcing [],.answer _ => some (library,.finished)
  | .announcing ((folder,files) :: rest),.answer done =>
    if done then some (setFolderStatus library folder.id .partiallyIndexed,.inserting ⟨folder,files,rest⟩ files)
    else some (library,.finished)
  | .inserting creation [],.answer _ => some (library,.appending creation)
  | .inserting creation (path :: remaining),.answer done =>
    if done then some (addFile library path creation.folder.id,.inserting creation remaining)
    else some (library,.finished)
  -- Without the model the consumer fails on the fields that this progress does not have.
  | .appending creation,.answer ready => some (library,if ready then .creatingIndex creation else .finished)
  | .creatingIndex creation,.answer created => some (createIndexIfNeeded library creation.folder.id created,
      if createsIndex library creation.folder.id created then sliced creation creation.files else .finished)
  | .selecting creation (path :: slice) chosen later,.answer done =>
    some (library,if done then .selecting creation slice (chooseFile library.catalog chosen path) later else .finished)
  | .selecting creation [] chosen later,.answer _ => some (library,if chosen = [] then .yielded creation true later
      else .adding creation ⟨chosen,.entering⟩ later)
  | .adding creation call later,.call input => (stepCall creation.folder.id library call input).map fun next =>
      (next.1,match next.2.stage with
        | .finished outcome => .yielded creation (callResult outcome) later
        | _ => .adding creation next.2 later)
  | .yielded creation result later,.stop isStopped =>
    some (library,if isStopped then .finished
      else if !isFolderExists library.catalog creation.folder.path || later = [] then .closing creation result
      else sliced creation later)
  | .closing creation result,.answer done =>
    some (library,if !done then .finished
      else if !isFolderExists library.catalog creation.folder.path then .announcing creation.rest
      else .marking creation result)
  | .marking creation allSuccess,.answer done =>
    if done then some (setFolderStatus library creation.folder.id (if allSuccess then .indexed else .indexing),
      .announcing creation.rest)
    else some (library,.finished)
  | _,_ => none

inductive Worker (Vector : Type*) where
  | idle
  | index (worker : IndexWorker Vector)
  | creation (stage : CreationStage Vector)

-- A thread is given a worker when the last one has come to its end. _on_created makes a
-- worker of a hundred events at most.
inductive ThreadInput (Vector : Type*) where
  | index (folder : Folder)
  | create (paths : List String)
  | step (input : WorkerInput Vector)

def Worker.isFinished : Worker Vector → Bool
  | .idle | .index ⟨_,_,.finished⟩ | .creation .finished => true
  | _ => false

def stepWorker (library : PhotoLibrary Vector) (worker : Worker Vector) (input : ThreadInput Vector) :
    Option (PhotoLibrary Vector × Worker Vector) :=
  match input,worker with
  | .index folder,worker => if worker.isFinished then some (library,.index ⟨folder,0,.starting⟩) else none
  | .create paths,worker =>
    if worker.isFinished && paths.length ≤ limit then some (library,.creation (.matching (paths.filter isImageFile) []))
    else none
  | .step input,.index worker => (stepIndexWorker library worker input).map fun next => (next.1,.index next.2)
  | .step input,.creation stage => (stepCreationWorker library stage input).map fun next => (next.1,.creation next.2)
  | .step _,.idle => none

end ImageSearch.IndexWorkers
