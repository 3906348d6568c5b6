import ImageSearch.FileCatalog
import Mathlib.Logic.Function.Basic

namespace ImageSearch.IndexCalls
open FileCatalog

variable {Vector : Type*}

abbrev IndexFile (Vector : Type*) := List (Nat × Vector)

-- The database and the index files, which index_path_for_folder names by the folder's id.
structure PhotoLibrary (Vector : Type*) where
  catalog : Catalog
  indices : Nat → Option (IndexFile Vector)

def indexIds (library : PhotoLibrary Vector) (folderId : Nat) : List Nat :=
  ((library.indices folderId).getD []).map Prod.fst

def setIndex (library : PhotoLibrary Vector) (folderId : Nat) (index : Option (IndexFile Vector)) : PhotoLibrary Vector :=
  {library with indices:=Function.update library.indices folderId index}

inductive Verdict (Vector : Type*) where
  | valid (vector : Vector) | deleted | invalid

-- What process_image_batch returns, each valid file with the features of its image. Nothing
-- is reported of a batch that has no valid file, or whose tensors do not stack.
def processImageBatch (files : List File) (verdict : File → Verdict Vector) (stackable : Bool) :
    List (File × Vector) × List File × List File :=
  let valid := files.filterMap fun file =>
    match verdict file with
    | .valid vector => some (file,vector)
    | _ => none
  if valid.isEmpty || !stackable then ([],[],[])
  else (valid,files.filter fun file => verdict file matches .deleted,files.filter fun file => verdict file matches .invalid)

inductive CallOutcome where
  | returned (result : Bool)
  | corrupted
  | raised
  deriving DecidableEq, Repr

structure Embedding (Vector : Type*) where
  loaded : IndexFile Vector
  remaining : List File
  features : List (File × Vector)
  result : Bool

-- Where a call of _add_to_index stands: before the step that the name tells.
inductive CallStage (Vector : Type*) where
  | idle
  | entering
  | loading
  | recovering | resetting | demoting
  | preparing (loaded : IndexFile Vector)
  | submitting (loaded : IndexFile Vector)
  | embedding (embedding : Embedding Vector)
  | markingDeleted (embedding : Embedding Vector) (deleted invalid : List File)
  | markingInvalid (embedding : Embedding Vector) (invalid : List File)
  | skipping
  | adding (loaded : IndexFile Vector) (features : List (File × Vector)) (result : Bool)
  | recording (remaining : List File) (result : Bool)
  | finished (outcome : CallOutcome)

structure Call (Vector : Type*) where
  imageFiles : List File
  stage : CallStage Vector

inductive LoadAnswer where
  | intact | corrupt | unreadable
  deriving DecidableEq, Repr

-- What a step is told from outside: `answer` is whether the statement succeeds, or the
-- model is there; `batch none` an exception while a batch is embedded.
inductive CallInput (Vector : Type*) where
  | start (imageFiles : List File)
  | createIfNeeded (created : Bool)
  | answer (done : Bool)
  | load (found : LoadAnswer)
  | replace (moved created : Bool)
  | batch (outcome : Option ((File → Verdict Vector) × Bool))

def batchSize : Nat := 16

def CallStage.startable : CallStage Vector → Bool
  | .idle | .finished _ => true
  | _ => false

def Call.to (call : Call Vector) (stage : CallStage Vector) : Call Vector := {call with stage}

def Embedding.fails (embedding : Embedding Vector) : Embedding Vector := {embedding with result:=false}

def createIndexIfNeeded (library : PhotoLibrary Vector) (folderId : Nat) (created : Bool) : PhotoLibrary Vector :=
  match library.indices folderId with
  | some _ => library
  | none => if created then setIndex library folderId (some []) else library

-- The index is moved away and an empty one put in its place, each of which may fail.
def replaceCorrupted (library : PhotoLibrary Vector) (folderId : Nat) (moved created : Bool) : PhotoLibrary Vector :=
  if created then setIndex library folderId (some [])
  else if moved then setIndex library folderId none
  else library

-- add_with_ids to what was loaded, and the whole of it written.
def addWithIds (loaded : IndexFile Vector) (features : List (File × Vector)) : IndexFile Vector :=
  loaded ++ features.map fun feature => (feature.1.id,feature.2)

-- One atomic step of a call: a read or a replacement of the index under its lock, a committed
-- statement, or what comes back of a batch.
def stepCall (folderId : Nat) (library : PhotoLibrary Vector) (call : Call Vector) (input : CallInput Vector) :
    Option (PhotoLibrary Vector × Call Vector) :=
  match call.stage,input with
  | stage,.start imageFiles => if stage.startable then some (library,⟨imageFiles,.entering⟩) else none
  | stage,.createIfNeeded created =>
    if stage.startable then some (createIndexIfNeeded library folderId created,call) else none
  | .entering,.answer ready => some (library,call.to (if ready then .loading else .finished (.returned false)))
  | .loading,.load found => some (library,call.to (match library.indices folderId,found with
      | none,_ | some _,.unreadable => .finished .raised
      | some _,.corrupt => .recovering
      | some loaded,.intact => .preparing loaded))
  | .recovering,.replace moved created => some (replaceCorrupted library folderId moved created,
      call.to (if created then .resetting else .finished .raised))
  | .resetting,.answer done =>
    if done then some ({library with catalog:=resetFiles library.catalog folderId},call.to .demoting)
    else some (library,call.to (.finished .raised))
  | .demoting,.answer done =>
    if done then some ({library with catalog:=updateFolderStatus library.catalog folderId .indexing},
      call.to (.finished .corrupted))
    else some (library,call.to (.finished .raised))
  | .preparing loaded,.answer there =>
    some (library,call.to (if there then .submitting loaded else .finished .raised))
  | .submitting loaded,.answer submitted =>
    some (library,call.to (.embedding ⟨loaded,if submitted then call.imageFiles else [],[],true⟩))
  | .embedding embedding,.batch outcome =>
    if embedding.remaining = [] then none else
    let rest := {embedding with remaining:=embedding.remaining.drop batchSize}
    match outcome with
    | none => some (library,call.to (.embedding rest.fails))
    | some (verdict,stackable) =>
      let processed := processImageBatch (embedding.remaining.take batchSize) verdict stackable
      some (library,call.to (.markingDeleted {rest with features:=rest.features ++ processed.1} processed.2.1 processed.2.2))
  | .markingDeleted embedding deleted invalid,.answer done =>
    if done then some ({library with catalog:=markFilesDeleted library.catalog (deleted.map File.id)},
      call.to (.markingInvalid embedding invalid))
    else some (library,call.to (.embedding embedding.fails))
  | .markingInvalid embedding invalid,.answer done =>
    if done then some ({library with catalog:=markFilesSkipped library.catalog (invalid.map File.id)},
      call.to (.embedding embedding))
    else some (library,call.to (.embedding embedding.fails))
  | .embedding embedding,.answer _ =>
    if embedding.remaining ≠ [] then none
    else some (library,call.to (if embedding.features.isEmpty then .skipping
      else .adding embedding.loaded embedding.features embedding.result))
  | .skipping,.answer done =>
    if done then some ({library with catalog:=markFilesSkipped library.catalog (call.imageFiles.map File.id)},
      call.to (.finished (.returned (call.imageFiles.all fun file => !isImageFile file.path))))
    else some (library,call.to (.finished .raised))
  | .adding loaded features result,.answer done =>
    if done then some (setIndex library folderId (some (addWithIds loaded features)),
      call.to (.recording (features.map Prod.fst) result))
    else some (library,call.to (.finished .raised))
  | .recording [] result,.answer _ => some (library,call.to (.finished (.returned result)))
  | .recording (file :: rest) result,.answer done =>
    if done then some ({library with catalog:=updateFile library.catalog file.id none none (some file.id) (some .indexed)},
      call.to (.recording rest result))
    else some (library,call.to (.finished .raised))
  | _,_ => none

end ImageSearch.IndexCalls
