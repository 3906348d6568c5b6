import ImageSearch.IndexCalls
import Mathlib.Logic.Relation

namespace ImageSearch.SkippedFiles
open Tables FileCatalog IndexCalls

variable {Vector : Type*}

-- What comes of a batch: its future times out or raises, or process_image_batch has run, where
-- stacking may raise, and embedding what it returns may raise.
inductive BatchOutcome where
  | lost
  | returned (stackable embedded : Bool)
  deriving DecidableEq, Repr

-- What a call meets: whether the model is ready, what reading the index comes to, whether there
-- is a pool, which batches it takes, what comes of them, what a worker finds of each file, and
-- whether the index is written.
structure Circumstances (Vector : Type*) where
  ready : Bool
  load : LoadAnswer
  pool : Bool
  submits : Nat → Bool
  outcome : Nat → BatchOutcome
  verdict : File → Verdict Vector
  written : Bool

-- image_files[i:i + batch_size] for i in range(0, len(image_files), batch_size), with their numbers.
def fileBatches (first : Nat) (imageFiles : List File) : List (Nat × List File) :=
  (List.range ((imageFiles.length+15)/batchSize)).map fun i => (first+i,(imageFiles.drop (i*batchSize)).take batchSize)

variable (c : Circumstances Vector)

-- An exception of one pool.submit leaves the list of futures empty.
def futures (imageFiles : List File) : List (Nat × List File) :=
  if (fileBatches 0 imageFiles).all fun batch => c.submits batch.1 then fileBatches 0 imageFiles else []

structure Embedded (Vector : Type*) where
  catalog : Catalog
  features : List (File × Vector)
  result : Bool

def embedBatch (e : Embedded Vector) (future : Nat × List File) : Embedded Vector :=
  match c.outcome future.1 with
  | .lost => {e with result:=false}
  | .returned stackable embedded =>
    let processed := processImageBatch future.2 c.verdict stackable
    if !processed.1.isEmpty && !embedded then {e with result:=false}
    else {e with
      catalog:=markFilesSkipped (markFilesDeleted e.catalog (processed.2.1.map File.id)) (processed.2.2.map File.id)
      features:=e.features ++ processed.1}

def recordFile (catalog : Catalog) (file : File) : Catalog :=
  updateFile catalog file.id none none (some file.id) (some .indexed)

-- From the batches on; the database's statements succeed.
def embedAll (folderId : Nat) (library : PhotoLibrary Vector) (loaded : IndexFile Vector) (imageFiles : List File) :
    PhotoLibrary Vector × CallOutcome :=
  let e := (futures c imageFiles).foldl (embedBatch c) ⟨library.catalog,[],true⟩
  if e.features.isEmpty then ({library with catalog:=markFilesSkipped e.catalog (imageFiles.map File.id)},
    .returned (imageFiles.all fun file => !isImageFile file.path))
  else if c.written then
    ({setIndex library folderId (some (addWithIds loaded e.features)) with
      catalog:=(e.features.map Prod.fst).foldl recordFile e.catalog},.returned e.result)
  else ({library with catalog:=e.catalog},.raised)

def addToIndex (folderId : Nat) (library : PhotoLibrary Vector) (imageFiles : List File) : PhotoLibrary Vector × CallOutcome :=
  if c.ready then
    match library.indices folderId,c.load with
    | none,_ | some _,.unreadable => (library,.raised)
    | some _,.corrupt =>
      let library := replaceCorrupted library folderId true true
      ({library with catalog:=updateFolderStatus (resetFiles library.catalog folderId) folderId .indexing},.corrupted)
    | some loaded,.intact => if c.pool then embedAll c folderId library loaded imageFiles else (library,.raised)
  else (library,.returned false)

def reaches (folderId : Nat) (library : PhotoLibrary Vector) : Bool :=
  c.ready && (library.indices folderId).isSome && c.load = .intact && c.pool

def isValid (verdict : Verdict Vector) : Bool := verdict matches .valid _

-- A worker has run the file's batch and has not found the file, or could not decode it.
def Unusable (imageFiles : List File) (file : File) : Prop :=
  ∃ future ∈ futures c imageFiles, c.outcome future.1 ≠ .lost ∧ file ∈ future.2 ∧ isValid (c.verdict file) = false

def embeds (future : Nat × List File) : Bool :=
  c.outcome future.1 = .returned true true && future.2.any fun file => isValid (c.verdict file)

def statusOf (catalog : Catalog) (fileId : Nat) : Option FileStatus := (catalog.files.find? fileId).map File.status

-- What a call may do to the files. Hit only by a failure of the infrastructure is an image
-- that no worker has found unusable and no embedded batch holds.
structure OnlyUnusableSkipped (folderId : Nat) (library : PhotoLibrary Vector) (imageFiles : List File) (after : Catalog) : Prop where
  skipped : ∀ file ∈ imageFiles, statusOf after file.id = some .removed →
    isImageFile file.path = false ∨ reaches c folderId library = true ∧ Unusable c imageFiles file
  left : ∀ file ∈ imageFiles, reaches c folderId library = true → Unusable c imageFiles file →
    statusOf after file.id ≠ some .pending
  kept : ∀ file ∈ imageFiles, isImageFile file.path = true →
    ¬ (reaches c folderId library = true ∧ Unusable c imageFiles file) →
    (reaches c folderId library = true → ∀ future ∈ futures c imageFiles, file ∈ future.2 → embeds c future = false) →
    statusOf after file.id = some .pending
  others : ∀ fileId, fileId ∉ imageFiles.map File.id → statusOf after fileId = some .removed →
    statusOf library.catalog fileId = some .removed

-- Where a batch is embedded, so is one of every unusable file; where none is, every image is unusable.
def Settles (folderId : Nat) (library : PhotoLibrary Vector) (imageFiles : List File) : Prop :=
  reaches c folderId library = true →
    if (futures c imageFiles).any (embeds c) then
      ∀ file ∈ imageFiles, Unusable c imageFiles file → ∃ future ∈ futures c imageFiles, file ∈ future.2 ∧ embeds c future = true
    else ∀ file ∈ imageFiles, isImageFile file.path = false ∨ Unusable c imageFiles file

variable {c} {catalog : Catalog} {fileId : Nat} {future : Nat × List File} {e : Embedded Vector} {imageFiles : List File}

theorem status_removed (ids : List Nat) : statusOf (setRemoved catalog ids) fileId =
    (statusOf catalog fileId).map fun status => if fileId ∈ ids then .removed else status := by
  unfold statusOf setRemoved
  dsimp only
  rw [find_modify,Option.map_map,Option.map_map]
  cases found : catalog.files.find? fileId with
  | none => rfl
  | some file =>
      have same : file.id = fileId := (find_mem found).2
      simp only [Option.map_some,Function.comp_apply,same]
      split
      · rename_i member
        rw [if_pos (by simpa using member)]
      · rename_i absent
        rw [if_neg (by simpa using absent)]

theorem status_recorded (file : File) : statusOf (recordFile catalog file) fileId =
    (statusOf catalog fileId).map fun status => if fileId = file.id then .indexed else status := by
  unfold statusOf recordFile updateFile
  dsimp only
  rw [find_modify,Option.map_map,Option.map_map]
  cases found : catalog.files.find? fileId with
  | none => rfl
  | some row =>
      have same : row.id = fileId := (find_mem found).2
      simp only [Option.map_some,Function.comp_apply,same]
      split
      · rename_i hit
        rw [if_pos (by simpa using hit)]
        rfl
      · rename_i miss
        rw [if_neg (by simpa using miss)]

theorem batches_cons (first : Nat) (some : imageFiles ≠ []) : fileBatches first imageFiles =
    (first,imageFiles.take batchSize) :: fileBatches (first+1) (imageFiles.drop batchSize) := by
  have positive := List.length_pos_of_ne_nil some
  have count : (imageFiles.length+15)/batchSize = (imageFiles.length-batchSize+15)/batchSize+1 := by
    unfold batchSize
    omega
  unfold fileBatches
  rw [count,List.range_succ_eq_map,List.map_cons,List.map_map,List.length_drop]
  refine congrArg₂ _ ?_ (List.map_congr_left fun i _ => ?_)
  · rw [Nat.zero_mul,List.drop_zero,Nat.add_zero]
  · simp only [Function.comp_apply,List.drop_drop,Nat.succ_mul,Nat.succ_eq_add_one]
    rw [Nat.add_comm (i*batchSize),Nat.add_assoc first,Nat.add_comm 1 i]

theorem batches_nil (first : Nat) : fileBatches first [] = [] := rfl

theorem batched (first : Nat) (file : File) : file ∈ imageFiles ↔ ∃ future ∈ fileBatches first imageFiles, file ∈ future.2 := by
  induction counted : imageFiles.length using Nat.strongRecOn generalizing imageFiles first with
  | ind n ih =>
      by_cases empty : imageFiles = []
      · simp [empty,batches_nil]
      · have positive := List.length_pos_of_ne_nil empty
        have shorter : (imageFiles.drop batchSize).length < n := by
          rw [List.length_drop,← counted]
          unfold batchSize
          omega
        rw [batches_cons first empty,List.exists_mem_cons_iff,← ih _ shorter (first+1) rfl]
        conv => lhs; rw [← List.take_append_drop batchSize imageFiles,List.mem_append]

-- The files of a future that leave the pending ones, and those whose features are taken.
def marked (c : Circumstances Vector) (future : Nat × List File) : List File :=
  if embeds c future then future.2.filter fun file => !isValid (c.verdict file) else []

def taken (c : Circumstances Vector) (future : Nat × List File) : List File :=
  if embeds c future then future.2.filter fun file => isValid (c.verdict file) else []

theorem picked {pick : File → Option (File × Vector)} {chosen : File → Bool}
    (picks : ∀ file, (pick file).map Prod.fst = if chosen file then some file else none) (files : List File) :
    (files.filterMap pick).map Prod.fst = files.filter chosen := by
  induction files with
  | nil => rfl
  | cons file rest ih =>
      have first := picks file
      cases known : pick file with
      | none =>
          rw [known] at first
          have other : chosen file = false := by
            by_contra hit
            rw [Bool.not_eq_false] at hit
            rw [hit] at first
            cases first
          rw [List.filterMap_cons_none known,List.filter_cons_of_neg (by simp [other]),ih]
      | some found =>
          rw [known] at first
          split at first
          · rename_i hit
            rw [List.filterMap_cons_some known,List.filter_cons_of_pos hit,List.map_cons,ih]
            exact congrArg (fun f => f :: rest.filter chosen) (Option.some.inj first)
          · cases first

theorem valid_picked {verdict : File → Verdict Vector} {files : List File} {pick : File → Option (File × Vector)}
    (picks : ∀ file, pick file = match verdict file with
      | .valid vector => some (file,vector)
      | _ => none) : (files.filterMap pick).map Prod.fst = files.filter fun file => isValid (verdict file) := by
  refine picked (fun file => ?_) files
  rw [picks]
  cases verdict file <;> rfl

theorem processed_full {verdict : File → Verdict Vector} {files : List File} (some : (files.any fun file => isValid (verdict file)) = true) :
    (processImageBatch files verdict true).1.isEmpty = false ∧
    (processImageBatch files verdict true).1.map Prod.fst = files.filter (fun file => isValid (verdict file)) ∧
    ∀ file, (file ∈ (processImageBatch files verdict true).2.1 ∨ file ∈ (processImageBatch files verdict true).2.2) ↔
      file ∈ files ∧ isValid (verdict file) = false := by
  unfold processImageBatch
  dsimp only
  generalize chosen : files.filterMap _ = valid
  have firsts : valid.map Prod.fst = files.filter fun file => isValid (verdict file) := by
    rw [← chosen]
    exact valid_picked fun _ => rfl
  have nonempty : valid.isEmpty = false := by
    have same := congrArg List.isEmpty firsts
    rw [List.isEmpty_map] at same
    rw [same]
    simpa using some
  rw [if_neg (by simp [nonempty])]
  refine ⟨nonempty,firsts,fun file => ?_⟩
  simp only [List.mem_filter,← and_or_left]
  refine and_congr_right fun _ => ?_
  cases verdict file <;> simp [isValid]

theorem embeds_returned (embedded : embeds c future = true) : c.outcome future.1 = .returned true true ∧
    ∃ file ∈ future.2, isValid (c.verdict file) = true := by
  simpa [embeds] using embedded

theorem processed_empty {verdict : File → Verdict Vector} {files : List File} (stackable : Bool)
    (dropped : (files.any fun file => isValid (verdict file)) = false ∨ stackable = false) :
    processImageBatch files verdict stackable = ([],[],[]) := by
  unfold processImageBatch
  dsimp only
  generalize chosen : files.filterMap _ = valid
  have firsts : valid.map Prod.fst = files.filter fun file => isValid (verdict file) := by
    rw [← chosen]
    exact valid_picked fun _ => rfl
  rw [if_pos]
  rcases dropped with none | unstacked
  · have same := congrArg List.isEmpty firsts
    rw [List.isEmpty_map] at same
    have filtered : (files.filter fun file => isValid (verdict file)).isEmpty = true := by simpa using none
    rw [same,filtered,Bool.true_or]
  · rw [unstacked,Bool.not_false,Bool.or_true]

theorem embed_spec : ((embedBatch c e future).features.map Prod.fst = e.features.map Prod.fst ++ taken c future) ∧
    ∀ fileId, statusOf (embedBatch c e future).catalog fileId = (statusOf e.catalog fileId).map fun status =>
      if fileId ∈ (marked c future).map File.id then .removed else status := by
  cases outcome : c.outcome future.1 with
  | lost =>
      have idle : embeds c future = false := by simp [embeds,outcome]
      simp [embedBatch,outcome,taken,marked,idle]
  | returned stackable embedded =>
      by_cases empty : (future.2.any fun file => isValid (c.verdict file)) = false ∨ stackable = false
      · have idle : embeds c future = false := by
          rcases empty with none | unstacked
          · unfold embeds
            rw [none,Bool.and_false]
          · simp [embeds,outcome,unstacked]
        have nothing := processed_empty stackable empty
        refine ⟨by simp [embedBatch,outcome,nothing,taken,idle],fun fileId => ?_⟩
        simp [embedBatch,outcome,nothing,marked,idle,markFilesSkipped,markFilesDeleted,status_removed]
      · obtain ⟨some,stacked⟩ := not_or.mp empty
        rw [Bool.not_eq_false] at some stacked
        subst stacked
        obtain ⟨nonempty,valid,reported⟩ := processed_full some
        cases embedded with
        | false =>
            have idle : embeds c future = false := by simp [embeds,outcome]
            simp [embedBatch,outcome,nonempty,taken,marked,idle]
        | true =>
            have busy : embeds c future = true := by simp [embeds,outcome,some]
            refine ⟨?_,fun fileId => ?_⟩
            · simp only [embedBatch,outcome,Bool.not_true,Bool.and_false,Bool.false_eq_true,if_false,
                List.map_append,valid,taken,busy,if_true]
            · have reportedId : fileId ∈ (marked c future).map File.id ↔
                  fileId ∈ (processImageBatch future.2 c.verdict true).2.1.map File.id ∨
                  fileId ∈ (processImageBatch future.2 c.verdict true).2.2.map File.id := by
                unfold marked
                rw [if_pos busy]
                simp only [List.mem_map,List.mem_filter,Bool.not_eq_true',← reported]
                constructor
                · rintro ⟨file,missing | broken,same⟩
                  · exact .inl ⟨file,missing,same⟩
                  · exact .inr ⟨file,broken,same⟩
                · rintro (⟨file,missing,same⟩ | ⟨file,broken,same⟩)
                  · exact ⟨file,.inl missing,same⟩
                  · exact ⟨file,.inr broken,same⟩
              simp only [embedBatch,outcome,Bool.not_true,Bool.and_false,Bool.false_eq_true,if_false,
                markFilesSkipped,markFilesDeleted,status_removed,Option.map_map]
              congr 1
              funext status
              simp only [Function.comp_apply,reportedId]
              by_cases broken : fileId ∈ (processImageBatch future.2 c.verdict true).2.2.map File.id
              · rw [if_pos broken,if_pos (.inr broken)]
              · rw [if_neg broken]
                simp only [broken,or_false]

theorem fold_spec (all : List (Nat × List File)) : ((all.foldl (embedBatch c) e).features.map Prod.fst =
      e.features.map Prod.fst ++ all.flatMap (taken c)) ∧
    ∀ fileId, statusOf (all.foldl (embedBatch c) e).catalog fileId = (statusOf e.catalog fileId).map fun status =>
      if fileId ∈ (all.flatMap (marked c)).map File.id then .removed else status := by
  induction all generalizing e with
  | nil => simp
  | cons future rest ih =>
      obtain ⟨features,statuses⟩ := @ih (embedBatch c e future)
      obtain ⟨first,changed⟩ := @embed_spec Vector c future e
      refine ⟨?_,fun fileId => ?_⟩
      · rw [List.foldl_cons,features,first,List.flatMap_cons,List.append_assoc]
      · rw [List.foldl_cons,statuses,changed,Option.map_map]
        congr 1
        funext status
        simp only [Function.comp_apply,List.flatMap_cons,List.map_append,List.mem_append]
        by_cases later : fileId ∈ (rest.flatMap (marked c)).map File.id
        · rw [if_pos later,if_pos (.inr later)]
        · rw [if_neg later]
          simp only [later,or_false]

theorem record_spec (files : List File) : statusOf (files.foldl recordFile catalog) fileId =
    (statusOf catalog fileId).map fun status => if fileId ∈ files.map File.id then .indexed else status := by
  induction files generalizing catalog with
  | nil => simp
  | cons file rest ih =>
      rw [List.foldl_cons,ih,status_recorded,Option.map_map]
      congr 1
      funext status
      simp only [Function.comp_apply,List.map_cons,List.mem_cons]
      by_cases later : fileId ∈ rest.map File.id
      · rw [if_pos later,if_pos (.inr later)]
      · rw [if_neg later]
        simp only [later,or_false]

section Files
variable {folderId : Nat} {library : PhotoLibrary Vector} {file : File}

def Pending (library : PhotoLibrary Vector) (imageFiles : List File) : Prop :=
  ∀ file ∈ imageFiles, file ∈ library.catalog.files.rows ∧ file.status = .pending

theorem pending_status (pending : Pending library imageFiles) (listed : file ∈ imageFiles) :
    statusOf library.catalog file.id = some .pending := by
  obtain ⟨row,waits⟩ := pending file listed
  unfold statusOf
  rw [find_of_mem row,Option.map_some,waits]

theorem future_listed (submitted : future ∈ futures c imageFiles) (member : file ∈ future.2) : file ∈ imageFiles := by
  unfold futures at submitted
  split at submitted
  · exact (batched 0 file).mpr ⟨future,submitted,member⟩
  · cases submitted

theorem listed_same {other : File} (pending : Pending library imageFiles) (listed : file ∈ imageFiles)
    (listed' : other ∈ imageFiles) (same : other.id = file.id) : other = file := by
  have one := find_of_mem (pending file listed).1
  have two := find_of_mem (pending other listed').1
  rw [same,one] at two
  exact (Option.some.inj two).symm

theorem marked_listed (pending : Pending library imageFiles) (listed : file ∈ imageFiles) :
    file.id ∈ ((futures c imageFiles).flatMap (marked c)).map File.id ↔
      isValid (c.verdict file) = false ∧ ∃ future ∈ futures c imageFiles, file ∈ future.2 ∧ embeds c future = true := by
  constructor
  · intro member
    obtain ⟨other,marks,same⟩ := List.mem_map.mp member
    obtain ⟨future,submitted,within⟩ := List.mem_flatMap.mp marks
    unfold marked at within
    split at within
    · rename_i embedded
      obtain ⟨inBatch,bad⟩ := List.mem_filter.mp within
      cases listed_same pending listed (future_listed submitted inBatch) same
      exact ⟨by simpa using bad,future,submitted,inBatch,embedded⟩
    · cases within
  · rintro ⟨bad,future,submitted,inBatch,embedded⟩
    refine List.mem_map_of_mem (List.mem_flatMap.mpr ⟨future,submitted,?_⟩)
    unfold marked
    rw [if_pos embedded]
    exact List.mem_filter.mpr ⟨inBatch,by simp [bad]⟩

theorem taken_listed (pending : Pending library imageFiles) (listed : file ∈ imageFiles) :
    file.id ∈ ((futures c imageFiles).flatMap (taken c)).map File.id ↔
      isValid (c.verdict file) = true ∧ ∃ future ∈ futures c imageFiles, file ∈ future.2 ∧ embeds c future = true := by
  constructor
  · intro member
    obtain ⟨other,takes,same⟩ := List.mem_map.mp member
    obtain ⟨future,submitted,within⟩ := List.mem_flatMap.mp takes
    unfold taken at within
    split at within
    · rename_i embedded
      obtain ⟨inBatch,good⟩ := List.mem_filter.mp within
      cases listed_same pending listed (future_listed submitted inBatch) same
      exact ⟨good,future,submitted,inBatch,embedded⟩
    · cases within
  · rintro ⟨good,future,submitted,inBatch,embedded⟩
    refine List.mem_map_of_mem (List.mem_flatMap.mpr ⟨future,submitted,?_⟩)
    unfold taken
    rw [if_pos embedded]
    exact List.mem_filter.mpr ⟨inBatch,good⟩

theorem features_empty (e : Embedded Vector) (whole : e.features.map Prod.fst = (futures c imageFiles).flatMap (taken c)) :
    e.features.isEmpty = !(futures c imageFiles).any (embeds c) := by
  have same := congrArg List.isEmpty whole
  rw [List.isEmpty_map] at same
  rw [same,Bool.eq_iff_iff,List.isEmpty_iff,List.flatMap_eq_nil_iff,Bool.not_eq_true',List.any_eq_false]
  refine forall₂_congr fun future submitted => ?_
  unfold taken
  constructor
  · intro nothing embedded
    obtain ⟨-,file,inBatch,good⟩ := embeds_returned embedded
    rw [if_pos embedded] at nothing
    have member : file ∈ future.2.filter fun file => isValid (c.verdict file) := List.mem_filter.mpr ⟨inBatch,good⟩
    rw [nothing] at member
    cases member
  · intro idle
    rw [if_neg idle]

theorem skipped_all {loaded : IndexFile Vector} (none : (futures c imageFiles).any (embeds c) = false) :
    statusOf (embedAll c folderId library loaded imageFiles).1.catalog fileId = (statusOf library.catalog fileId).map fun status =>
      if fileId ∈ imageFiles.map File.id then .removed else status := by
  obtain ⟨features,statuses⟩ := @fold_spec Vector c ⟨library.catalog,[],true⟩ (futures c imageFiles)
  have empty := features_empty _ (features.trans (List.nil_append _))
  have unmarked : (futures c imageFiles).flatMap (marked c) = [] := by
    refine List.flatMap_eq_nil_iff.mpr fun future submitted => ?_
    unfold marked
    rw [if_neg (List.any_eq_false.mp none future submitted)]
  unfold embedAll
  dsimp only
  rw [if_pos (by rw [empty,none]; rfl)]
  dsimp only
  rw [markFilesSkipped,status_removed,statuses,unmarked,Option.map_map]
  rfl

theorem settled_status {loaded : IndexFile Vector} (some : (futures c imageFiles).any (embeds c) = true) :
    statusOf (embedAll c folderId library loaded imageFiles).1.catalog fileId = (statusOf library.catalog fileId).map fun status =>
      if c.written = true ∧ fileId ∈ ((futures c imageFiles).flatMap (taken c)).map File.id then .indexed
      else if fileId ∈ ((futures c imageFiles).flatMap (marked c)).map File.id then .removed else status := by
  obtain ⟨features,statuses⟩ := @fold_spec Vector c ⟨library.catalog,[],true⟩ (futures c imageFiles)
  have whole := features.trans (List.nil_append _)
  have nonempty := features_empty _ whole
  rw [some,Bool.not_true] at nonempty
  unfold embedAll
  dsimp only
  rw [if_neg (by simp [nonempty])]
  by_cases written : c.written = true
  · rw [if_pos written]
    dsimp only
    rw [record_spec,statuses,whole,Option.map_map]
    congr 1
    funext status
    simp only [Function.comp_apply,written,true_and]
  · rw [if_neg written]
    dsimp only
    rw [statuses]
    have unwritten : c.written = false := by simpa using written
    simp only [unwritten,Bool.false_eq_true,false_and,if_false]

theorem others_unchanged {loaded : IndexFile Vector} (unlisted : fileId ∉ imageFiles.map File.id) :
    statusOf (embedAll c folderId library loaded imageFiles).1.catalog fileId = statusOf library.catalog fileId := by
  have outside (part : Nat × List File → List File) (within : ∀ future, ∀ file ∈ part future, file ∈ future.2) :
      fileId ∉ ((futures c imageFiles).flatMap part).map File.id := by
    intro member
    obtain ⟨file,inside,same⟩ := List.mem_map.mp member
    obtain ⟨future,submitted,inPart⟩ := List.mem_flatMap.mp inside
    exact unlisted (same ▸ List.mem_map_of_mem (future_listed submitted (within future file inPart)))
  have unmarked := outside (marked c) (fun future file inPart => by
    unfold marked at inPart
    split at inPart
    · exact (List.mem_filter.mp inPart).1
    · cases inPart)
  have untaken := outside (taken c) (fun future file inPart => by
    unfold taken at inPart
    split at inPart
    · exact (List.mem_filter.mp inPart).1
    · cases inPart)
  cases some : (futures c imageFiles).any (embeds c) with
  | false =>
      rw [skipped_all some]
      simp only [unlisted,if_false,Option.map_id']
  | true =>
      rw [settled_status some]
      simp only [untaken,unmarked,and_false,if_false,Option.map_id']

theorem unusable_found : Unusable c imageFiles file → isValid (c.verdict file) = false := fun ⟨_,_,_,_,bad⟩ => bad

theorem embedded_unusable (bad : isValid (c.verdict file) = false) (submitted : future ∈ futures c imageFiles)
    (inBatch : file ∈ future.2) (embedded : embeds c future = true) : Unusable c imageFiles file := by
  refine ⟨future,submitted,?_,inBatch,bad⟩
  rw [(embeds_returned embedded).1]
  exact fun lost => by cases lost

theorem embedAll_exact {loaded : IndexFile Vector} (pending : Pending library imageFiles) (reached : reaches c folderId library = true) :
    OnlyUnusableSkipped c folderId library imageFiles (embedAll c folderId library loaded imageFiles).1.catalog ↔
      Settles c folderId library imageFiles := by
  have old : ∀ fileId, fileId ∉ imageFiles.map File.id →
      statusOf (embedAll c folderId library loaded imageFiles).1.catalog fileId = some .removed →
      statusOf library.catalog fileId = some .removed :=
    fun fileId unlisted gone => (others_unchanged unlisted).symm.trans gone
  cases any : (futures c imageFiles).any (embeds c) with
  | false =>
      have gone : ∀ file ∈ imageFiles,
          statusOf (embedAll c folderId library loaded imageFiles).1.catalog file.id = some .removed := by
        intro file listed
        rw [skipped_all any,pending_status pending listed,Option.map_some,if_pos (List.mem_map_of_mem listed)]
      constructor
      · intro holds _
        rw [if_neg (by simp [any])]
        intro file listed
        exact (holds.skipped file listed (gone file listed)).imp_right And.right
      · intro settles
        have unusable := settles reached
        rw [if_neg (by simp [any])] at unusable
        refine ⟨fun file listed _ => (unusable file listed).imp_right fun bad => ⟨reached,bad⟩,?_,?_,old⟩
        · intro file listed _ _ waits
          cases (gone file listed).symm.trans waits
        · intro file listed image fine _
          rcases unusable file listed with other | bad
          · rw [image] at other
            cases other
          · exact absurd ⟨reached,bad⟩ fine
  | true =>
      have status : ∀ file ∈ imageFiles, statusOf (embedAll c folderId library loaded imageFiles).1.catalog file.id =
          Option.some (if c.written = true ∧ isValid (c.verdict file) = true ∧
              ∃ future ∈ futures c imageFiles, file ∈ future.2 ∧ embeds c future = true then .indexed
            else if isValid (c.verdict file) = false ∧
              ∃ future ∈ futures c imageFiles, file ∈ future.2 ∧ embeds c future = true then .removed
            else .pending) := by
        intro file listed
        rw [settled_status any,pending_status pending listed,Option.map_some]
        simp only [marked_listed pending listed,taken_listed pending listed]
      constructor
      · intro holds _
        rw [if_pos any]
        intro file listed bad
        by_contra unheld
        refine holds.left file listed reached bad ?_
        rw [status file listed,if_neg (fun held => unheld held.2.2),if_neg (fun held => unheld held.2)]
      · intro settles
        have heldAll := settles reached
        rw [if_pos any] at heldAll
        refine ⟨?_,?_,?_,old⟩
        · intro file listed gone
          rw [status file listed] at gone
          split at gone
          · cases gone
          · split at gone
            · rename_i held
              obtain ⟨bad,future,submitted,inBatch,embedded⟩ := held
              exact .inr ⟨reached,embedded_unusable bad submitted inBatch embedded⟩
            · cases gone
        · intro file listed _ bad waits
          have found := unusable_found bad
          rw [status file listed,if_neg (by simp [found]),if_pos ⟨found,heldAll file listed bad⟩] at waits
          cases waits
        · intro file listed _ _ unheld
          have none : ¬ ∃ future ∈ futures c imageFiles, file ∈ future.2 ∧ embeds c future = true := by
            rintro ⟨future,submitted,inBatch,embedded⟩
            exact absurd embedded (by simp [unheld reached future submitted inBatch])
          rw [status file listed,if_neg (fun held => none held.2.2),if_neg (fun held => none held.2)]

-- The recovery of the index leaves pending files pending, and removes none.
theorem reset_removed : statusOf (updateFolderStatus (resetFiles catalog folderId) folderId .indexing) fileId = some .removed ↔
    statusOf catalog fileId = some .removed := by
  unfold statusOf updateFolderStatus resetFiles
  dsimp only
  rw [find_modify]
  cases catalog.files.find? fileId with
  | none => rfl
  | some file =>
      simp only [Option.map_some,Option.some.injEq]
      split
      · rename_i reset
        rw [Bool.and_eq_true] at reset
        have remaining : file.status ≠ .removed := of_decide_eq_true reset.2
        exact iff_of_false (fun gone => by cases gone) remaining
      · rfl

theorem reset_pending (waits : statusOf catalog fileId = some .pending) :
    statusOf (updateFolderStatus (resetFiles catalog folderId) folderId .indexing) fileId = some .pending := by
  unfold statusOf updateFolderStatus resetFiles at *
  dsimp only
  rw [find_modify]
  cases found : catalog.files.find? fileId with
  | none => rw [found] at waits; cases waits
  | some file =>
      rw [found] at waits
      simp only [Option.map_some,Option.some.injEq] at waits ⊢
      split
      · rfl
      · exact waits

-- A call that does not come to its batches leaves the pending files pending, and removes none.
theorem unreached_keeps {after : Catalog} (unreached : reaches c folderId library = false)
    (waiting : ∀ file ∈ imageFiles, statusOf after file.id = some .pending)
    (old : ∀ fileId, statusOf after fileId = some .removed → statusOf library.catalog fileId = some .removed) :
    OnlyUnusableSkipped c folderId library imageFiles after ↔ Settles c folderId library imageFiles := by
  have never : reaches c folderId library ≠ true := by simp [unreached]
  refine iff_of_true ⟨?_,fun _ _ reached => absurd reached never,fun file listed _ _ _ => waiting file listed,
    fun fileId _ gone => old fileId gone⟩ (fun reached => absurd reached never)
  intro file listed gone
  cases (waiting file listed).symm.trans gone

-- Exactly the calls that meet the condition skip the unusable files, and no others.
theorem skips_exactly (pending : Pending library imageFiles) :
    OnlyUnusableSkipped c folderId library imageFiles (addToIndex c folderId library imageFiles).1.catalog ↔
      Settles c folderId library imageFiles := by
  have untouched (unreached : reaches c folderId library = false) :
      OnlyUnusableSkipped c folderId library imageFiles library.catalog ↔ Settles c folderId library imageFiles :=
    unreached_keeps unreached (fun file listed => pending_status pending listed) fun _ gone => gone
  unfold addToIndex
  cases ready : c.ready with
  | false => exact untouched (by simp [reaches,ready])
  | true =>
      rw [if_pos rfl]
      cases index : library.indices folderId with
      | none => exact untouched (by simp [reaches,index])
      | some loaded =>
          cases found : c.load with
          | unreadable => exact untouched (by simp [reaches,found])
          | corrupt =>
              exact unreached_keeps (by simp [reaches,found])
                (fun file listed => reset_pending (pending_status pending listed)) fun _ gone => reset_removed.mp gone
          | intact =>
              cases pool : c.pool with
              | false => exact untouched (by simp [reaches,pool])
              | true => exact embedAll_exact pending (by simp [reaches,ready,index,found,pool])

end Files

section Steps
variable (folderId : Nat) {library : PhotoLibrary Vector} {loaded : IndexFile Vector}

def Steps (before after : PhotoLibrary Vector × Call Vector) : Prop :=
  ∃ input, stepCall folderId before.1 before.2 input = some after

def withCatalog (library : PhotoLibrary Vector) (catalog : Catalog) : PhotoLibrary Vector := {library with catalog}

theorem embedBatch_runs (remaining : List File) (number : Nat) (some : remaining ≠ []) :
    Relation.ReflTransGen (Steps folderId)
      (withCatalog library e.catalog,⟨imageFiles,.embedding ⟨loaded,remaining,e.features,e.result⟩⟩)
      (withCatalog library (embedBatch c e (number,remaining.take batchSize)).catalog,⟨imageFiles,.embedding
        ⟨loaded,remaining.drop batchSize,(embedBatch c e (number,remaining.take batchSize)).features,
          (embedBatch c e (number,remaining.take batchSize)).result⟩⟩) := by
  unfold embedBatch
  dsimp only
  cases outcome : c.outcome number with
  | lost =>
      refine .single ⟨.batch none,?_⟩
      simp only [stepCall,some,if_false]
      rfl
  | returned stackable embedded =>
      dsimp only
      split
      · refine .single ⟨.batch none,?_⟩
        simp only [stepCall,some,if_false]
        rfl
      · generalize reported : processImageBatch (remaining.take batchSize) c.verdict stackable = processed
        have returns : Steps folderId (withCatalog library e.catalog,⟨imageFiles,.embedding ⟨loaded,remaining,e.features,e.result⟩⟩)
            (withCatalog library e.catalog,⟨imageFiles,.markingDeleted ⟨loaded,remaining.drop batchSize,e.features ++ processed.1,e.result⟩
              processed.2.1 processed.2.2⟩) := by
          refine ⟨.batch (Option.some (c.verdict,stackable)),?_⟩
          simp only [stepCall,some,if_false,← reported]
          rfl
        have marks : Steps folderId
            (withCatalog library e.catalog,⟨imageFiles,.markingDeleted ⟨loaded,remaining.drop batchSize,e.features ++ processed.1,e.result⟩
              processed.2.1 processed.2.2⟩)
            (withCatalog library (markFilesDeleted e.catalog (processed.2.1.map File.id)),⟨imageFiles,
              .markingInvalid ⟨loaded,remaining.drop batchSize,e.features ++ processed.1,e.result⟩ processed.2.2⟩) := ⟨.answer true,rfl⟩
        exact .head returns (.head marks (.single ⟨.answer true,rfl⟩))

theorem batches_run (remaining : List File) (first : Nat) :
    Relation.ReflTransGen (Steps folderId)
      (withCatalog library e.catalog,⟨imageFiles,.embedding ⟨loaded,remaining,e.features,e.result⟩⟩)
      (withCatalog library ((fileBatches first remaining).foldl (embedBatch c) e).catalog,⟨imageFiles,.embedding
        ⟨loaded,[],((fileBatches first remaining).foldl (embedBatch c) e).features,
          ((fileBatches first remaining).foldl (embedBatch c) e).result⟩⟩) := by
  induction counted : remaining.length using Nat.strongRecOn generalizing remaining first e with
  | ind n ih =>
      by_cases empty : remaining = []
      · subst empty
        exact .refl
      · have positive := List.length_pos_of_ne_nil empty
        have shorter : (remaining.drop batchSize).length < n := by
          rw [List.length_drop,← counted]
          unfold batchSize
          omega
        rw [batches_cons first empty,List.foldl_cons]
        exact (embedBatch_runs folderId remaining first empty).trans (ih _ shorter _ (first+1) rfl)

theorem recording_runs (files : List File) (result : Bool) :
    Relation.ReflTransGen (Steps folderId) (withCatalog library catalog,⟨imageFiles,.recording files result⟩)
      (withCatalog library (files.foldl recordFile catalog),⟨imageFiles,.finished (.returned result)⟩) := by
  induction files generalizing catalog with
  | nil => exact .single ⟨.answer true,rfl⟩
  | cons file rest ih => exact .head ⟨.answer true,rfl⟩ ih

theorem embedAll_runs : Relation.ReflTransGen (Steps folderId) (library,⟨imageFiles,.submitting loaded⟩)
    ((embedAll c folderId library loaded imageFiles).1,⟨imageFiles,.finished (embedAll c folderId library loaded imageFiles).2⟩) := by
  have embedded : Relation.ReflTransGen (Steps folderId) (library,⟨imageFiles,.submitting loaded⟩)
      (withCatalog library ((futures c imageFiles).foldl (embedBatch c) ⟨library.catalog,[],true⟩).catalog,⟨imageFiles,.embedding
        ⟨loaded,[],((futures c imageFiles).foldl (embedBatch c) ⟨library.catalog,[],true⟩).features,
          ((futures c imageFiles).foldl (embedBatch c) ⟨library.catalog,[],true⟩).result⟩⟩) := by
    unfold futures
    split
    · exact .head ⟨.answer true,rfl⟩ (@batches_run Vector c ⟨library.catalog,[],true⟩ imageFiles folderId library loaded imageFiles 0)
    · exact .single ⟨.answer false,rfl⟩
  refine embedded.trans ?_
  unfold embedAll
  generalize (futures c imageFiles).foldl (embedBatch c) ⟨library.catalog,[],true⟩ = e
  dsimp only
  cases empty : e.features.isEmpty with
  | true =>
      have skips : Steps folderId (withCatalog library e.catalog,⟨imageFiles,.embedding ⟨loaded,[],e.features,e.result⟩⟩)
          (withCatalog library e.catalog,⟨imageFiles,.skipping⟩) := by
        refine ⟨.answer true,?_⟩
        simp [stepCall,Call.to,empty]
      exact .head skips (.single ⟨.answer true,rfl⟩)
  | false =>
      have adds : Steps folderId (withCatalog library e.catalog,⟨imageFiles,.embedding ⟨loaded,[],e.features,e.result⟩⟩)
          (withCatalog library e.catalog,⟨imageFiles,.adding loaded e.features e.result⟩) := by
        refine ⟨.answer true,?_⟩
        simp [stepCall,Call.to,empty]
      cases written : c.written with
      | true =>
          refine .head adds (.head ⟨.answer true,rfl⟩ ?_)
          exact @recording_runs Vector e.catalog imageFiles folderId
            (setIndex library folderId (some (addWithIds loaded e.features))) (e.features.map Prod.fst) e.result
      | false => exact .head adds (.single ⟨.answer false,rfl⟩)

-- The call is a run of the steps of a call.
theorem addToIndex_runs : Relation.ReflTransGen (Steps folderId) (library,⟨imageFiles,.entering⟩)
    ((addToIndex c folderId library imageFiles).1,⟨imageFiles,.finished (addToIndex c folderId library imageFiles).2⟩) := by
  unfold addToIndex
  cases ready : c.ready with
  | false => exact .single ⟨.answer false,rfl⟩
  | true =>
      have loading : Steps folderId (library,⟨imageFiles,.entering⟩) (library,⟨imageFiles,.loading⟩) := ⟨.answer true,rfl⟩
      refine .head loading ?_
      cases index : library.indices folderId with
      | none =>
          refine .single ⟨.load .intact,?_⟩
          simp [stepCall,Call.to,index]
      | some loaded =>
          cases found : c.load with
          | unreadable => exact .single ⟨.load .unreadable,by simp [stepCall,Call.to,index]⟩
          | corrupt =>
              have loads : Steps folderId (library,⟨imageFiles,.loading⟩) (library,⟨imageFiles,.recovering⟩) :=
                ⟨.load .corrupt,by simp [stepCall,Call.to,index]⟩
              exact .head loads (.head ⟨.replace true true,rfl⟩ (.head ⟨.answer true,rfl⟩ (.single ⟨.answer true,rfl⟩)))
          | intact =>
              have loads : Steps folderId (library,⟨imageFiles,.loading⟩) (library,⟨imageFiles,.preparing loaded⟩) :=
                ⟨.load .intact,by simp [stepCall,Call.to,index]⟩
              refine .head loads ?_
              cases pool : c.pool with
              | true => exact .head ⟨.answer true,rfl⟩ (embedAll_runs folderId)
              | false => exact .single ⟨.answer false,rfl⟩

end Steps

def sampleFile : File := ⟨1,"photos/a.jpg",1,none,.pending⟩

def sampleLibrary : PhotoLibrary Unit :=
  ⟨⟨⟨[⟨1,"photos",.indexing⟩],by decide⟩,2,⟨[sampleFile],by decide⟩,2⟩,fun _ => some []⟩

def sampleCall (submits : Bool) (verdict : Verdict Unit) : Circumstances Unit :=
  ⟨true,.intact,true,fun _ => submits,fun _ => .returned true true,fun _ => verdict,true⟩

theorem sample_pending : Pending sampleLibrary [sampleFile] := by
  intro file listed
  rw [List.mem_singleton] at listed
  subst listed
  exact ⟨by decide,rfl⟩

-- A file that was not found is skipped, and rightly.
theorem skips_missing : OnlyUnusableSkipped (sampleCall true .deleted) 1 sampleLibrary [sampleFile]
    (addToIndex (sampleCall true .deleted) 1 sampleLibrary [sampleFile]).1.catalog := by
  refine (skips_exactly sample_pending).mpr fun _ => ?_
  rw [if_neg (by decide)]
  intro file listed
  exact .inr ⟨(0,[sampleFile]),by decide,by decide,listed,rfl⟩

-- Where the pool takes no batch, an image that could be decoded is skipped.
theorem refused_batch_skips : ¬ ∀ (c : Circumstances Unit) folderId library imageFiles, Pending library imageFiles →
    OnlyUnusableSkipped c folderId library imageFiles (addToIndex c folderId library imageFiles).1.catalog := by
  intro all
  rcases (all (sampleCall false (.valid ())) 1 sampleLibrary [sampleFile] sample_pending).skipped sampleFile (by decide)
    (by decide +kernel) with other | ⟨-,future,submitted,-⟩
  · exact absurd other (by decide +kernel)
  · cases submitted

end ImageSearch.SkippedFiles
