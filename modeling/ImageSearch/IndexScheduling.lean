import ImageSearch.FolderEvents
import ImageSearch.Threads

namespace ImageSearch.IndexScheduling
open ReferentialStore FileCatalog IndexCalls FolderEvents Transitions Threads

inductive ModelState where
  | loading | ready | failed
  deriving DecidableEq, Repr

structure ActiveWorker where
  worker : Nat
  folder : Folder
  deriving DecidableEq, Repr

def maxWorkers : Nat := 1

-- The module's lists and what its threads read. `started` and `resumes` are the threads that
-- the system has still to run, `modelFailed` whether model_load_failed was published.
structure IndexQueue where
  catalog : Catalog
  modelState : ModelState
  modelFailed : Bool
  indexWorkers : List ActiveWorker
  pendingIndexFolders : List Folder
  nextWorker : Nat
  started : List ActiveWorker
  resumes : List Bool

-- The lock is held all through it. With one worker at most there is nothing to sort.
def addIndexWorker (q : IndexQueue) (folder : Option Folder) : IndexQueue :=
  let (folder,pending) := match folder with
    | some folder => (some folder,q.pendingIndexFolders)
    | none => (q.pendingIndexFolders.getLast?,q.pendingIndexFolders.dropLast)
  match folder with
  | none => q
  | some folder =>
    if q.indexWorkers.any fun worker => worker.folder.id = folder.id then {q with pendingIndexFolders:=pending}
    else if q.indexWorkers.length < maxWorkers then {q with
      indexWorkers:=q.indexWorkers ++ [⟨q.nextWorker,folder⟩]
      started:=q.started ++ [⟨q.nextWorker,folder⟩]
      nextWorker:=q.nextWorker + 1
      pendingIndexFolders:=pending.filter fun other => other.id ≠ folder.id}
    else if pending.any fun other => other.id = folder.id then {q with pendingIndexFolders:=pending}
    else {q with pendingIndexFolders:=pending ++ [folder]}

def resumeIndexWorkers (q : IndexQueue) (isInit : Bool) : IndexQueue :=
  if q.modelState = .failed then q else {q with resumes:=q.resumes ++ [isInit]}

def statusesToResume (isInit : Bool) : List FolderStatus :=
  if isInit then [.scanning,.indexing,.indexed,.partiallyIndexed] else [.scanning,.indexing]

def completed (catalog : Catalog) (folderPath : String) : Bool :=
  match getFolderByPath catalog folderPath with
  | none => true
  | some folder => folder.status = .indexed

def leaveWorkers (q : IndexQueue) (worker : ActiveWorker) : IndexQueue :=
  if worker ∈ q.indexWorkers then
    let q := {q with indexWorkers:=q.indexWorkers.erase worker}
    if completed q.catalog worker.folder.path then resumeIndexWorkers q false else q
  else q

def deletedWorker (q : IndexQueue) (folderPath : String) : Option ActiveWorker :=
  q.indexWorkers.find? fun worker => worker.folder.path = forwardSlashes (normalizedFolderPath folderPath)

def stopDeletedWorker (q : IndexQueue) (folderPath : String) : IndexQueue :=
  match deletedWorker q folderPath with
  | some worker => {q with indexWorkers:=q.indexWorkers.erase worker}
  | none => q

-- Where a thread stands: in a worker, in a resume thread before its query, with the folders
-- it has still to add, or about to ask for a pending one, in the deletion of a folder after
-- its workers were stopped, or in the failure of the model before the pending ones are cleared.
inductive Stage where
  | idle
  | working (worker : ActiveWorker)
  | resuming (isInit : Bool)
  | adding (folders : List Folder)
  | popping
  | listing (folderPath : String)
  | deleting (folders : List Folder)
  | failing
  deriving DecidableEq, Repr

-- `finish` tells the status that the worker leaves its folder with, if it writes one, `exists`
-- which paths are there.
inductive Input where
  | add (folder : Folder)
  | resume (isInit : Bool)
  | work (worker : ActiveWorker)
  | wake (isInit : Bool)
  | finish (status : Option FolderStatus)
  | existing (paths : List String)
  | remove (folderPath : String)
  | fail
  | proceed
  deriving DecidableEq, Repr

def queried (q : IndexQueue) (isInit : Bool) (paths : List String) : List Folder :=
  q.catalog.folders.rows.filter fun folder => folder.status ∈ statusesToResume isInit && folder.path ∈ paths

def removeRow (q : IndexQueue) (folder : Folder) : IndexQueue :=
  {q with catalog:=(FolderEvents.removeFolder (⟨q.catalog,fun _ => none⟩ : PhotoLibrary Unit) folder).catalog}

def finished (q : IndexQueue) (worker : ActiveWorker) (status : Option FolderStatus) : IndexQueue :=
  match status with
  | some status => {q with catalog:=updateFolderStatus q.catalog worker.folder.id status}
  | none => q

def stepThread (q : IndexQueue) : Stage → Input → Option (IndexQueue × Stage)
  | .idle,.add folder => some (addIndexWorker q (some folder),.idle)
  | .idle,.resume isInit => some (resumeIndexWorkers q isInit,.idle)
  | .idle,.work worker =>
    if worker ∈ q.started then some ({q with started:=q.started.erase worker},.working worker) else none
  | .idle,.wake isInit => if isInit ∈ q.resumes then some ({q with resumes:=q.resumes.erase isInit},.resuming isInit) else none
  | .idle,.remove folderPath => some (stopDeletedWorker q folderPath,.listing folderPath)
  -- The state that is set here is a local name of the function.
  | .idle,.fail => some ({q with modelFailed:=true},.failing)
  | .working worker,.finish status => some (leaveWorkers (finished q worker status) worker,.idle)
  | .resuming isInit,.existing paths =>
    some (q,if queried q isInit paths = [] then .popping else .adding (queried q isInit paths))
  | .adding [],.proceed => some (q,.idle)
  | .adding (folder :: folders),.existing paths =>
    some (if folder.path ∈ paths then addIndexWorker q (some folder) else q,if folders = [] then .idle else .adding folders)
  | .popping,.proceed => some (addIndexWorker q none,.idle)
  | .listing folderPath,.proceed => some (q,
      .deleting (if folderPath = "" then [] else getSubfolders q.catalog (normalizedFolderPath folderPath)))
  | .deleting [],.proceed => some (q,.idle)
  | .deleting (folder :: folders),.proceed => some (removeRow q folder,.deleting folders)
  | .failing,.proceed => some ({q with pendingIndexFolders:=[]},.idle)
  | _,_ => none

inductive Event where
  | register (folderPath : String)
  | status (folderId : Nat) (status : FolderStatus)
  | loading | ready
  deriving DecidableEq, Repr

def stepEvent (q : IndexQueue) : Event → Option IndexQueue
  | .register folderPath => some {q with catalog:=registerFolder q.catalog folderPath}
  | .status folderId status => some {q with catalog:=updateFolderStatus q.catalog folderId status}
  | .loading => some {q with modelState:=.loading}
  | .ready => some {q with modelState:=.ready}

variable {Index : Type*} [DecidableEq Index]

def indexing (Index : Type*) [DecidableEq Index] : System (Pool Index IndexQueue Stage) (Move Index Input Event) :=
  pool stepThread stepEvent

def Registered (q : IndexQueue) (folderId : Nat) : Prop := ∃ folder ∈ q.catalog.folders.rows, folder.id = folderId

def Stage.resumes : Stage → Bool
  | .resuming _ | .adding _ | .popping => true
  | _ => false

def Stage.mayAdd : Stage → Bool
  | .resuming _ | .adding (_ :: _) | .popping => true
  | _ => false

def Attended (s : Pool Index IndexQueue Stage) (i : Index) : Prop :=
  s.world.modelFailed = true ∨ s.world.pendingIndexFolders = [] ∨ s.world.resumes ≠ [] ∨
    ∃ j, j ≠ i ∧ (s.threads j).mayAdd = true

def waits (q : IndexQueue) (folder : Folder) : Bool :=
  !q.indexWorkers.isEmpty && !q.indexWorkers.any fun worker => worker.folder.id = folder.id

def deletes (folder other : Folder) : Bool := other.path ∈ folderPathVariants folder.path

-- A folder that becomes pending is registered and is not deleted while it is. A worker that
-- leaves the list, other than with its folder done, or a resume thread that finds nothing of
-- its folders any more, leaves no pending folder to nobody.
def OrderlyThread (s : Pool Index IndexQueue Stage) (i : Index) : Stage → Input → Prop
  | .idle,.add folder => waits s.world folder = true → Registered s.world folder.id
  | .idle,.remove folderPath => deletedWorker s.world folderPath ≠ none → Attended s i
  | .working worker,.finish status => worker ∈ s.world.indexWorkers →
      completed (finished s.world worker status).catalog worker.folder.path = false → Attended s i
  | .adding (folder :: folders),.existing paths =>
      (folder.path ∈ paths → waits s.world folder = true → Registered s.world folder.id) ∧
      (folder.path ∉ paths → folders = [] → s.world.indexWorkers ≠ [] ∨ Attended s i)
  | .deleting (folder :: _),.proceed => ∀ row ∈ s.world.catalog.folders.rows, deletes folder row = true →
      ∀ pending ∈ s.world.pendingIndexFolders, pending.id ≠ row.id
  | _,_ => True

def Orderly (s : Pool Index IndexQueue Stage) : Move Index Input Event → Prop
  | .thread i input => OrderlyThread s i (s.threads i) input
  | .environment _ => True

structure Discipline (q : IndexQueue) : Prop where
  single : q.indexWorkers.length ≤ maxWorkers
  apart : ∀ worker ∈ q.indexWorkers, ∀ folder ∈ q.pendingIndexFolders, folder.id ≠ worker.folder.id
  registered : ∀ folder ∈ q.pendingIndexFolders, Registered q folder.id

section Operations
variable {q : IndexQueue} {folder : Folder}

theorem add_frame (folder : Option Folder) : (addIndexWorker q folder).catalog = q.catalog ∧
    (addIndexWorker q folder).modelState = q.modelState ∧ (addIndexWorker q folder).modelFailed = q.modelFailed ∧
    (addIndexWorker q folder).resumes = q.resumes := by
  unfold addIndexWorker
  dsimp only
  repeat' split
  all_goals exact ⟨rfl,rfl,rfl,rfl⟩

theorem add_some (folder : Folder) : (addIndexWorker q (some folder)).indexWorkers ≠ [] := by
  unfold addIndexWorker
  dsimp only
  split
  · rename_i exists'
    obtain ⟨worker,member,-⟩ := List.any_eq_true.mp exists'
    exact List.ne_nil_of_mem member
  · split
    · exact List.append_ne_nil_of_right_ne_nil _ (List.cons_ne_nil _ _)
    · rename_i full
      have some : q.indexWorkers ≠ [] := by
        intro none
        rw [none] at full
        exact full (by decide)
      split <;> exact some

theorem add_discipline (discipline : Discipline q) (known : waits q folder = true → Registered q folder.id) :
    Discipline (addIndexWorker q (some folder)) := by
  unfold addIndexWorker
  dsimp only
  split
  · exact discipline
  · rename_i fresh
    split
    · rename_i room
      have none : q.indexWorkers = [] := List.length_eq_zero_iff.mp (Nat.lt_one_iff.mp room)
      refine ⟨?_,?_,?_⟩
      · rw [none]
        exact Nat.le_refl _
      · intro worker member other listed
        rw [none,List.nil_append,List.mem_singleton] at member
        rw [member]
        exact of_decide_eq_true (List.mem_filter.mp listed).2
      · exact fun other listed => discipline.registered other (List.mem_filter.mp listed).1
    · rename_i full
      split
      · exact discipline
      · have waiting : waits q folder = true := by
          unfold waits
          rw [Bool.and_eq_true,Bool.not_eq_true',Bool.not_eq_true',List.isEmpty_eq_false_iff]
          refine ⟨?_,by simpa using fresh⟩
          intro none
          rw [none] at full
          exact full (by decide)
        refine ⟨discipline.single,?_,?_⟩
        · intro worker member other listed
          rcases List.mem_append.mp listed with before | new
          · exact discipline.apart worker member other before
          · rw [List.mem_singleton.mp new]
            intro same
            exact fresh (List.any_eq_true.mpr ⟨worker,member,decide_eq_true same.symm⟩)
        · intro other listed
          rcases List.mem_append.mp listed with before | new
          · exact discipline.registered other before
          · rw [List.mem_singleton.mp new]
            exact known waiting

-- The last pending folder is taken and added like any other.
theorem pop_parts (q : IndexQueue) : (q.pendingIndexFolders = [] ∧ addIndexWorker q none = q) ∨
    ∃ folder ∈ q.pendingIndexFolders, addIndexWorker q none =
      addIndexWorker {q with pendingIndexFolders:=q.pendingIndexFolders.dropLast} (some folder) := by
  cases last : q.pendingIndexFolders.getLast? with
  | none =>
      left
      refine ⟨List.getLast?_eq_none_iff.mp last,?_⟩
      unfold addIndexWorker
      dsimp only
      rw [last]
  | some folder =>
      right
      refine ⟨folder,List.mem_of_getLast? last,?_⟩
      unfold addIndexWorker
      dsimp only
      rw [last]

theorem fewer_discipline {pending : List Folder} (discipline : Discipline q) (fewer : pending ⊆ q.pendingIndexFolders) :
    Discipline {q with pendingIndexFolders:=pending} :=
  ⟨discipline.single,fun worker member folder listed => discipline.apart worker member folder (fewer listed),
    fun folder listed => discipline.registered folder (fewer listed)⟩

theorem pop_discipline (discipline : Discipline q) : Discipline (addIndexWorker q none) ∧
    ((addIndexWorker q none).pendingIndexFolders = [] ∨ (addIndexWorker q none).indexWorkers ≠ []) := by
  rcases pop_parts q with ⟨none,same⟩ | ⟨folder,member,same⟩
  · rw [same]
    exact ⟨discipline,.inl none⟩
  · rw [same]
    have fewer := fewer_discipline discipline (List.dropLast_subset q.pendingIndexFolders)
    exact ⟨add_discipline fewer fun _ => discipline.registered folder member,.inr (add_some folder)⟩

theorem without_discipline {worker : ActiveWorker} (discipline : Discipline q) :
    Discipline {q with indexWorkers:=q.indexWorkers.erase worker} :=
  ⟨(List.length_erase_le ..).trans discipline.single,
    fun other member => discipline.apart other (List.mem_of_mem_erase member),discipline.registered⟩

theorem catalog_discipline {catalog : Catalog} (discipline : Discipline q)
    (kept : ∀ folder ∈ q.pendingIndexFolders, Registered {q with catalog} folder.id) : Discipline {q with catalog} :=
  ⟨discipline.single,discipline.apart,kept⟩

theorem resume_discipline {isInit : Bool} (discipline : Discipline q) : Discipline (resumeIndexWorkers q isInit) := by
  unfold resumeIndexWorkers
  split
  · exact discipline
  · exact ⟨discipline.single,discipline.apart,discipline.registered⟩

theorem registered_status {folderId : Nat} {status : FolderStatus} {id : Nat} (known : Registered q id) :
    Registered {q with catalog:=updateFolderStatus q.catalog folderId status} id := by
  obtain ⟨folder,member,same⟩ := known
  refine ⟨_,List.mem_map.mpr ⟨folder,member,rfl⟩,?_⟩
  split <;> exact same

theorem finished_discipline {worker : ActiveWorker} {status : Option FolderStatus} (discipline : Discipline q) :
    Discipline (finished q worker status) := by
  cases status with
  | none => exact discipline
  | some status => exact catalog_discipline discipline fun folder listed => registered_status (discipline.registered folder listed)

theorem registered_insert {path : String} {id : Nat} (known : Registered q id) :
    Registered {q with catalog:=insertFolder q.catalog path} id := by
  obtain ⟨folder,member,same⟩ := known
  refine ⟨folder,?_,same⟩
  unfold insertFolder Tables.Table.upsert
  dsimp only
  split
  · exact member
  · split
    · rename_i inserted
      dsimp only
      rw [(Tables.insert_parts inserted).2]
      exact List.mem_append_left _ member
    · exact List.mem_map.mpr ⟨folder,member,by split <;> rfl⟩

theorem registered_register {folderPath : String} {id : Nat} (known : Registered q id) :
    Registered {q with catalog:=registerFolder q.catalog folderPath} id := by
  unfold registerFolder
  dsimp only
  split
  · split
    · exact registered_insert known
    · exact known
  · exact registered_insert known

theorem registered_remove {id : Nat} (known : Registered q id)
    (other : ∀ row ∈ q.catalog.folders.rows, deletes folder row = true → id ≠ row.id) : Registered (removeRow q folder) id := by
  obtain ⟨row,member,same⟩ := known
  refine ⟨row,Tables.mem_delete.mpr ⟨member,decide_eq_false ?_⟩,same⟩
  rw [List.flatMap_singleton]
  exact fun deleted => other row member (decide_eq_true deleted) same.symm

end Operations

def Looked (q : IndexQueue) (threads : Index → Stage) : Prop :=
  q.modelFailed = true ∨ q.pendingIndexFolders = [] ∨ q.indexWorkers ≠ [] ∨ q.resumes ≠ [] ∨
    ∃ i, (threads i).mayAdd = true

structure Sound (s : Pool Index IndexQueue Stage) : Prop where
  discipline : Discipline s.world
  model : s.world.modelState ≠ .failed
  looked : Looked s.world s.threads

section Steps
variable {s : Pool Index IndexQueue Stage} {i : Index} {stage next : Stage} {q : IndexQueue}

theorem looked_moves (looked : Looked q s.threads) (at' : s.threads i = stage)
    (kept : stage.mayAdd = true → next.mayAdd = true) : Looked q (Function.update s.threads i next) := by
  refine looked.imp_right fun rest => rest.imp_right fun rest => rest.imp_right fun rest => rest.imp_right ?_
  rintro ⟨j,adds⟩
  by_cases same : j = i
  · subst same
    rw [at'] at adds
    exact ⟨j,by rw [Function.update_self]; exact kept adds⟩
  · exact ⟨j,by rw [Function.update_of_ne same]; exact adds⟩

theorem looked_here (adds : next.mayAdd = true) : Looked q (Function.update s.threads i next) :=
  .inr (.inr (.inr (.inr ⟨i,by rw [Function.update_self]; exact adds⟩)))

theorem looked_workers (some : q.indexWorkers ≠ []) : Looked q (Function.update s.threads i next) := .inr (.inr (.inl some))

theorem looked_attended (attended : Attended s i) (failed : q.modelFailed = s.world.modelFailed)
    (pending : q.pendingIndexFolders = s.world.pendingIndexFolders) (resumes : q.resumes = s.world.resumes) :
    Looked q (Function.update s.threads i next) := by
  unfold Looked
  rw [failed,pending,resumes]
  rcases attended with failed | none | some | ⟨j,other,adds⟩
  · exact .inl failed
  · exact .inr (.inl none)
  · exact .inr (.inr (.inr (.inl some)))
  · exact .inr (.inr (.inr (.inr ⟨j,by rw [Function.update_of_ne other]; exact adds⟩)))

theorem sound_step {move : Move Index Input Event} {after : Pool Index IndexQueue Stage} (sound : Sound s)
    (orderly : Orderly s move) (taken : (indexing Index).step s move = some after) : Sound after := by
  obtain ⟨discipline,model,looked⟩ := sound
  cases move with
  | environment event =>
      obtain ⟨world,moved,rfl⟩ := environment_parts taken
      cases event with
      | register folderPath =>
          cases moved
          exact ⟨catalog_discipline discipline fun folder listed => registered_register (discipline.registered folder listed),
            model,looked⟩
      | status folderId status =>
          cases moved
          exact ⟨catalog_discipline discipline fun folder listed => registered_status (discipline.registered folder listed),
            model,looked⟩
      | loading =>
          cases moved
          exact ⟨⟨discipline.single,discipline.apart,discipline.registered⟩,nofun,looked⟩
      | ready =>
          cases moved
          exact ⟨⟨discipline.single,discipline.apart,discipline.registered⟩,nofun,looked⟩
  | thread i input =>
      obtain ⟨world,next,moved,rfl⟩ := thread_parts taken
      unfold Orderly at orderly
      dsimp only at orderly
      unfold OrderlyThread at orderly
      generalize at' : s.threads i = stage at moved orderly
      unfold stepThread at moved
      split at moved
      · rename_i folder
        cases moved
        exact ⟨add_discipline discipline orderly,(add_frame _).2.1.trans_ne model,looked_workers (add_some folder)⟩
      · rename_i isInit
        cases moved
        refine ⟨resume_discipline discipline,?_,?_⟩
        · unfold resumeIndexWorkers
          rw [if_neg model]
          exact model
        · unfold resumeIndexWorkers
          rw [if_neg model]
          exact .inr (.inr (.inr (.inl (List.append_ne_nil_of_right_ne_nil _ (List.cons_ne_nil _ _)))))
      · split at moved
        · cases moved
          exact ⟨⟨discipline.single,discipline.apart,discipline.registered⟩,model,looked_moves looked at' nofun⟩
        · cases moved
      · split at moved
        · cases moved
          exact ⟨⟨discipline.single,discipline.apart,discipline.registered⟩,model,looked_here rfl⟩
        · cases moved
      · rename_i folderPath
        cases moved
        unfold stopDeletedWorker
        cases found : deletedWorker s.world folderPath with
        | none => exact ⟨discipline,model,looked_moves looked at' nofun⟩
        | some worker =>
            have attended := orderly (by rw [found]; exact nofun)
            exact ⟨without_discipline discipline,model,looked_attended attended rfl rfl rfl⟩
      · cases moved
        exact ⟨⟨discipline.single,discipline.apart,discipline.registered⟩,model,.inl rfl⟩
      · rename_i worker status
        cases moved
        have same : (finished s.world worker status).indexWorkers = s.world.indexWorkers ∧
            (finished s.world worker status).modelState = s.world.modelState ∧
            (finished s.world worker status).modelFailed = s.world.modelFailed ∧
            (finished s.world worker status).pendingIndexFolders = s.world.pendingIndexFolders ∧
            (finished s.world worker status).resumes = s.world.resumes := by
          unfold finished
          split <;> exact ⟨rfl,rfl,rfl,rfl,rfl⟩
        obtain ⟨workers,state,failed,pending,resumes⟩ := same
        have kept := @finished_discipline _ worker status discipline
        unfold leaveWorkers
        split
        · rename_i active
          dsimp only
          cases done : completed (finished s.world worker status).catalog worker.folder.path with
          | true =>
              rw [if_pos rfl]
              unfold resumeIndexWorkers
              rw [if_neg (state.trans_ne model)]
              have without := @without_discipline _ worker kept
              exact ⟨⟨without.single,without.apart,without.registered⟩,state.trans_ne model,
                .inr (.inr (.inr (.inl (List.append_ne_nil_of_right_ne_nil _ (List.cons_ne_nil _ _)))))⟩
          | false =>
              rw [if_neg nofun]
              have attended := orderly (workers ▸ active) done
              exact ⟨without_discipline kept,state.trans_ne model,looked_attended attended failed pending resumes⟩
        · refine ⟨kept,state.trans_ne model,?_⟩
          have looked' : Looked s.world (Function.update s.threads i .idle) := looked_moves looked at' nofun
          unfold Looked at looked' ⊢
          rw [failed,pending,workers,resumes]
          exact looked'
      · rename_i isInit paths
        cases moved
        refine ⟨discipline,model,looked_here ?_⟩
        split
        · rfl
        · rename_i some
          cases listed : queried s.world isInit paths with
          | nil => exact absurd listed some
          | cons _ _ => rfl
      · cases moved
        exact ⟨discipline,model,looked_moves looked at' nofun⟩
      · rename_i folder folders paths
        cases moved
        obtain ⟨known,leaves⟩ := orderly
        by_cases there : folder.path ∈ paths
        · rw [if_pos there]
          exact ⟨add_discipline discipline (known there),(add_frame _).2.1.trans_ne model,looked_workers (add_some folder)⟩
        · rw [if_neg there]
          refine ⟨discipline,model,?_⟩
          cases folders with
          | nil =>
              rcases leaves there rfl with some | attended
              · exact looked_workers some
              · exact looked_attended attended rfl rfl rfl
          | cons _ _ => exact looked_here rfl
      · cases moved
        obtain ⟨kept,ends⟩ := pop_discipline discipline
        refine ⟨kept,(add_frame _).2.1.trans_ne model,?_⟩
        rcases ends with none | some
        · exact .inr (.inl none)
        · exact looked_workers some
      · cases moved
        exact ⟨discipline,model,looked_moves looked at' nofun⟩
      · cases moved
        exact ⟨discipline,model,looked_moves looked at' nofun⟩
      · rename_i folder folders
        cases moved
        refine ⟨catalog_discipline discipline fun pending listed => ?_,model,looked_moves looked at' nofun⟩
        exact registered_remove (discipline.registered pending listed) fun row member deleted =>
          orderly row member deleted pending listed
      · cases moved
        exact ⟨fewer_discipline discipline (List.nil_subset _),model,.inr (.inl rfl)⟩
      · cases moved

end Steps

def start (Index : Type*) (catalog : Catalog) : Pool Index IndexQueue Stage :=
  ⟨⟨catalog,.ready,false,[],[],0,[],[]⟩,fun _ => .idle⟩

omit [DecidableEq Index] in
theorem start_sound (catalog : Catalog) : Sound (start Index catalog) := by
  refine ⟨⟨Nat.zero_le _,?_,?_⟩,nofun,.inr (.inl rfl)⟩
  · exact fun _ member => absurd member List.not_mem_nil
  · exact fun _ member => absurd member List.not_mem_nil

def Resuming (s : Pool Index IndexQueue Stage) : Prop := s.world.resumes ≠ [] ∨ ∃ i, (s.threads i).resumes = true

-- The lists of any orderly run: one worker at most, no folder active and pending, none pending
-- that is not registered, and none at all when nobody is there to come to it.
theorem queue_disciplined {catalog : Catalog} {s : Pool Index IndexQueue Stage}
    (path : Reaches (indexing Index) Orderly (start Index catalog) s) :
    Discipline s.world ∧ (s.world.indexWorkers = [] → ¬ Resuming s → s.world.modelFailed = false →
      s.world.pendingIndexFolders = []) := by
  have sound : Sound s :=
    reaches_preserves (fun _ _ _ before orderly taken => sound_step before orderly taken) (start_sound catalog) path
  refine ⟨sound.discipline,?_⟩
  intro none quiet works
  rcases sound.looked with failed | empty | some | resumes | ⟨i,adds⟩
  · rw [works] at failed
    cases failed
  · exact empty
  · exact absurd none some
  · exact absurd (.inl resumes) quiet
  · refine absurd (.inr ⟨i,?_⟩) quiet
    revert adds
    cases s.threads i <;> simp [Stage.mayAdd,Stage.resumes]

instance [Fintype Index] (s : Pool Index IndexQueue Stage) (i : Index) : Decidable (Attended s i) :=
  inferInstanceAs (Decidable (_ ∨ _ ∨ _ ∨ ∃ j, j ≠ i ∧ (s.threads j).mayAdd = true))

instance (q : IndexQueue) (folderId : Nat) : Decidable (Registered q folderId) :=
  inferInstanceAs (Decidable (∃ folder ∈ q.catalog.folders.rows, folder.id = folderId))

instance [Fintype Index] (s : Pool Index IndexQueue Stage) (i : Index) (stage : Stage) (input : Input) :
    Decidable (OrderlyThread s i stage input) := by
  cases stage with
  | adding folders => cases folders <;> cases input <;> dsimp only [OrderlyThread] <;> infer_instance
  | deleting folders => cases folders <;> cases input <;> dsimp only [OrderlyThread] <;> infer_instance
  | _ => cases input <;> dsimp only [OrderlyThread] <;> infer_instance

instance [Fintype Index] (s : Pool Index IndexQueue Stage) (move : Move Index Input Event) : Decidable (Orderly s move) :=
  match move with
  | .thread i input => inferInstanceAs (Decidable (OrderlyThread s i (s.threads i) input))
  | .environment _ => isTrue trivial

def twoFolders : Catalog := ⟨⟨[⟨1,"/a/",.scanning⟩,⟨2,"/b/",.scanning⟩],by decide⟩,3,.empty,1⟩

def bothAdded : List (Move (Fin 2) Input Event) :=
  [.thread 0 (.add ⟨1,"/a/",.scanning⟩),.thread 0 (.add ⟨2,"/b/",.scanning⟩),.thread 1 (.work ⟨0,⟨1,"/a/",.scanning⟩⟩)]

theorem second_folder_follows : ∃ s, Reaches (indexing (Fin 2)) Orderly (start (Fin 2) twoFolders) s ∧
    s.world.indexWorkers.map (fun worker => worker.folder.id) = [2] ∧ Discipline s.world ∧
    (s.world.indexWorkers = [] → ¬ Resuming s → s.world.modelFailed = false → s.world.pendingIndexFolders = []) := by
  obtain ⟨s,path,seen⟩ := checkedRun_exhibits (indexing (Fin 2)) Orderly (start (Fin 2) twoFolders)
    (bothAdded ++ [.thread 1 (.finish (some .indexed)),.thread 1 (.wake false),.thread 1 (.existing ["/a/","/b/"]),
      .thread 1 (.existing ["/a/","/b/"])])
    (fun s => s.world.indexWorkers.map (fun worker => worker.folder.id) = [2]) (by decide +kernel)
  exact ⟨s,path,of_decide_eq_true seen,queue_disciplined path⟩

-- The deletion takes the worker from the list, and a worker that is not there any more does
-- not look at the pending folders.
theorem pending_folder_forgotten : ¬ ∀ s, Reachable (indexing (Fin 2)) (start (Fin 2) twoFolders) s →
    Discipline s.world ∧ (s.world.indexWorkers = [] → ¬ Resuming s → s.world.modelFailed = false →
      s.world.pendingIndexFolders = []) := by
  intro all
  obtain ⟨s,path,seen⟩ := checkedRun_exhibits (indexing (Fin 2)) (fun _ _ => True) (start (Fin 2) twoFolders)
    (bothAdded ++ [.thread 0 (.remove "/a"),.thread 0 .proceed,.thread 0 .proceed,.thread 0 .proceed,.thread 1 (.finish none)])
    (fun s => decide (s.world.indexWorkers = []) && decide (s.world.resumes = []) &&
      decide (∀ i, (s.threads i).resumes = false) && decide (s.world.modelFailed = false) &&
      decide (s.world.pendingIndexFolders ≠ [])) (by decide +kernel)
  simp only [Bool.and_eq_true,decide_eq_true_eq] at seen
  obtain ⟨⟨⟨⟨workers,resumes⟩,threads⟩,works⟩,pending⟩ := seen
  refine pending ((all s path).2 workers ?_ works)
  rintro (some | ⟨i,resuming⟩)
  · exact some resumes
  · rw [threads i] at resuming
    cases resuming

end ImageSearch.IndexScheduling
