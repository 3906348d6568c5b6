import ImageSearch.FolderEvents
import ImageSearch.Threads

namespace ImageSearch.EventScheduling
open FolderEvents Transitions Threads

inductive EventType where
  | created | deleted | moved
  deriving DecidableEq, Repr

structure Event where
  eventType : EventType
  srcPath : String
  destPath : String
  deriving DecidableEq, Repr

-- What the module's threads share, with a record of the events that arrived, of those that
-- were handed to a handler, and of the batches between.
structure Scheduler where
  eventBuffer : List Event
  indexWorkers : List Nat
  nextWorker : Nat
  started : List Nat
  arrived : List Event
  inHand : List (Nat × List Event)
  nextBatch : Nat
  handled : List Event
  deriving DecidableEq, Repr

-- Where a thread stands: in the callback of an event or in a creation worker, and from either
-- in _try_schedule_next_batch. `spawning` is in a handler, with the workers that it has still
-- to start; a worker is registered before its thread is started.
inductive Stage where
  | idle
  | delaying
  | calling
  | holding (batch : Nat) (events : List Event)
  | spawning (chunks : List (List String))
  | registered (worker : Nat) (chunks : List (List String))
  | working (worker : Nat)
  deriving DecidableEq, Repr

-- `work` is the system running a thread that was started. A handler is told which of the moved
-- paths it takes for new ones, and which paths are files.
inductive Input where
  | publish (event : Event)
  | work (worker : Nat)
  | handle (created files : List String)
  | proceed
  deriving DecidableEq, Repr

def leadingRun : List Event → List Event
  | [] => []
  | event :: rest => event :: rest.takeWhile fun next => next.eventType = event.eventType

-- The batches that the handler of the events starts creation workers for.
def newBatches (events : List Event) (created files : List String) : List (List String) :=
  match events.head?.map Event.eventType with
  | some .created => onCreated ((events.map Event.srcPath).filter fun path => path ∈ files)
  | some .moved => onCreated ((events.map Event.destPath).filter fun path => path ∈ created && path ∈ files)
  | _ => []

def stepThread (s : Scheduler) : Stage → Input → Option (Scheduler × Stage)
  | .idle,.publish event => some ({s with
      eventBuffer:=s.eventBuffer ++ [event]
      arrived:=s.arrived ++ [event]},.delaying)
  | .idle,.work worker => if worker ∈ s.started then some ({s with started:=s.started.erase worker},.working worker) else none
  | .delaying,.proceed => some (s,.calling)
  | .calling,.proceed =>
    if s.eventBuffer = [] ∨ s.indexWorkers ≠ [] then some (s,.idle)
    else
      let toBeHandled := leadingRun s.eventBuffer
      some ({s with
        eventBuffer:=s.eventBuffer.drop toBeHandled.length
        inHand:=s.inHand ++ [(s.nextBatch,toBeHandled)]
        nextBatch:=s.nextBatch + 1},.holding s.nextBatch toBeHandled)
  | .holding batch events,.handle created files => some ({s with
      inHand:=s.inHand.erase (batch,events)
      handled:=s.handled ++ events},.spawning (newBatches events created files))
  | .spawning [],.proceed => some (s,.idle)
  | .spawning (_ :: chunks),.proceed => some ({s with
      indexWorkers:=s.indexWorkers ++ [s.nextWorker]
      nextWorker:=s.nextWorker + 1},.registered s.nextWorker chunks)
  | .registered worker chunks,.proceed => some ({s with started:=s.started ++ [worker]},.spawning chunks)
  | .working worker,.proceed => some ({s with indexWorkers:=s.indexWorkers.erase worker},.calling)
  | _,_ => none

variable {Index : Type*} [DecidableEq Index]

def scheduling (Index : Type*) [DecidableEq Index] : System (Pool Index Scheduler Stage) (Move Index Input Empty) :=
  pool stepThread fun _ _ => none

def quietScheduler : Scheduler := ⟨[],[],0,[],[],[],0,[]⟩

def start (Index : Type*) : Pool Index Scheduler Stage := ⟨quietScheduler,fun _ => .idle⟩

-- Whether a call of _try_schedule_next_batch is to come of where a thread stands: its own, or
-- that of a worker that it has or will start.
def Stage.callsLater : Stage → Bool
  | .idle | .spawning [] => false
  | _ => true

-- A batch is handed over in its turn, and where no creation worker comes of it the buffer is
-- empty or another call is to come.
def Handing (s : Pool Index Scheduler Stage) : Move Index Input Empty → Prop
  | .thread i (.handle created files) =>
    match s.threads i with
    | .holding batch events => s.world.inHand.head? = some (batch,events) ∧
        (newBatches events created files ≠ [] ∨ s.world.eventBuffer = [] ∨ s.world.started ≠ [] ∨
          ∃ j, j ≠ i ∧ (s.threads j).callsLater = true)
    | _ => True
  | _ => True

def Quiet (s : Pool Index Scheduler Stage) : Prop :=
  s.world.indexWorkers = [] ∧ s.world.started = [] ∧ ∀ i, s.threads i = .idle

def carries (worker : Nat) : Stage → Prop
  | .registered other _ => other = worker
  | .working other => other = worker
  | _ => False

structure Accounted (s : Pool Index Scheduler Stage) : Prop where
  order : s.world.handled ++ s.world.inHand.flatMap Prod.snd ++ s.world.eventBuffer = s.world.arrived
  workers : s.world.indexWorkers.Nodup
  workerIds : ∀ worker ∈ s.world.indexWorkers, worker < s.world.nextWorker
  served : ∀ worker ∈ s.world.indexWorkers, worker ∈ s.world.started ∨ ∃ i, carries worker (s.threads i)
  batches : (s.world.inHand.map Prod.fst).Nodup
  batchIds : ∀ entry ∈ s.world.inHand, entry.1 < s.world.nextBatch
  held : ∀ entry ∈ s.world.inHand, ∃ i, s.threads i = .holding entry.1 entry.2
  owed : s.world.eventBuffer = [] ∨ s.world.started ≠ [] ∨ ∃ i, (s.threads i).callsLater = true

theorem run_starts (buffer : List Event) : leadingRun buffer ++ buffer.drop (leadingRun buffer).length = buffer := by
  cases buffer with
  | nil => rfl
  | cons event rest =>
      unfold leadingRun
      rw [List.length_cons,List.drop_succ_cons,List.cons_append]
      congr 1
      exact List.prefix_iff_eq_append.mp (List.takeWhile_prefix _)

omit [DecidableEq Index] in
theorem start_accounted : Accounted (start Index) := by
  refine ⟨rfl,List.nodup_nil,?_,?_,List.nodup_nil,?_,?_,.inl rfl⟩
  all_goals exact fun _ member => absurd member List.not_mem_nil

theorem update_exists {p : Stage → Prop} {threads : Index → Stage} {i : Index} {next : Stage} (there : ∃ j, p (threads j))
    (kept : p (threads i) → p next) : ∃ j, p (Function.update threads i next j) := by
  obtain ⟨j,holds⟩ := there
  by_cases same : j = i
  · subst same
    exact ⟨j,by rw [Function.update_self]; exact kept holds⟩
  · exact ⟨j,by rw [Function.update_of_ne same]; exact holds⟩

theorem update_here {p : Stage → Prop} {threads : Index → Stage} {i : Index} {next : Stage} (holds : p next) :
    ∃ j, p (Function.update threads i next j) := ⟨i,by rw [Function.update_self]; exact holds⟩

variable {s : Pool Index Scheduler Stage} {i : Index} {stage next : Stage} {world : Scheduler}

theorem served_moves (served : ∀ worker ∈ s.world.indexWorkers, worker ∈ s.world.started ∨ ∃ i, carries worker (s.threads i))
    (at' : s.threads i = stage) (kept : ∀ worker, carries worker stage → carries worker next) :
    ∀ worker ∈ s.world.indexWorkers, worker ∈ s.world.started ∨ ∃ j, carries worker (Function.update s.threads i next j) := by
  intro worker member
  rcases served worker member with started | there
  · exact .inl started
  · exact .inr (update_exists there (at' ▸ kept worker))

theorem held_moves (held : ∀ entry ∈ s.world.inHand, ∃ i, s.threads i = .holding entry.1 entry.2)
    (at' : s.threads i = stage) (kept : ∀ batch events, stage ≠ .holding batch events) :
    ∀ entry ∈ s.world.inHand, ∃ j, Function.update s.threads i next j = .holding entry.1 entry.2 := by
  intro entry member
  refine @update_exists _ _ (fun stage => stage = .holding entry.1 entry.2) _ _ _ (held entry member) ?_
  intro holding
  exact absurd (at'.symm.trans holding) (kept _ _)

theorem owed_moves (owed : s.world.eventBuffer = [] ∨ s.world.started ≠ [] ∨ ∃ i, (s.threads i).callsLater = true)
    (at' : s.threads i = stage) (kept : stage.callsLater = true → next.callsLater = true) :
    s.world.eventBuffer = [] ∨ s.world.started ≠ [] ∨ ∃ j, (Function.update s.threads i next j).callsLater = true := by
  refine owed.imp_right fun rest => rest.imp_right fun there => ?_
  exact @update_exists _ _ (fun stage => stage.callsLater = true) _ _ _ there (at' ▸ kept)

theorem carries_calls {worker : Nat} (carrying : carries worker stage) : stage.callsLater = true := by
  cases stage with
  | registered | working => rfl
  | _ => cases carrying

theorem fresh_appended {ids : List Nat} {fresh : Nat} (distinct : ids.Nodup) (given : ∀ id ∈ ids, id < fresh) :
    (ids ++ [fresh]).Nodup ∧ ∀ id ∈ ids ++ [fresh], id < fresh + 1 := by
  constructor
  · refine List.Nodup.append distinct (List.nodup_singleton _) ?_
    intro id member same
    exact absurd (given id member) (by rw [List.mem_singleton.mp same]; exact Nat.lt_irrefl _)
  · intro id member
    rcases List.mem_append.mp member with before | new
    · exact Nat.lt_succ_of_lt (given id before)
    · rw [List.mem_singleton.mp new]
      exact Nat.lt_succ_self _

theorem calling_accounted (accounted : Accounted s) (at' : s.threads i = .calling)
    (moved : stepThread s.world .calling .proceed = some (world,next)) : Accounted ⟨world,Function.update s.threads i next⟩ := by
  obtain ⟨order,workers,workerIds,served,batches,batchIds,held,owed⟩ := accounted
  unfold stepThread at moved
  dsimp only at moved
  split at moved
  · rename_i gives
    cases moved
    refine ⟨order,workers,workerIds,served_moves served at' nofun,batches,batchIds,held_moves held at' nofun,?_⟩
    rcases gives with empty | active
    · exact .inl empty
    · -- A registered worker calls when it is done.
      obtain ⟨worker,member⟩ := List.exists_mem_of_ne_nil _ active
      rcases served worker member with started | there
      · exact .inr (.inl (List.ne_nil_of_mem started))
      · obtain ⟨j,carrying⟩ := @update_exists _ _ (carries worker) s.threads i .idle there (by rw [at']; exact nofun)
        exact .inr (.inr ⟨j,carries_calls carrying⟩)
  · cases moved
    obtain ⟨distinct,given⟩ := fresh_appended batches (List.forall_mem_map.mpr batchIds)
    refine ⟨?_,workers,workerIds,served_moves served at' nofun,?_,?_,?_,?_⟩
    · dsimp only
      rw [List.flatMap_append,List.flatMap_singleton,← order]
      simp only [List.append_assoc,run_starts]
    · dsimp only
      rw [List.map_append]
      exact distinct
    · intro entry member
      refine given entry.1 ?_
      obtain before | new := List.mem_append.mp member
      · exact List.mem_append_left _ (List.mem_map_of_mem before)
      · rw [List.mem_singleton.mp new]
        exact List.mem_append_right _ (List.mem_singleton_self _)
    · intro entry member
      rcases List.mem_append.mp member with before | new
      · exact held_moves held at' nofun entry before
      · rw [List.mem_singleton.mp new]
        exact ⟨i,Function.update_self _ _ _⟩
    · exact .inr (.inr (update_here (p := fun stage => stage.callsLater = true) rfl))

theorem handled_accounted {batch : Nat} {events : List Event} {created files : List String}
    (accounted : Accounted s) (at' : s.threads i = .holding batch events)
    (turn : s.world.inHand.head? = some (batch,events))
    (passes : newBatches events created files ≠ [] ∨ s.world.eventBuffer = [] ∨ s.world.started ≠ [] ∨
      ∃ j, j ≠ i ∧ (s.threads j).callsLater = true) :
    Accounted ⟨{s.world with inHand:=s.world.inHand.erase (batch,events),handled:=s.world.handled ++ events},
      Function.update s.threads i (.spawning (newBatches events created files))⟩ := by
  obtain ⟨order,workers,workerIds,served,batches,batchIds,held,owed⟩ := accounted
  obtain ⟨rest,front⟩ : ∃ rest, s.world.inHand = (batch,events) :: rest := List.head?_eq_some_iff.mp turn
  have left : s.world.inHand.erase (batch,events) = rest := by rw [front,List.erase_cons_head]
  have distinct : batch ∉ rest.map Prod.fst ∧ (rest.map Prod.fst).Nodup := by
    rw [front,List.map_cons,List.nodup_cons] at batches
    exact batches
  refine ⟨?_,workers,workerIds,served_moves served at' nofun,?_,?_,?_,?_⟩
  · dsimp only
    rw [left,← order,front,List.flatMap_cons]
    simp only [List.append_assoc]
  · dsimp only
    rw [left]
    exact distinct.2
  · intro entry member
    exact batchIds entry (List.mem_of_mem_erase member)
  · intro entry member
    dsimp only at member
    rw [left] at member
    refine update_exists (p := fun stage => stage = .holding entry.1 entry.2) (held entry (front ▸ List.mem_cons_of_mem _ member)) ?_
    intro holding
    have same := (Stage.holding.inj (at'.symm.trans holding)).1
    exact absurd (same ▸ List.mem_map_of_mem member) distinct.1
  · rcases passes with starts | empty | started | ⟨j,other,calls⟩
    · refine .inr (.inr (update_here (p := fun stage => stage.callsLater = true) ?_))
      cases chunks : newBatches events created files with
      | nil => exact absurd chunks starts
      | cons _ _ => rfl
    · exact .inl empty
    · exact .inr (.inl started)
    · exact .inr (.inr ⟨j,by dsimp only; rw [Function.update_of_ne other]; exact calls⟩)

theorem accounted_step {move : Move Index Input Empty} {after : Pool Index Scheduler Stage} (accounted : Accounted s)
    (handing : Handing s move) (taken : (scheduling Index).step s move = some after) : Accounted after := by
  obtain ⟨order,workers,workerIds,served,batches,batchIds,held,owed⟩ := accounted
  cases move with
  | environment event => cases event
  | thread i input =>
      obtain ⟨world,next,moved,rfl⟩ := thread_parts taken
      generalize at' : s.threads i = stage at moved
      unfold stepThread at moved
      split at moved
      · rename_i event
        cases moved
        refine ⟨?_,workers,workerIds,served_moves served at' nofun,batches,batchIds,held_moves held at' nofun,?_⟩
        · dsimp only
          rw [← order,← List.append_assoc]
        · exact .inr (.inr (update_here (p := fun stage => stage.callsLater = true) rfl))
      · rename_i worker
        split at moved
        · rename_i started
          cases moved
          refine ⟨order,workers,workerIds,?_,batches,batchIds,held_moves held at' nofun,?_⟩
          · intro other member
            by_cases same : other = worker
            · exact .inr (update_here (p := carries other) same.symm)
            · rcases served other member with before | there
              · exact .inl ((List.mem_erase_of_ne same).mpr before)
              · exact .inr (update_exists there (by rw [at']; exact nofun))
          · exact .inr (.inr (update_here (p := fun stage => stage.callsLater = true) rfl))
        · cases moved
      · cases moved
        exact ⟨order,workers,workerIds,served_moves served at' nofun,batches,batchIds,held_moves held at' nofun,
          owed_moves owed at' fun _ => rfl⟩
      · exact calling_accounted ⟨order,workers,workerIds,served,batches,batchIds,held,owed⟩ at' moved
      · rename_i batch events created files
        cases moved
        unfold Handing at handing
        dsimp only at handing
        rw [at'] at handing
        exact handled_accounted ⟨order,workers,workerIds,served,batches,batchIds,held,owed⟩ at' handing.1 handing.2
      · cases moved
        exact ⟨order,workers,workerIds,served_moves served at' nofun,batches,batchIds,held_moves held at' nofun,
          owed_moves owed at' nofun⟩
      · rename_i chunk chunks
        cases moved
        obtain ⟨distinct,given⟩ := fresh_appended workers workerIds
        refine ⟨order,distinct,given,?_,batches,batchIds,held_moves held at' nofun,owed_moves owed at' fun _ => rfl⟩
        intro worker member
        rcases List.mem_append.mp member with before | new
        · exact served_moves served at' nofun worker before
        · exact .inr (update_here (p := carries worker) (List.mem_singleton.mp new).symm)
      · rename_i worker chunks
        cases moved
        refine ⟨order,workers,workerIds,?_,batches,batchIds,held_moves held at' nofun,?_⟩
        · intro other member
          by_cases same : other = worker
          · exact .inl (List.mem_append_right _ (List.mem_singleton.mpr same))
          · rcases served other member with before | there
            · exact .inl (List.mem_append_left _ before)
            · refine .inr (update_exists there ?_)
              rw [at']
              exact fun carrying => absurd carrying.symm same
        · exact .inr (.inl (List.append_ne_nil_of_right_ne_nil _ (List.cons_ne_nil _ _)))
      · rename_i worker
        cases moved
        refine ⟨order,workers.erase _,?_,?_,batches,batchIds,held_moves held at' nofun,owed_moves owed at' fun _ => rfl⟩
        · exact fun other member => workerIds other (List.mem_of_mem_erase member)
        · intro other member
          obtain ⟨different,there⟩ := workers.mem_erase_iff.mp member
          rcases served other there with before | carried
          · exact .inl before
          · refine .inr (update_exists carried ?_)
            rw [at']
            exact fun carrying => absurd carrying.symm different
      · cases moved

-- In a run whose batches are handed over like that the events are handled once each and in
-- their order, and all of them when nothing is under way.
theorem nothing_left_behind (path : Reaches (scheduling Index) Handing (start Index) s) :
    s.world.handled <+: s.world.arrived ∧ (Quiet s → s.world.eventBuffer = [] ∧ s.world.handled = s.world.arrived) := by
  have accounted : Accounted s :=
    reaches_preserves (fun _ _ _ before handing taken => accounted_step before handing taken) start_accounted path
  refine ⟨⟨_,by rw [← accounted.order,List.append_assoc]⟩,?_⟩
  rintro ⟨-,none,idle⟩
  have empty : s.world.eventBuffer = [] := by
    rcases accounted.owed with empty | started | ⟨i,calls⟩
    · exact empty
    · exact absurd none started
    · rw [idle i] at calls
      cases calls
  have handed : s.world.inHand = [] := by
    refine List.eq_nil_iff_forall_not_mem.mpr fun entry member => ?_
    obtain ⟨i,holding⟩ := accounted.held entry member
    rw [idle i] at holding
    cases holding
  refine ⟨empty,?_⟩
  rw [← accounted.order,empty,handed,List.flatMap_nil,List.append_nil,List.append_nil]

instance [Fintype Index] (s : Pool Index Scheduler Stage) (move : Move Index Input Empty) : Decidable (Handing s move) :=
  match move with
  | .thread i (.handle created files) =>
    match at' : s.threads i with
    | .holding batch events => decidable_of_iff (s.world.inHand.head? = some (batch,events) ∧
        (newBatches events created files ≠ [] ∨ s.world.eventBuffer = [] ∨ s.world.started ≠ [] ∨
          ∃ j, j ≠ i ∧ (s.threads j).callsLater = true)) (by simp [Handing,at'])
    | .idle | .delaying | .calling | .spawning _ | .registered .. | .working _ => isTrue (by simp [Handing,at'])
  | .thread _ (.publish _) | .thread _ (.work _) | .thread _ .proceed | .environment _ => isTrue trivial

def photoAppears : List (Move (Fin 2) Input Empty) :=
  [.thread 0 (.publish ⟨.created,"/photos/a.jpg",""⟩),.thread 0 .proceed,.thread 0 .proceed,
    .thread 0 (.handle [] ["/photos/a.jpg"]),.thread 0 .proceed,.thread 0 .proceed,.thread 0 .proceed,.thread 1 (.work 0)]

def arrives (event : Event) : List (Move (Fin 2) Input Empty) :=
  [.thread 0 (.publish event),.thread 0 .proceed,.thread 0 .proceed]

def workerEnds : List (Move (Fin 2) Input Empty) :=
  [.thread 1 .proceed,.thread 1 .proceed,.thread 1 (.handle [] []),.thread 1 .proceed]

theorem deletion_not_left : ∃ s, Reaches (scheduling (Fin 2)) Handing (start (Fin 2)) s ∧ s.world.handled.length = 2 ∧
    s.world.handled <+: s.world.arrived ∧ (Quiet s → s.world.eventBuffer = [] ∧ s.world.handled = s.world.arrived) := by
  obtain ⟨s,path,seen⟩ := checkedRun_exhibits (scheduling (Fin 2)) Handing (start (Fin 2))
    (photoAppears ++ arrives ⟨.deleted,"/photos/b.jpg",""⟩ ++ workerEnds) (fun s => s.world.handled.length = 2)
    (by decide +kernel)
  exact ⟨s,path,of_decide_eq_true seen,nothing_left_behind path⟩

-- The worker's call takes the deletion, which starts no worker, and nobody calls for the move.
theorem move_left_behind : ¬ ∀ s, Reachable (scheduling (Fin 2)) (start (Fin 2)) s → Quiet s → s.world.eventBuffer = [] := by
  intro all
  obtain ⟨s,path,seen⟩ := checkedRun_exhibits (scheduling (Fin 2)) (fun _ _ => True) (start (Fin 2))
    (photoAppears ++ arrives ⟨.deleted,"/photos/b.jpg",""⟩ ++ arrives ⟨.moved,"/photos/c.jpg","/photos/d.jpg"⟩ ++ workerEnds)
    (fun s => decide (s.world.indexWorkers = []) && decide (s.world.started = []) &&
      decide (∀ i, s.threads i = .idle) && decide (s.world.eventBuffer ≠ [])) (by decide +kernel)
  simp only [Bool.and_eq_true,decide_eq_true_eq] at seen
  obtain ⟨⟨⟨workers,none⟩,idle⟩,left⟩ := seen
  exact left (all s path ⟨workers,none,idle⟩)

end ImageSearch.EventScheduling
