import Mathlib.Data.List.AList
import ImageSearch.Transitions
import ImageSearch.FolderEvents

namespace ImageSearch.FolderWatches
open Transitions FileCatalog FolderEvents

structure Watch where
  path : String
  recursive : Bool
  deriving DecidableEq, Repr

-- The observer: `watches` are those with an emitter. schedule makes one for a watch that has
-- none, and unschedule raises a KeyError for a watch that has none.
structure WatchdogObserver (O : Type*) where
  started : O
  watches : O → List Watch
  schedule : O → Watch → O
  failedSchedule : O → Watch → O
  unschedule : O → Watch → Option O
  started_watches : watches started = []
  schedule_watches : ∀ o watch, watches (schedule o watch) = if watch ∈ watches o then watches o else watches o ++ [watch]
  failed_watches : ∀ o watch, watches (failedSchedule o watch) = watches o
  unschedule_held : ∀ o watch, watch ∈ watches o → ∃ next, unschedule o watch = some next ∧ watches next = (watches o).erase watch
  unschedule_absent : ∀ o watch, watch ∉ watches o → unschedule o watch = none

structure Pathlib (Path : Type*) where
  of : String → Path
  parent : Path → Path
  str : Path → String

-- What a dict is looked up with: a path is never equal to a text.
inductive Key (Path : Type*) where
  | str (text : String)
  | path (path : Path)
  deriving DecidableEq

inductive Ended where
  | returned
  | observerRaised
  | unboundLocalError
  | keyError
  deriving DecidableEq, Repr

variable {O Path : Type*}

-- The module's state between start_watch and stop_watch. Ghosts are the folders of the calls
-- of add_folder that returned, less those of remove_folder, and how the calls ended.
structure Monitor (O Path : Type*) where
  observer : O
  folderWatchMap : AList fun _ : String => Watch
  parentFolderWatchMap : AList fun _ : Key Path => Watch
  added : List String
  ended : List Ended

variable (watchdog : WatchdogObserver O) (paths : Pathlib Path)

def Monitor.start : Monitor O Path := ⟨watchdog.started,∅,∅,[],[]⟩

def normalized (path : String) : String := forwardSlashes (normalizedFolderPath path)

def rootFolderParent (folder : String) : String := normalized (paths.str (paths.parent (paths.of folder)))

variable {watchdog paths} (m : Monitor O Path)

def Monitor.ends (how : Ended) : Monitor O Path := {m with ended:=m.ended ++ [how]}

-- What the file system and the observer answer in a call of add_folder.
structure Answers where
  pathExists : Bool
  normalizedExists : Bool
  scheduleRaises : Bool
  parentRaises : Bool

inductive Call where
  | addFolder (path : String) (answers : Answers)
  | removeFolder (path : String)

section Calls
variable [DecidableEq Path] (watchdog paths)

def Monitor.registers (path : String) (watch : Watch) (parentRaises : Bool) : Monitor O Path :=
  let parent : Watch := ⟨rootFolderParent paths path,false⟩
  let m := {m with folderWatchMap:=m.folderWatchMap.insert path watch}
  if .str parent.path ∈ m.parentFolderWatchMap then {m with added:=path :: m.added}.ends .returned
  else if parentRaises then {m with observer:=watchdog.failedSchedule m.observer parent}.ends .observerRaised
  else {m with
    observer:=watchdog.schedule m.observer parent
    parentFolderWatchMap:=m.parentFolderWatchMap.insert (.str parent.path) parent
    added:=path :: m.added}.ends .returned

-- An exception of schedule is logged, and _watch then has no value.
def Monitor.addFolder (path : String) (answers : Answers) : Monitor O Path :=
  if !answers.pathExists || !answers.normalizedExists then m.ends .returned
  else
    let watch : Watch := ⟨normalized path,true⟩
    if answers.scheduleRaises then {m with observer:=watchdog.failedSchedule m.observer watch}.ends .unboundLocalError
    else {m with observer:=watchdog.schedule m.observer watch}.registers watchdog paths watch.path watch answers.parentRaises

def Monitor.removeFolder (path : String) : Monitor O Path :=
  let path := normalized path
  match m.folderWatchMap.lookup path with
  | none => m.ends .returned
  | some watch =>
    let folders := m.folderWatchMap.erase path
    -- The texts of the map's keys are looked up with a path.
    let parent := paths.parent (paths.of path)
    let stillWatched := folders.keys.any fun watchedPath => paths.parent (paths.of watchedPath) = parent
    let parentWatch := if stillWatched then none else m.parentFolderWatchMap.lookup (.path parent)
    let parents := if stillWatched then m.parentFolderWatchMap else m.parentFolderWatchMap.erase (.path parent)
    let m := {m with folderWatchMap:=folders,parentFolderWatchMap:=parents}
    match watchdog.unschedule m.observer watch,parentWatch with
    | none,_ => m.ends .keyError
    | some observer,none => {m with observer,added:=m.added.filter fun folder => folder ≠ path}.ends .returned
    | some observer,some parentWatch => match watchdog.unschedule observer parentWatch with
      | none => {m with observer}.ends .keyError
      | some observer => {m with observer,added:=m.added.filter fun folder => folder ≠ path}.ends .returned

def Monitor.call : Call → Monitor O Path
  | .addFolder path answers => m.addFolder watchdog paths path answers
  | .removeFolder path => m.removeFolder watchdog paths path

def monitor : System (Monitor O Path) Call := ⟨fun m call => some (m.call watchdog paths call)⟩

end Calls

section Invariants
variable (watchdog paths)

structure Matches (m : Monitor O Path) : Prop where
  once : (watchdog.watches m.observer).Nodup
  folders : ∀ path, ⟨path,true⟩ ∈ watchdog.watches m.observer ↔ path ∈ m.added
  parents : ∀ path, ⟨path,false⟩ ∈ watchdog.watches m.observer ↔ ∃ folder ∈ m.added, rootFolderParent paths folder = path
  ended : ∀ how ∈ m.ended, how = .returned ∨ how = .observerRaised

-- No call of schedule raises, and another folder stays under the parent of one that is removed.
def Admits (m : Monitor O Path) : Call → Prop
  | .addFolder path answers => answers.pathExists = true → answers.normalizedExists = true →
      answers.scheduleRaises = false ∧
      ((∀ folder ∈ m.added, rootFolderParent paths folder ≠ rootFolderParent paths (normalized path)) → answers.parentRaises = false)
  | .removeFolder path => normalized path ∈ m.added →
      ∃ other ∈ m.added, other ≠ normalized path ∧ rootFolderParent paths other = rootFolderParent paths (normalized path)

structure Kept (m : Monitor O Path) : Prop where
  folder_watch : ∀ path watch, m.folderWatchMap.lookup path = some watch → watch = ⟨path,true⟩
  text_keys : ∀ path, Key.path path ∉ m.parentFolderWatchMap
  held : ∀ watch, watch ∈ watchdog.watches m.observer ↔
    if watch.recursive then watch.path ∈ m.folderWatchMap else .str watch.path ∈ m.parentFolderWatchMap
  once : (watchdog.watches m.observer).Nodup
  registered : ∀ path, path ∈ m.added ↔ path ∈ m.folderWatchMap
  children : ∀ path, .str path ∈ m.parentFolderWatchMap ↔ ∃ folder ∈ m.folderWatchMap, rootFolderParent paths folder = path
  ended : ∀ how ∈ m.ended, how = .returned

end Invariants

variable {m}

theorem kept_matches (kept : Kept watchdog paths m) : Matches watchdog paths m where
  once := kept.once
  folders path := by
    rw [kept.held,kept.registered]
    exact Iff.rfl
  parents path := by
    rw [kept.held]
    refine (kept.children path).trans (exists_congr fun folder => ?_)
    rw [kept.registered]
  ended how member := .inl (kept.ended how member)

theorem kept_start : Kept watchdog paths (Monitor.start watchdog) where
  folder_watch path watch known := by simp [Monitor.start] at known
  text_keys path := AList.notMem_empty _
  held watch := by
    rw [show (Monitor.start watchdog : Monitor O Path).observer = watchdog.started from rfl,watchdog.started_watches]
    refine iff_of_false List.not_mem_nil ?_
    split
    · exact AList.notMem_empty _
    · exact AList.notMem_empty _
  once := by
    rw [show (Monitor.start watchdog : Monitor O Path).observer = watchdog.started from rfl,watchdog.started_watches]
    exact List.nodup_nil
  registered path := iff_of_false List.not_mem_nil (AList.notMem_empty _)
  children path := iff_of_false (AList.notMem_empty _) fun ⟨_,member,_⟩ => AList.notMem_empty _ member
  ended how member := absurd member List.not_mem_nil

theorem mem_scheduled {o : O} {watch other : Watch} :
    other ∈ watchdog.watches (watchdog.schedule o watch) ↔ other = watch ∨ other ∈ watchdog.watches o := by
  rw [watchdog.schedule_watches]
  split
  · rename_i held
    constructor
    · exact .inr
    · rintro (rfl | old)
      · exact held
      · exact old
  · rw [List.mem_append,List.mem_singleton,or_comm]

theorem once_scheduled {o : O} {watch : Watch} (once : (watchdog.watches o).Nodup) :
    (watchdog.watches (watchdog.schedule o watch)).Nodup := by
  rw [watchdog.schedule_watches]
  split
  · exact once
  · rename_i fresh
    exact List.Nodup.append once (List.nodup_singleton _) (by simpa using fresh)

-- A folder's own watch is scheduled and entered, with its parent as `next` has it.
theorem kept_registered {next : Monitor O Path} {path : String} (kept : Kept watchdog paths m)
    (folderWatchMap : next.folderWatchMap = m.folderWatchMap.insert path ⟨path,true⟩) (added : next.added = path :: m.added)
    (text_keys : ∀ path, Key.path path ∉ next.parentFolderWatchMap)
    (parents : ∀ parent, .str parent ∈ next.parentFolderWatchMap ↔
      parent = rootFolderParent paths path ∨ .str parent ∈ m.parentFolderWatchMap)
    (watches : ∀ watch, watch ∈ watchdog.watches next.observer ↔
      (watch = ⟨path,true⟩ ∨ watch = ⟨rootFolderParent paths path,false⟩) ∨ watch ∈ watchdog.watches m.observer)
    (once : (watchdog.watches next.observer).Nodup) (ended : next.ended = m.ended ++ [.returned]) : Kept watchdog paths next where
  folder_watch folder watch known := by
    rw [folderWatchMap] at known
    by_cases same : folder = path
    · rw [same,AList.lookup_insert] at known
      cases known
      rw [same]
    · rw [AList.lookup_insert_ne same] at known
      exact kept.folder_watch folder watch known
  text_keys := text_keys
  held watch := by
    rw [watches,kept.held,folderWatchMap]
    obtain ⟨place,recursive⟩ := watch
    cases recursive with
    | true => simp
    | false => simp [parents]
  once := once
  registered folder := by
    rw [added,folderWatchMap,List.mem_cons,AList.mem_insert,kept.registered]
  children parent := by
    rw [parents,kept.children,folderWatchMap]
    constructor
    · rintro (rfl | ⟨folder,member,above⟩)
      · exact ⟨path,(AList.mem_insert _).mpr (.inl rfl),rfl⟩
      · exact ⟨folder,(AList.mem_insert _).mpr (.inr member),above⟩
    · rintro ⟨folder,member,above⟩
      rcases (AList.mem_insert _).mp member with rfl | old
      · exact .inl above.symm
      · exact .inr ⟨folder,old,above⟩
  ended how member := by
    rw [ended] at member
    rcases List.mem_append.mp member with before | now
    · exact kept.ended how before
    · exact List.mem_singleton.mp now

theorem kept_ends (kept : Kept watchdog paths m) : Kept watchdog paths (m.ends .returned) where
  folder_watch := kept.folder_watch
  text_keys := kept.text_keys
  held := kept.held
  once := kept.once
  registered := kept.registered
  children := kept.children
  ended how member := by
    rcases List.mem_append.mp member with before | now
    · exact kept.ended how before
    · exact List.mem_singleton.mp now

section Steps
variable [DecidableEq Path]

theorem kept_add {path : String} {answers : Answers} (kept : Kept watchdog paths m)
    (admitted : Admits paths m (.addFolder path answers)) : Kept watchdog paths (m.addFolder watchdog paths path answers) := by
  unfold Monitor.addFolder
  split
  · exact kept_ends kept
  · rename_i there
    have exist : answers.pathExists = true ∧ answers.normalizedExists = true := by simpa using there
    obtain ⟨scheduled,parentScheduled⟩ := admitted exist.1 exist.2
    rw [if_neg (by simp [scheduled])]
    unfold Monitor.registers
    dsimp only
    split
    · rename_i watched
      refine kept_registered kept rfl rfl kept.text_keys (fun parent => ?_) (fun watch => ?_) (once_scheduled kept.once) rfl
      · constructor
        · exact .inr
        · rintro (rfl | old)
          · exact watched
          · exact old
      · have parentHeld : ⟨rootFolderParent paths (normalized path),false⟩ ∈ watchdog.watches m.observer := (kept.held _).mpr watched
        rw [show (Monitor.ends _ _ : Monitor O Path).observer = watchdog.schedule m.observer ⟨normalized path,true⟩ from rfl,
          mem_scheduled]
        constructor
        · rintro (new | old)
          · exact .inl (.inl new)
          · exact .inr old
        · rintro ((new | parent) | old)
          · exact .inl new
          · exact .inr (parent ▸ parentHeld)
          · exact .inr old
    · rename_i unwatched
      have none : ∀ folder ∈ m.added, rootFolderParent paths folder ≠ rootFolderParent paths (normalized path) := by
        intro folder member same
        exact unwatched ((kept.children _).mpr ⟨folder,(kept.registered folder).mp member,same⟩)
      rw [if_neg (by simp [parentScheduled none])]
      refine kept_registered kept rfl rfl ?_ (fun parent => ?_) (fun watch => ?_) (once_scheduled (once_scheduled kept.once)) rfl
      · intro other member
        rcases (AList.mem_insert _).mp member with same | old
        · cases same
        · exact kept.text_keys other old
      · rw [show (Monitor.ends _ _ : Monitor O Path).parentFolderWatchMap = m.parentFolderWatchMap.insert
          (.str (rootFolderParent paths (normalized path))) ⟨rootFolderParent paths (normalized path),false⟩ from rfl,
          AList.mem_insert,Key.str.injEq]
      · rw [show (Monitor.ends _ _ : Monitor O Path).observer = watchdog.schedule (watchdog.schedule m.observer
          ⟨normalized path,true⟩) ⟨rootFolderParent paths (normalized path),false⟩ from rfl,mem_scheduled,mem_scheduled,
          ← or_assoc]
        exact or_congr_left or_comm

theorem kept_remove {path : String} (kept : Kept watchdog paths m) (admitted : Admits paths m (.removeFolder path)) :
    Kept watchdog paths (m.removeFolder watchdog paths path) := by
  unfold Monitor.removeFolder
  dsimp only
  cases known : m.folderWatchMap.lookup (normalized path) with
  | none => exact kept_ends kept
  | some watch =>
      have registered : normalized path ∈ m.folderWatchMap := AList.lookup_isSome.mp (by rw [known]; rfl)
      obtain ⟨other,otherAdded,apart,sibling⟩ := admitted ((kept.registered _).mpr registered)
      cases kept.folder_watch _ _ known
      have held : ⟨normalized path,true⟩ ∈ watchdog.watches m.observer := (kept.held _).mpr registered
      obtain ⟨observer,unscheduled,watches⟩ := watchdog.unschedule_held _ _ held
      -- No key is a path, so that nothing is found and nothing is erased.
      have unfound (parent : Path) (stillWatched : Bool) :
          (if stillWatched then none else m.parentFolderWatchMap.lookup (.path parent)) = none := by
        split
        · rfl
        · exact AList.lookup_eq_none.mpr (kept.text_keys parent)
      simp only [unscheduled,unfound]
      generalize ((m.folderWatchMap.erase (normalized path)).keys.any fun watchedPath =>
        paths.parent (paths.of watchedPath) = paths.parent (paths.of (normalized path))) = stillWatched
      generalize paths.parent (paths.of (normalized path)) = parent
      have parents (key : Key Path) : key ∈ (if stillWatched then m.parentFolderWatchMap
          else m.parentFolderWatchMap.erase (.path parent)) ↔ key ∈ m.parentFolderWatchMap := by
        split
        · exact Iff.rfl
        · rw [AList.mem_erase,and_iff_right_iff_imp]
          rintro member rfl
          exact kept.text_keys parent member
      refine kept_ends (m := ⟨_,_,_,_,_⟩) ⟨?_,?_,?_,?_,?_,?_,kept.ended⟩
      · intro folder other found
        by_cases same : folder = normalized path
        · rw [same,AList.lookup_erase] at found
          cases found
        · rw [AList.lookup_erase_ne same] at found
          exact kept.folder_watch folder other found
      · intro path member
        exact kept.text_keys path ((parents _).mp member)
      · intro held
        dsimp only
        rw [watches,kept.once.mem_erase_iff,kept.held,parents,AList.mem_erase]
        obtain ⟨place,recursive⟩ := held
        cases recursive with
        | true => simp
        | false => simp
      · dsimp only
        rw [watches]
        exact kept.once.erase _
      · intro folder
        dsimp only
        rw [List.mem_filter,AList.mem_erase,kept.registered,decide_eq_true_iff]
        exact and_comm
      · intro place
        dsimp only
        rw [parents,kept.children]
        constructor
        · rintro ⟨folder,member,above⟩
          by_cases same : folder = normalized path
          · exact ⟨other,AList.mem_erase.mpr ⟨apart,(kept.registered other).mp otherAdded⟩,by rw [sibling,← same,above]⟩
          · exact ⟨folder,AList.mem_erase.mpr ⟨same,member⟩,above⟩
        · rintro ⟨folder,member,above⟩
          exact ⟨folder,(AList.mem_erase.mp member).2,above⟩

theorem kept_call {call : Call} (kept : Kept watchdog paths m) (admitted : Admits paths m call) :
    Kept watchdog paths (m.call watchdog paths call) := by
  cases call with
  | addFolder path answers => exact kept_add kept admitted
  | removeFolder path => exact kept_remove kept admitted

-- Where schedule raises, the folder's own watch is not entered or its parent goes unwatched.
theorem unmatched_add {path : String} {answers : Answers} (kept : Kept watchdog paths m)
    (refused : ¬ Admits paths m (.addFolder path answers)) : ¬ Matches watchdog paths (m.addFolder watchdog paths path answers) := by
  intro matched
  apply refused
  intro there normalizedThere
  cases scheduled : answers.scheduleRaises with
  | true =>
      have how := matched.ended .unboundLocalError (by
        simp [Monitor.addFolder,there,normalizedThere,scheduled,Monitor.ends])
      simp at how
  | false =>
      refine ⟨rfl,fun none => ?_⟩
      cases raised : answers.parentRaises with
      | false => rfl
      | true =>
          have unwatched : .str (rootFolderParent paths (normalized path)) ∉ m.parentFolderWatchMap := by
            intro member
            obtain ⟨folder,registered,above⟩ := (kept.children _).mp member
            exact none folder ((kept.registered folder).mpr registered) above
          have next : m.addFolder watchdog paths path answers = Monitor.ends {m with
              observer:=watchdog.failedSchedule (watchdog.schedule m.observer ⟨normalized path,true⟩)
                ⟨rootFolderParent paths (normalized path),false⟩
              folderWatchMap:=m.folderWatchMap.insert (normalized path) ⟨normalized path,true⟩} .observerRaised := by
            simp [Monitor.addFolder,Monitor.registers,there,normalizedThere,scheduled,raised,unwatched]
          have held := (matched.folders (normalized path)).mp (by
            rw [next,Monitor.ends,watchdog.failed_watches,mem_scheduled]
            exact .inl rfl)
          rw [next] at held
          exact absurd rfl (none _ held)

theorem unmatched_remove {path : String} (kept : Kept watchdog paths m) (refused : ¬ Admits paths m (.removeFolder path)) :
    ¬ Matches watchdog paths (m.removeFolder watchdog paths path) := by
  intro matched
  apply refused
  intro added
  by_contra last
  have registered := (kept.registered _).mp added
  obtain ⟨watch,known⟩ := Option.isSome_iff_exists.mp (AList.lookup_isSome.mpr registered)
  cases kept.folder_watch _ _ known
  have held : ⟨normalized path,true⟩ ∈ watchdog.watches m.observer := (kept.held _).mpr registered
  obtain ⟨observer,unscheduled,watches⟩ := watchdog.unschedule_held _ _ held
  have parentHeld : ⟨rootFolderParent paths (normalized path),false⟩ ∈ watchdog.watches m.observer :=
    (kept.held _).mpr ((kept.children _).mpr ⟨_,registered,rfl⟩)
  have unfound (parent : Path) (stillWatched : Bool) :
      (if stillWatched then none else m.parentFolderWatchMap.lookup (.path parent)) = none := by
    split
    · rfl
    · exact AList.lookup_eq_none.mpr (kept.text_keys parent)
  have observed : (m.removeFolder watchdog paths path).observer = observer := by
    simp only [Monitor.removeFolder,known,unscheduled,unfound]
    rfl
  have left : (m.removeFolder watchdog paths path).added = m.added.filter fun folder => folder ≠ normalized path := by
    simp only [Monitor.removeFolder,known,unscheduled,unfound]
    rfl
  have still : ⟨rootFolderParent paths (normalized path),false⟩ ∈ watchdog.watches (m.removeFolder watchdog paths path).observer := by
    rw [observed,watches]
    exact (List.mem_erase_of_ne (by simp)).mpr parentHeld
  obtain ⟨folder,member,above⟩ := (matched.parents _).mp still
  rw [left,List.mem_filter,decide_eq_true_iff] at member
  exact last ⟨folder,member.1,member.2,above⟩

theorem matches_call (kept : Kept watchdog paths m) (call : Call) :
    Matches watchdog paths (m.call watchdog paths call) ↔ Admits paths m call := by
  constructor
  · intro matched
    by_contra refused
    cases call with
    | addFolder path answers => exact unmatched_add kept refused matched
    | removeFolder path => exact unmatched_remove kept refused matched
  · exact fun admitted => kept_matches (kept_call kept admitted)

-- The watches match in every state of a run within the condition, and the next call leaves
-- them so exactly if it meets the condition too.
theorem watches_match (watchdog : WatchdogObserver O) (paths : Pathlib Path) (m : Monitor O Path)
    (path : Reaches (monitor watchdog paths) (Admits paths) (Monitor.start watchdog) m) :
    Matches watchdog paths m ∧ ∀ call, Matches watchdog paths (m.call watchdog paths call) ↔ Admits paths m call := by
  have kept : Kept watchdog paths m := by
    refine reaches_preserves ?_ kept_start path
    intro s call next kept admitted taken
    cases taken
    exact kept_call kept admitted
  exact ⟨kept_matches kept,matches_call kept⟩

end Steps

def emitterList : WatchdogObserver (List Watch) where
  started := []
  watches emitters := emitters
  schedule emitters watch := if watch ∈ emitters then emitters else emitters ++ [watch]
  failedSchedule emitters _ := emitters
  unschedule emitters watch := if watch ∈ emitters then some (emitters.erase watch) else none
  started_watches := rfl
  schedule_watches _ _ := rfl
  failed_watches _ _ := rfl
  unschedule_held emitters watch held := ⟨emitters.erase watch,if_pos held,rfl⟩
  unschedule_absent _ _ absent := if_neg absent

def absolutePaths : Pathlib (List (List Char)) where
  of text := (text.toList.splitOn '/').filter fun part => part ≠ []
  parent path := path.dropLast
  str path := String.ofList ('/' :: ['/'].intercalate path)

instance (m : Monitor O (List (List Char))) (call : Call) : Decidable (Admits absolutePaths m call) :=
  match call with
  | .addFolder path answers => inferInstanceAs (Decidable (answers.pathExists = true → answers.normalizedExists = true →
      answers.scheduleRaises = false ∧ ((∀ folder ∈ m.added,
        rootFolderParent absolutePaths folder ≠ rootFolderParent absolutePaths (normalized path)) → answers.parentRaises = false)))
  | .removeFolder path => inferInstanceAs (Decidable (normalized path ∈ m.added → ∃ other ∈ m.added,
      other ≠ normalized path ∧ rootFolderParent absolutePaths other = rootFolderParent absolutePaths (normalized path)))

def fine : Answers := ⟨true,true,false,false⟩

-- The second of two folders goes, and its parent stays watched for the first.
theorem sibling_matches : ∃ m : Monitor (List Watch) (List (List Char)),
    Reaches (monitor emitterList absolutePaths) (Admits absolutePaths) (Monitor.start emitterList) m ∧
    m.added = ["/p/a/"] ∧ Matches emitterList absolutePaths m ∧
    ¬ Matches emitterList absolutePaths (m.call emitterList absolutePaths (.removeFolder "/p/a")) := by
  obtain ⟨m,path,seen⟩ := checkedRun_exhibits (monitor emitterList absolutePaths) (Admits absolutePaths)
    (Monitor.start emitterList) [.addFolder "/p/a" fine,.addFolder "/p/b" fine,.removeFolder "/p/b"]
    (fun m => decide (m.added = ["/p/a/"])) (by decide +kernel)
  have added := of_decide_eq_true seen
  obtain ⟨matched,next⟩ := watches_match emitterList absolutePaths m path
  refine ⟨m,path,added,matched,?_⟩
  rw [next]
  intro admitted
  obtain ⟨other,member,apart,-⟩ := admitted (by rw [added]; decide)
  rw [added,List.mem_singleton] at member
  exact apart (member.trans (by decide))

-- A parent that no folder is left of is still watched, and where schedule raises the call
-- ends with an UnboundLocalError.
theorem parent_left : (¬ ∀ m : Monitor (List Watch) (List (List Char)),
      Reachable (monitor emitterList absolutePaths) (Monitor.start emitterList) m → Matches emitterList absolutePaths m) ∧
    ∃ m : Monitor (List Watch) (List (List Char)),
      Reachable (monitor emitterList absolutePaths) (Monitor.start emitterList) m ∧ .unboundLocalError ∈ m.ended := by
  constructor
  · intro all
    obtain ⟨m,path,seen⟩ := checkedRun_exhibits (monitor emitterList absolutePaths) (fun _ _ => True)
      (Monitor.start emitterList) [.addFolder "/p/a" fine,.removeFolder "/p/a"]
      (fun m => decide (m.added = [] ∧ ⟨"/p/",false⟩ ∈ m.observer)) (by decide)
    obtain ⟨none,held⟩ := of_decide_eq_true seen
    obtain ⟨folder,member,-⟩ := ((all m path).parents "/p/").mp held
    rw [none] at member
    exact absurd member List.not_mem_nil
  · obtain ⟨m,path,seen⟩ := checkedRun_exhibits (monitor emitterList absolutePaths) (fun _ _ => True)
      (Monitor.start emitterList) [.addFolder "/p/a" ⟨true,true,true,false⟩]
      (fun m => decide (Ended.unboundLocalError ∈ m.ended)) (by decide)
    exact ⟨m,path,of_decide_eq_true seen⟩

end ImageSearch.FolderWatches
