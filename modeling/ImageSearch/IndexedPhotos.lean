import ImageSearch.IndexCalls
import ImageSearch.Threads
import Mathlib.Data.Fintype.Basic

namespace ImageSearch.IndexedPhotos
open Transitions Threads FileCatalog IndexCalls

variable {Index Vector : Type*} {folderId : Nat} {library next : PhotoLibrary Vector} {call call' : Call Vector}
  {input : CallInput Vector}

inductive CatalogEvent where
  | insertFile (path : String) (folderId : Nat)

def stepCatalog (library : PhotoLibrary Vector) : CatalogEvent → Option (PhotoLibrary Vector)
  | .insertFile path folderId => some {library with catalog:=insertFile library.catalog path folderId}

def callPool (Index Vector : Type*) [DecidableEq Index] (folderId : Nat) :
    System (Pool Index (PhotoLibrary Vector) (Call Vector)) (Move Index (CallInput Vector) CatalogEvent) :=
  pool (stepCall folderId) stepCatalog

def Call.toRecord (call : Call Vector) : List File :=
  match call.stage with
  | .recording remaining _ => remaining
  | _ => []

def Call.mayWrite (call : Call Vector) (id : Nat) : Bool :=
  match call.stage with
  | .entering | .loading | .preparing _ | .submitting _ | .embedding _ | .markingDeleted .. | .markingInvalid .. =>
    call.imageFiles.any fun file => file.id = id
  | .adding _ features _ => features.any fun feature => feature.1.id = id
  | _ => false

def indexedAs (folderId id : Nat) (file : File) : Bool :=
  file.folderId = folderId && file.status = .indexed && file.clipIndex = some id

structure Kept (folderId : Nat) (s : Pool Index (PhotoLibrary Vector) (Call Vector)) : Prop where
  searchable : ∀ file ∈ s.world.catalog.files.rows, ∀ id, indexedAs folderId id file = true →
    id ∈ indexIds s.world folderId ∨ ∃ i, Call.mayWrite (s.threads i) id = true

def replacement? (call : Call Vector) : CallInput Vector → Option (List Nat)
  | .answer true =>
    match call.stage with
    | .adding loaded features _ => some ((addWithIds loaded features).map Prod.fst)
    | _ => none
  | .replace moved created =>
    match call.stage with
    | .recovering => if moved || created then some [] else none
    | _ => none
  | _ => none

-- Where a step replaces the index file, what the file has of an indexed photo stays in it, and
-- so does what another call has written and is about to record.
def writesBack (folderId : Nat) : Condition (PhotoLibrary Vector) (Call Vector) (CallInput Vector) CatalogEvent where
  own library call input := ((replacement? call input).all fun ids => library.catalog.files.rows.all fun file =>
    file.clipIndex.all fun id => !indexedAs folderId id file || id ∉ indexIds library folderId || id ∈ ids) = true
  beside library call input other := ((replacement? call input).all fun ids => (Call.toRecord other).all fun file =>
    file.id ∉ indexIds library folderId || file.id ∈ ids) = true

section Indices
variable {index : Option (IndexFile Vector)}

theorem set_ids : indexIds (setIndex library folderId index) folderId = (index.getD []).map Prod.fst := by
  unfold indexIds setIndex
  dsimp only
  rw [Function.update_self]

theorem create_ids {created : Bool} :
    indexIds (createIndexIfNeeded library folderId created) folderId = indexIds library folderId := by
  unfold createIndexIfNeeded
  cases here : library.indices folderId with
  | some index => rfl
  | none =>
      cases created with
      | false => rfl
      | true =>
          dsimp only
          rw [if_pos rfl,set_ids,indexIds,here]
          rfl

theorem create_catalog {created : Bool} : (createIndexIfNeeded library folderId created).catalog = library.catalog := by
  unfold createIndexIfNeeded
  split
  · rfl
  · split <;> rfl

theorem replace_ids {moved created : Bool} : indexIds (replaceCorrupted library folderId moved created) folderId =
    if moved || created then [] else indexIds library folderId := by
  unfold replaceCorrupted
  cases created with
  | true => rw [if_pos rfl,set_ids,Bool.or_true,if_pos rfl]; rfl
  | false =>
      cases moved with
      | true => rw [if_neg (by decide),if_pos rfl,set_ids]; rfl
      | false => rfl

theorem replace_catalog {moved created : Bool} : (replaceCorrupted library folderId moved created).catalog = library.catalog := by
  unfold replaceCorrupted
  split
  · rfl
  · split <;> rfl

end Indices

-- Everything a step can do to the index file, to the rows and to what the call has to record.
inductive CallEffect (folderId : Nat) (library : PhotoLibrary Vector) (call : Call Vector) (input : CallInput Vector) :
    PhotoLibrary Vector → Call Vector → Prop
  | still {next : PhotoLibrary Vector} {call' : Call Vector} (catalog : next.catalog = library.catalog)
      (ids : indexIds next folderId = indexIds library folderId) (recorded : Call.toRecord call' = []) :
      CallEffect folderId library call input next call'
  | unmarks {catalog : Catalog} {call' : Call Vector}
      (rows : ∀ file ∈ catalog.files.rows, file ∈ library.catalog.files.rows ∨ file.status ≠ .indexed)
      (recorded : Call.toRecord call' = []) : CallEffect folderId library call input {library with catalog} call'
  | replaces {next : PhotoLibrary Vector} {call' : Call Vector} {ids : List Nat} (catalog : next.catalog = library.catalog)
      (replaced : replacement? call input = some ids) (written : indexIds next folderId = ids)
      (recorded : ∀ file ∈ Call.toRecord call', file.id ∈ ids) : CallEffect folderId library call input next call'
  | records {file : File} {call' : Call Vector} (recorded : Call.toRecord call = file :: Call.toRecord call') :
      CallEffect folderId library call input
        {library with catalog:=updateFile library.catalog file.id none none (some file.id) (some .indexed)} call'

theorem removed_unmarks {ids : List Nat} {catalog : Catalog} :
    ∀ file ∈ (setRemoved catalog ids).files.rows, file ∈ catalog.files.rows ∨ file.status ≠ .indexed :=
  fun _ member => (mem_setRemoved member).imp id fun same => by simp [same]

theorem call_effect (taken : stepCall folderId library call input = some (next,call')) :
    CallEffect folderId library call input next call' := by
  unfold stepCall at taken
  split at taken
  · split at taken
    · cases taken; exact .still rfl rfl rfl
    · cases taken
  · split at taken
    · rename_i startable
      cases taken
      refine .still create_catalog create_ids ?_
      unfold CallStage.startable at startable
      unfold Call.toRecord
      split
      · rename_i recording
        rw [recording] at startable
        cases startable
      · rfl
    · cases taken
  · cases taken
    refine .still rfl rfl ?_
    split <;> rfl
  · cases taken
    refine .still rfl rfl ?_
    unfold Call.toRecord Call.to
    dsimp only
    split
    · rename_i recording
      split at recording <;> cases recording
    · rfl
  · rename_i moved created stands
    cases taken
    have empty : ∀ file ∈ Call.toRecord (call.to (if created then CallStage.resetting else .finished .raised)),
        file.id ∈ ([] : List Nat) := by
      cases created <;> exact nofun
    by_cases replaced : (moved || created) = true
    · refine .replaces replace_catalog ?_ ?_ empty
      · unfold replacement?
        rw [stands]
        exact if_pos replaced
      · rw [replace_ids,if_pos replaced]
    · refine .still replace_catalog ?_ ?_
      · rw [replace_ids,if_neg replaced]
      · cases created <;> rfl
  · split at taken
    · cases taken
      exact .unmarks (fun file member => (mem_resetFiles member).imp id fun same => by simp [same]) rfl
    · cases taken; exact .still rfl rfl rfl
  · split at taken
    · cases taken; exact .unmarks (fun file member => .inl member) rfl
    · cases taken; exact .still rfl rfl rfl
  · cases taken
    refine .still rfl rfl ?_
    split <;> rfl
  · cases taken; exact .still rfl rfl rfl
  · split at taken
    · cases taken
    · split at taken
      · cases taken; exact .still rfl rfl rfl
      · cases taken; exact .still rfl rfl rfl
  · split at taken
    · cases taken; exact .unmarks removed_unmarks rfl
    · cases taken; exact .still rfl rfl rfl
  · split at taken
    · cases taken; exact .unmarks removed_unmarks rfl
    · cases taken; exact .still rfl rfl rfl
  · split at taken
    · cases taken
    · cases taken
      refine .still rfl rfl ?_
      split <;> rfl
  · split at taken
    · cases taken; exact .unmarks removed_unmarks rfl
    · cases taken; exact .still rfl rfl rfl
  · rename_i loaded features result done stands
    split at taken
    · rename_i written
      cases taken
      refine .replaces rfl ?_ set_ids ?_
      · unfold replacement?
        rw [written]
        dsimp only
        rw [stands]
        rfl
      · intro file member
        obtain ⟨feature,there,rfl⟩ := List.mem_map.mp member
        unfold addWithIds
        rw [Option.getD_some,List.map_append,List.map_map]
        exact List.mem_append_right _ (List.mem_map_of_mem there)
    · cases taken; exact .still rfl rfl rfl
  · cases taken; exact .still rfl rfl rfl
  · rename_i file rest result done stands
    split at taken
    · cases taken
      refine .records ?_
      unfold Call.toRecord
      rw [stands]
      rfl
    · cases taken; exact .still rfl rfl rfl
  · cases taken

-- Every indexed row of the folder has its vector, and so has what a call is about to record.
def kept (folderId : Nat) : Assertions (PhotoLibrary Vector) (Call Vector) where
  world library := ∀ file ∈ library.catalog.files.rows, ∀ id, indexedAs folderId id file = true →
    id ∈ indexIds library folderId
  thread library call := ∀ file ∈ Call.toRecord call, file.id ∈ indexIds library folderId

theorem kept_stable : Stable (kept folderId : Assertions (PhotoLibrary Vector) (Call Vector)) (stepCall folderId)
    stepCatalog (writesBack folderId) := by
  refine ⟨?_,?_,?_,?_⟩
  · intro library call input next call' world thread own taken
    cases call_effect taken with
    | still catalog ids recorded =>
        refine ⟨?_,?_⟩
        · intro file member id indexed
          rw [ids]
          exact world file (catalog ▸ member) id indexed
        · intro file member
          rw [recorded] at member
          cases member
    | unmarks rows recorded =>
        refine ⟨?_,?_⟩
        · intro file member id indexed
          rcases rows file member with there | unindexed
          · exact world file there id indexed
          · simp [indexedAs,unindexed] at indexed
        · intro file member
          rw [recorded] at member
          cases member
    | @replaces _ _ ids catalog replaced written recorded =>
        refine ⟨?_,?_⟩
        · intro file member id indexed
          rw [catalog] at member
          have here := world file member id indexed
          have clip : file.clipIndex = some id := by
            simp only [indexedAs,Bool.and_eq_true,decide_eq_true_eq] at indexed
            exact indexed.2
          have stays : (replacement? call input).all _ = true := own
          rw [replaced,Option.all_some,List.all_eq_true] at stays
          have allowed := stays file member
          rw [clip,Option.all_some,indexed] at allowed
          rw [written]
          simpa [here] using allowed
        · intro file member
          rw [written]
          exact recorded file member
    | @records head _ recorded =>
        have listed : head ∈ Call.toRecord call := recorded ▸ List.mem_cons_self
        refine ⟨?_,?_⟩
        · intro file member id indexed
          rcases mem_updateFile member with there | ⟨old,there,mine,rfl⟩
          · exact world file there id indexed
          · have same : id = head.id := by
              simp only [indexedAs,Bool.and_eq_true,decide_eq_true_eq,Option.some_or,Option.some.injEq] at indexed
              exact indexed.2.symm
            exact same ▸ thread head listed
        · intro file member
          exact thread file (recorded ▸ List.mem_cons_of_mem _ member)
  · intro library call other input next call' world thread theirs _ _ own beside taken
    refine ⟨?_,trivial,trivial⟩
    intro file member
    have here := theirs file member
    cases call_effect taken with
    | still catalog ids recorded => exact ids ▸ here
    | unmarks rows recorded => exact here
    | @replaces _ _ ids catalog replaced written recorded =>
        have stays : (replacement? call input).all _ = true := beside
        rw [replaced,Option.all_some,List.all_eq_true] at stays
        have allowed := stays file member
        rw [written]
        simpa [here] using allowed
    | records recorded => exact here
  · intro library event next world taken
    cases event with
    | insertFile path folder =>
        cases taken
        intro file member id indexed
        rcases mem_insertFile member with there | pending
        · exact world file there id indexed
        · simp [indexedAs,pending] at indexed
  · intro library event next call world theirs _ taken
    cases event with
    | insertFile path folder => cases taken; exact theirs

-- As long as no write drops a vector that is needed, no indexed photo is without one.
theorem indexed_photos_kept {Index Vector : Type*} [DecidableEq Index] (folderId : Nat)
    (s next : Pool Index (PhotoLibrary Vector) (Call Vector)) (before : Kept folderId s)
    (idle : ∀ i, (s.threads i).stage = .idle) (path : Reaches (callPool Index Vector folderId)
      (writesBack folderId).Admits s next) : Kept folderId next := by
  have start : (kept folderId).Hold s := by
    refine ⟨?_,?_,fun _ _ _ => trivial⟩
    · intro file member id indexed
      rcases before.searchable file member id indexed with there | ⟨i,writes⟩
      · exact there
      · simp [Call.mayWrite,idle i] at writes
    · intro i file member
      simp [Call.toRecord,idle i] at member
  have reached := hold_reaches kept_stable start path
  exact ⟨fun file member id indexed => .inl (reached.world file member id indexed)⟩

def photo (id : Nat) (path : String) : File := ⟨id,path,1,none,.pending⟩

def samplePhotos : PhotoLibrary Unit where
  catalog := ⟨⟨[⟨1,"/photos",.scanning⟩],by decide⟩,2,⟨[photo 1 "/photos/a.jpg",photo 2 "/photos/b.jpg"],by decide⟩,3⟩
  indices := fun _ => none

def twoWorkers : Pool (Fin 2) (PhotoLibrary Unit) (Call Unit) := ⟨samplePhotos,fun _ => ⟨[],.idle⟩⟩

theorem workers_kept : Kept 1 twoWorkers := by
  refine ⟨?_⟩
  intro file member id indexed
  have pending : ∀ file ∈ samplePhotos.catalog.files.rows, file.status = .pending := by decide
  simp [indexedAs,pending file member] at indexed

def takes (i : Fin 2) (file : File) : List (Move (Fin 2) (CallInput Unit) CatalogEvent) :=
  [.thread i (.start [file]),.thread i (.answer true),.thread i (.load .intact),.thread i (.answer true),
    .thread i (.answer true),.thread i (.batch (some (fun _ => .valid (),true))),.thread i (.answer true),
    .thread i (.answer true),.thread i (.answer true)]

def records (i : Fin 2) : List (Move (Fin 2) (CallInput Unit) CatalogEvent) :=
  [.thread i (.answer true),.thread i (.answer true),.thread i (.answer true)]

def finished (s : Pool (Fin 2) (PhotoLibrary Unit) (Call Unit)) (i : Fin 2) : Bool :=
  (s.threads i).stage matches .finished (.returned true)

-- Both load the empty index; what the second writes is without the first one's photo.
theorem second_write_drops : ¬ ∀ (s next : Pool (Fin 2) (PhotoLibrary Unit) (Call Unit)), Kept 1 s →
    (∀ i, (s.threads i).stage = .idle) → Reachable (callPool (Fin 2) Unit 1) s next → Kept 1 next := by
  intro all
  obtain ⟨s,path,seen⟩ := checkedRun_exhibits (callPool (Fin 2) Unit 1) (fun _ _ => True) twoWorkers
    (.thread 0 (.createIfNeeded true) :: takes 0 (photo 1 "/photos/a.jpg") ++ takes 1 (photo 2 "/photos/b.jpg") ++
      records 0 ++ records 1) (fun s => decide (∀ i, finished s i = true) && indexIds s.world 1 = [2] &&
        s.world.catalog.files.rows.any (indexedAs 1 1)) (by decide +kernel)
  simp only [Bool.and_eq_true,decide_eq_true_eq,List.any_eq_true] at seen
  obtain ⟨⟨allEnded,ids⟩,file,member,indexed⟩ := seen
  rcases (all twoWorkers s workers_kept (fun _ => rfl) path).searchable file member 1 indexed with there | ⟨i,writes⟩
  · rw [ids] at there
    exact absurd there (by decide)
  · have ended := allEnded i
    unfold finished at ended
    unfold Call.mayWrite at writes
    split at ended
    · rename_i stage
      rw [stage] at writes
      cases writes
    · cases ended

instance (library : PhotoLibrary Unit) (call : Call Unit) (input : CallInput Unit) :
    Decidable ((writesBack folderId).own library call input) := inferInstanceAs (Decidable (_ = true))
instance (library : PhotoLibrary Unit) (call other : Call Unit) (input : CallInput Unit) :
    Decidable ((writesBack folderId).beside library call input other) := inferInstanceAs (Decidable (_ = true))
instance (library : PhotoLibrary Unit) (event : CatalogEvent) (other : Call Unit) :
    Decidable ((writesBack folderId).event library event other) := inferInstanceAs (Decidable True)

-- One after the other.
theorem both_photos_kept : ∃ s : Pool (Fin 2) (PhotoLibrary Unit) (Call Unit), Kept 1 s ∧ indexIds s.world 1 = [1,2] := by
  obtain ⟨s,path,seen⟩ := checkedRun_exhibits (callPool (Fin 2) Unit 1) (writesBack 1).Admits twoWorkers
    (.thread 0 (.createIfNeeded true) :: takes 0 (photo 1 "/photos/a.jpg") ++ records 0 ++
      takes 1 (photo 2 "/photos/b.jpg") ++ records 1) (fun s => indexIds s.world 1 = [1,2]) (by decide +kernel)
  exact ⟨s,indexed_photos_kept 1 twoWorkers s workers_kept (fun _ => rfl) path,of_decide_eq_true seen⟩

end ImageSearch.IndexedPhotos
