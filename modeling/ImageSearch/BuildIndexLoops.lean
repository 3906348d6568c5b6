import ImageSearch.FileStatements
import Mathlib.Data.Finset.Card

namespace ImageSearch.BuildIndexLoops
open FileCatalog IndexCalls IndexWorkers IndexedPhotos PendingPhotos

variable {Vector : Type*} {folderId : Nat} {catalog : Catalog} {base left : Finset Nat}

def pendingIds (catalog : Catalog) (folderId : Nat) : Finset Nat := ((pendings catalog folderId).map Prod.fst).toFinset

theorem mem_pendingIds {id : Nat} : id ∈ pendingIds catalog folderId ↔
    ∃ file ∈ catalog.files.rows, file.folderId = folderId ∧ file.status = .pending ∧ file.id = id := by
  simp [pendingIds,pendings,and_assoc]

def Reduced (base left : Finset Nat) : Prop := ∃ id ∈ base, id ∉ left

section Calls
variable {library next : PhotoLibrary Vector} {call call' : Call Vector} {input : CallInput Vector}

def callEffort (call : Call Vector) : Nat :=
  match call.stage with
  | .entering => 4 * call.imageFiles.length + 9
  | .loading => 4 * call.imageFiles.length + 8
  | .preparing _ => 4 * call.imageFiles.length + 7
  | .submitting _ => 4 * call.imageFiles.length + 6
  | .embedding embedding => 4 * embedding.remaining.length + embedding.features.length + 5
  | .markingInvalid embedding _ => 4 * embedding.remaining.length + embedding.features.length + 6
  | .markingDeleted embedding _ _ => 4 * embedding.remaining.length + embedding.features.length + 7
  | .adding _ features _ => features.length + 2
  | .recording remaining _ => remaining.length + 1
  | .recovering => 3
  | .resetting => 2
  | .demoting | .skipping => 1
  | .idle | .finished _ => 0

theorem batch_valid {files : List File} {verdict : File → Verdict Vector} {stackable : Bool} :
    (processImageBatch files verdict stackable).1.length ≤ files.length := by
  unfold processImageBatch
  dsimp only
  split
  · exact Nat.zero_le _
  · exact List.length_filterMap_le _ _

theorem call_effort (taken : stepCall folderId library call input = some (next,call')) (started : call.stage.startable = false) :
    callEffort call' < callEffort call := by
  unfold stepCall at taken
  unfold callEffort
  split at taken
  · rw [started] at taken
    cases taken
  · rw [started] at taken
    cases taken
  · rename_i ready stands
    cases taken
    rw [stands]
    cases ready <;> simp [Call.to]
  · rename_i found stands
    cases taken
    rw [stands]
    cases library.indices folderId with
    | none => simp [Call.to]
    | some loaded => cases found <;> simp [Call.to]
  · rename_i moved created stands
    cases taken
    rw [stands]
    cases created <;> simp [Call.to]
  · rename_i done stands
    rw [stands]
    split at taken <;> cases taken <;> simp [Call.to]
  · rename_i done stands
    rw [stands]
    split at taken <;> cases taken <;> simp [Call.to]
  · rename_i loaded there stands
    cases taken
    rw [stands]
    cases there <;> simp [Call.to]
  · rename_i loaded submitted stands
    cases taken
    rw [stands]
    cases submitted <;> simp [Call.to]
  · rename_i embedding outcome stands
    rw [stands]
    split at taken
    · cases taken
    · rename_i more
      have some : 0 < embedding.remaining.length := List.length_pos_iff.mpr more
      split at taken
      · cases taken
        simp only [Call.to,Embedding.fails,List.length_drop,batchSize]
        omega
      · rename_i verdict stackable
        cases taken
        have valid := @batch_valid _ (embedding.remaining.take batchSize) verdict stackable
        simp only [Call.to,List.length_drop,List.length_append,List.length_take,batchSize] at valid ⊢
        omega
  · rename_i embedding deleted invalid done stands
    rw [stands]
    split at taken <;> cases taken <;> simp [Call.to,Embedding.fails]
  · rename_i embedding invalid done stands
    rw [stands]
    split at taken <;> cases taken <;> simp [Call.to,Embedding.fails]
  · rename_i embedding done stands
    rw [stands]
    split at taken
    · cases taken
    · cases taken
      cases embedding.features.isEmpty <;> (simp [Call.to]; try omega)
  · rename_i done stands
    rw [stands]
    split at taken <;> cases taken <;> simp [Call.to]
  · rename_i loaded features result done stands
    rw [stands]
    split at taken <;> cases taken <;> simp [Call.to]
  · rename_i result done stands
    rw [stands]
    cases taken
    simp [Call.to]
  · rename_i file rest result done stands
    rw [stands]
    split at taken <;> cases taken <;> simp [Call.to]
  · cases taken

def StageStands (base left : Finset Nat) : CallStage Vector → Prop
  | .idle => False
  | .embedding embedding | .markingDeleted embedding _ _ | .markingInvalid embedding _ =>
    (∀ file ∈ embedding.remaining, file.id ∈ base) ∧ ∀ feature ∈ embedding.features, feature.1.id ∈ base
  | .adding _ features _ => features ≠ [] ∧ ∀ feature ∈ features, feature.1.id ∈ base
  | .recording remaining _ => Reduced base left ∨ ∃ file ∈ remaining, file.id ∈ base
  | .finished (.returned true) => Reduced base left
  | _ => True

-- A call on files of `base`: it has something to look at, and reports success only after one
-- of them is no longer pending.
structure CallStands (base left : Finset Nat) (call : Call Vector) : Prop where
  some : call.imageFiles ≠ []
  listed : ∀ file ∈ call.imageFiles, file.id ∈ base
  stage : StageStands base left call.stage

theorem batch_base {files : List File} {verdict : File → Verdict Vector} {stackable : Bool}
    (listed : ∀ file ∈ files, file.id ∈ base) :
    ∀ feature ∈ (processImageBatch files verdict stackable).1, feature.1.id ∈ base := by
  unfold processImageBatch
  dsimp only
  split
  · simp
  · intro feature member
    obtain ⟨file,there,same⟩ := List.mem_filterMap.mp member
    split at same
    · cases same
      exact listed file there
    · cases same

theorem reduced_less {less : Finset Nat} (reduced : Reduced base left) (fewer : less ⊆ left) : Reduced base less := by
  obtain ⟨id,there,gone⟩ := reduced
  exact ⟨id,there,fun member => gone (fewer member)⟩

theorem stands_less {less : Finset Nat} (stands : CallStands base left call) (fewer : less ⊆ left) : CallStands base less call := by
  refine ⟨stands.some,stands.listed,?_⟩
  have old := stands.stage
  cases here : call.stage with
  | recording remaining result =>
      rw [here] at old
      exact old.imp (fun reduced => reduced_less reduced fewer) id
  | finished outcome =>
      rw [here] at old
      cases outcome with
      | returned result =>
          cases result with
          | true => exact reduced_less old fewer
          | false => trivial
      | corrupted => trivial
      | raised => trivial
  | _ =>
      rw [here] at old
      exact old

theorem removed_left {ids : List Nat} {file : File} (member : file.id ∈ ids) :
    file.id ∉ pendingIds (setRemoved catalog ids) folderId := by
  intro there
  obtain ⟨pair,pending,same⟩ := List.mem_map.mp (List.mem_toFinset.mp there)
  apply (pendings_removed pending).2
  rw [same]
  exact member

theorem recorded_left {id : Nat} :
    id ∉ pendingIds (updateFile catalog id none none (some id) (some .indexed)) folderId := by
  intro there
  obtain ⟨pair,pending,same⟩ := List.mem_map.mp (List.mem_toFinset.mp there)
  exact (pendings_recorded pending).2 same

theorem call_stands (stands : CallStands base (pendingIds library.catalog folderId) call) (started : call.stage.startable = false)
    (taken : stepCall folderId library call input = some (next,call'))
    (fewer : pendingIds next.catalog folderId ⊆ pendingIds library.catalog folderId) :
    CallStands base (pendingIds next.catalog folderId) call' := by
  obtain ⟨some,listed,stage⟩ := stands
  unfold stepCall at taken
  split at taken
  · rw [started] at taken
    cases taken
  · rw [started] at taken
    cases taken
  · rename_i ready here
    cases taken
    refine ⟨some,listed,?_⟩
    cases ready <;> trivial
  · rename_i found here
    cases taken
    refine ⟨some,listed,?_⟩
    cases library.indices folderId with
    | none => trivial
    | some loaded => cases found <;> trivial
  · rename_i moved created here
    cases taken
    refine ⟨some,listed,?_⟩
    cases created <;> trivial
  · split at taken <;> cases taken <;> exact ⟨some,listed,trivial⟩
  · split at taken <;> cases taken <;> exact ⟨some,listed,trivial⟩
  · rename_i loaded there here
    cases taken
    refine ⟨some,listed,?_⟩
    cases there <;> trivial
  · rename_i loaded submitted here
    cases taken
    refine ⟨some,listed,?_,by simp⟩
    cases submitted
    · simp
    · exact listed
  · rename_i embedding outcome here
    rw [here] at stage
    have rest : ∀ file ∈ embedding.remaining.drop batchSize, file.id ∈ base :=
      fun file member => stage.1 file (List.mem_of_mem_drop member)
    split at taken
    · cases taken
    · split at taken
      · cases taken
        exact ⟨some,listed,rest,stage.2⟩
      · cases taken
        refine ⟨some,listed,rest,?_⟩
        intro feature member
        rcases List.mem_append.mp member with old | new
        · exact stage.2 feature old
        · apply batch_base _ feature new
          exact fun file member => stage.1 file (List.mem_of_mem_take member)
  · rename_i embedding deleted invalid done here
    rw [here] at stage
    split at taken <;> cases taken <;> exact ⟨some,listed,stage⟩
  · rename_i embedding invalid done here
    rw [here] at stage
    split at taken <;> cases taken <;> exact ⟨some,listed,stage⟩
  · rename_i embedding done here
    rw [here] at stage
    split at taken
    · cases taken
    · cases taken
      refine ⟨some,listed,?_⟩
      cases none : embedding.features.isEmpty with
      | true => trivial
      | false => exact ⟨by simpa using none,stage.2⟩
  · -- The whole batch is given up, and so leaves the pending rows.
    rename_i done here
    split at taken
    · cases taken
      refine ⟨some,listed,?_⟩
      obtain ⟨file,member⟩ := List.exists_mem_of_ne_nil _ some
      have gone : Reduced base (pendingIds (markFilesSkipped library.catalog (call.imageFiles.map File.id)) folderId) :=
        ⟨file.id,listed file member,removed_left (List.mem_map_of_mem member)⟩
      cases all : call.imageFiles.all fun file => !isImageFile file.path with
      | true => exact gone
      | false => trivial
    · cases taken
      exact ⟨some,listed,trivial⟩
  · rename_i loaded features result done here
    rw [here] at stage
    split at taken
    · cases taken
      refine ⟨some,listed,.inr ?_⟩
      obtain ⟨feature,member⟩ := List.exists_mem_of_ne_nil _ stage.1
      exact ⟨feature.1,List.mem_map_of_mem member,stage.2 feature member⟩
    · cases taken
      exact ⟨some,listed,trivial⟩
  · rename_i result done here
    rw [here] at stage
    cases taken
    refine ⟨some,listed,?_⟩
    cases result with
    | true => exact stage.resolve_right (by simp)
    | false => trivial
  · rename_i file rest result done here
    rw [here] at stage
    split at taken
    · cases taken
      refine ⟨some,listed,?_⟩
      rcases stage with reduced | ⟨one,member,mine⟩
      · exact .inl (reduced_less reduced fewer)
      · rcases List.mem_cons.mp member with rfl | later
        · exact .inl ⟨one.id,mine,recorded_left⟩
        · exact .inr ⟨one,later,mine⟩
    · cases taken
      exact ⟨some,listed,trivial⟩
  · cases taken

theorem call_goes (stands : CallStands base left call) (started : call.stage.startable = false) :
    ∃ input, (stepCall folderId library call input).isSome = true := by
  unfold stepCall
  have stage := stands.stage
  cases here : call.stage with
  | idle =>
      rw [here] at stage
      exact stage.elim
  | finished outcome =>
      rw [here] at started
      cases started
  | loading => exact ⟨.load .unreadable,rfl⟩
  | recovering => exact ⟨.replace false false,rfl⟩
  | embedding embedding =>
      by_cases none : embedding.remaining = []
      · refine ⟨.answer true,?_⟩
        dsimp only
        rw [if_neg (not_not.mpr none)]
        rfl
      · refine ⟨.batch Option.none,?_⟩
        dsimp only
        rw [if_neg none]
        rfl
  | recording remaining result =>
      refine ⟨.answer false,?_⟩
      cases remaining <;> rfl
  | _ => exact ⟨.answer false,rfl⟩

end Calls

section Loops
variable {library next : PhotoLibrary Vector} {worker worker' : IndexWorker Vector} {input : WorkerInput Vector}

-- The looks at the table that the loop may still take, and the steps until the next of them.
def rounds (base left : Finset Nat) (worker : IndexWorker Vector) : Nat :=
  match worker.stage with
  | .reading | .yielded | .judging true => left.card + 1
  | .indexing _ => base.card
  | _ => 0

def effort (worker : IndexWorker Vector) : Nat :=
  match worker.stage with
  | .indexing call => callEffort call + 2
  | .judging _ => 2
  | .yielded | .concluding _ => 1
  | _ => 0

def roundSteps : Nat := 4 * limit + 12

def LoopStands (base left : Finset Nat) (worker : IndexWorker Vector) : Prop :=
  match worker.stage with
  | .indexing call => left ⊆ base ∧ call.stage.startable = false ∧ CallStands base left call
  | .reading | .judging _ | .yielded | .concluding _ | .finished => True
  | _ => False

def CleanIn (catalog : Catalog) (folderId : Nat) : Prop :=
  ∀ file ∈ catalog.files.rows, file.folderId = folderId → file.status = .pending → file.clipIndex = none

theorem read_files (clean : CleanIn catalog folderId) :
    let files := getPendingFilesForFolder catalog folderId 0 limit
    (files.filter fun file => file.clipIndex = none && file.status = .pending) = files ∧ files.length ≤ limit ∧
      ∀ file ∈ files, file.id ∈ pendingIds catalog folderId := by
  intro files
  have listed : ∀ file ∈ files, file ∈ catalog.files.rows ∧ file.folderId = folderId ∧ file.status = .pending := by
    intro file member
    have sorted := List.mem_of_mem_take member
    rw [List.drop_zero,List.mem_insertionSort] at sorted
    simpa using List.mem_filter.mp sorted
  refine ⟨?_,List.length_take_le _ _,?_⟩
  · apply List.filter_eq_self.mpr
    intro file member
    obtain ⟨there,mine,pending⟩ := listed file member
    simp [pending,clean file there mine pending]
  · intro file member
    obtain ⟨there,mine,pending⟩ := listed file member
    exact mem_pendingIds.mpr ⟨file,there,mine,pending,rfl⟩

theorem index_folder (taken : stepIndexWorker library worker input = some (next,worker')) :
    worker'.folder.id = worker.folder.id := by
  unfold stepIndexWorker at taken
  repeat' split at taken
  all_goals try cases taken
  all_goals try rfl
  obtain ⟨after,-,same⟩ := Option.map_eq_some_iff.mp taken
  cases same
  rfl

def IndexWorker.reading (worker : IndexWorker Vector) : Bool := worker.stage matches .reading

def Pays (base left left' : Finset Nat) (worker worker' : IndexWorker Vector) : Prop :=
  ∃ base', LoopStands base' left' worker' ∧
    rounds base' left' worker' + (if IndexWorker.reading worker then 1 else 0) ≤ rounds base left worker ∧
    roundSteps * rounds base' left' worker' + effort worker' + 1 ≤ roundSteps * rounds base left worker + effort worker

theorem reduced_card (reduced : Reduced base left) (fewer : left ⊆ base) : left.card + 1 ≤ base.card := by
  obtain ⟨id,there,gone⟩ := reduced
  apply Finset.card_lt_card
  refine ⟨fewer,fun all => gone (all there)⟩

theorem read_pays (clean : CleanIn library.catalog worker.folder.id) (here : worker.stage = .reading)
    (taken : stepIndexWorker library worker input = some (next,worker')) :
    Pays base (pendingIds library.catalog worker.folder.id) (pendingIds next.catalog worker.folder.id) worker worker' := by
  obtain ⟨folder,issues,stage⟩ := worker
  subst here
  cases input with
  | answer done =>
      obtain ⟨rfl,rfl⟩ := Prod.mk.inj (Option.some.inj taken)
      obtain ⟨all,short,listed⟩ := read_files clean
      have steps : roundSteps = 4 * limit + 12 := rfl
      have round : roundSteps * ((pendingIds library.catalog folder.id).card + 1) =
          roundSteps * (pendingIds library.catalog folder.id).card + roundSteps := Nat.mul_add_one _ _
      dsimp only at all short listed ⊢
      rw [all]
      cases done with
      | false =>
          refine ⟨base,trivial,Nat.le_add_left 1 _,?_⟩
          simp only [rounds,effort,IndexWorker.to,Bool.not_false,if_true]
          omega
      | true =>
          by_cases none : getPendingFilesForFolder library.catalog folder.id 0 limit = []
          · simp only [none,Bool.not_true,Bool.false_eq_true,if_false,if_true]
            refine ⟨base,trivial,Nat.le_add_left 1 _,?_⟩
            simp only [rounds,effort,IndexWorker.to]
            omega
          · simp only [none,Bool.not_true,Bool.false_eq_true,if_false]
            refine ⟨pendingIds library.catalog folder.id,⟨Finset.Subset.refl _,rfl,none,listed,trivial⟩,Nat.le_refl _,?_⟩
            simp only [rounds,effort,IndexWorker.to,callEffort]
            omega
  | _ => cases taken

theorem index_pays {call : Call Vector} (here : worker.stage = .indexing call)
    (stands : LoopStands base (pendingIds library.catalog worker.folder.id) worker)
    (taken : stepIndexWorker library worker input = some (next,worker'))
    (fewer : pendingIds next.catalog worker.folder.id ⊆ pendingIds library.catalog worker.folder.id) :
    Pays base (pendingIds library.catalog worker.folder.id) (pendingIds next.catalog worker.folder.id) worker worker' := by
  obtain ⟨folder,issues,stage⟩ := worker
  subst here
  obtain ⟨within,started,stands⟩ := stands
  cases input with
  | call told =>
      obtain ⟨⟨library',call'⟩,moved,same⟩ := Option.map_eq_some_iff.mp taken
      obtain ⟨rfl,rfl⟩ := Prod.mk.inj same
      have after := call_stands stands started moved fewer
      have lower := call_effort moved started
      have still := fewer.trans within
      dsimp only at after lower still ⊢
      cases stage : call'.stage with
      | finished outcome =>
          have reduced := after.stage
          rw [stage] at reduced
          dsimp only
          cases result : callResult outcome with
          | false =>
              refine ⟨base,trivial,Nat.zero_le _,?_⟩
              simp only [rounds,effort,IndexWorker.to]
              omega
          | true =>
              -- A row of those it looked at has gone.
              have success : outcome = .returned true := by
                cases outcome with
                | returned result' => exact congrArg _ result
                | corrupted => cases result
                | raised => cases result
              rw [success] at reduced
              have fewerRows := reduced_card reduced still
              refine ⟨base,trivial,fewerRows,?_⟩
              have bound := Nat.mul_le_mul_left roundSteps fewerRows
              simp only [rounds,effort,IndexWorker.to] at bound ⊢
              omega
      | idle =>
          have impossible := after.stage
          rw [stage] at impossible
          exact impossible.elim
      | _ =>
          refine ⟨base,⟨still,by rw [stage]; rfl,after⟩,Nat.le_refl _,?_⟩
          simp only [rounds,effort,IndexWorker.to]
          omega
  | _ => cases taken

theorem loop_pays (clean : CleanIn library.catalog worker.folder.id)
    (stands : LoopStands base (pendingIds library.catalog worker.folder.id) worker)
    (taken : stepIndexWorker library worker input = some (next,worker'))
    (fewer : pendingIds next.catalog worker.folder.id ⊆ pendingIds library.catalog worker.folder.id) :
    Pays base (pendingIds library.catalog worker.folder.id) (pendingIds next.catalog worker.folder.id) worker worker' := by
  cases here : worker.stage with
  | reading => exact read_pays clean here taken
  | indexing call => exact index_pays here stands taken fewer
  | judging result =>
      obtain ⟨folder,issues,stage⟩ := worker
      subst here
      cases input with
      | answer ready =>
          cases taken
          cases result <;> cases ready <;>
            refine ⟨base,trivial,by simp [rounds,IndexWorker.to,IndexWorker.reading],by simp [rounds,effort,roundSteps,IndexWorker.to]⟩
      | _ => cases taken
  | yielded =>
      obtain ⟨folder,issues,stage⟩ := worker
      subst here
      cases input with
      | stop isStopped =>
          cases taken
          cases isStopped <;>
            refine ⟨base,trivial,by simp [rounds,IndexWorker.to,IndexWorker.reading],by simp [rounds,effort,roundSteps,IndexWorker.to]⟩
      | _ => cases taken
  | concluding allSuccess =>
      obtain ⟨folder,issues,stage⟩ := worker
      subst here
      cases input with
      | answer done =>
          obtain ⟨-,rfl⟩ := Prod.mk.inj (Option.some.inj taken)
          exact ⟨base,trivial,Nat.le_refl _,Nat.le_refl _⟩
      | _ => cases taken
  | finished =>
      obtain ⟨folder,issues,stage⟩ := worker
      subst here
      cases taken
  | _ =>
      unfold LoopStands at stands
      rw [here] at stands
      exact stands.elim

def IndexWorker.hasLeft (worker : IndexWorker Vector) : Bool := worker.stage matches .concluding _ || worker.stage matches .finished

theorem loop_goes (library : PhotoLibrary Vector) (stands : LoopStands base left worker) (goes : IndexWorker.hasLeft worker = false) :
    ∃ input, (stepIndexWorker library worker input).isSome = true := by
  obtain ⟨folder,issues,stage⟩ := worker
  cases stage with
  | reading => exact ⟨.answer true,rfl⟩
  | judging result => exact ⟨.answer true,rfl⟩
  | yielded => exact ⟨.stop true,rfl⟩
  | indexing call =>
      obtain ⟨told,moved⟩ := call_goes stands.2.2 stands.2.1
      refine ⟨.call told,?_⟩
      unfold stepIndexWorker
      rw [Option.isSome_map]
      exact moved
  | concluding allSuccess => cases goes
  | finished => cases goes
  | _ => exact stands.elim

-- Rows of which every one has kept a number: the loop reads them again and again.
theorem stale_rows_spin (here : worker.stage = .reading)
    (some : getPendingFilesForFolder library.catalog worker.folder.id 0 limit ≠ [])
    (stale : ∀ file ∈ getPendingFilesForFolder library.catalog worker.folder.id 0 limit, file.clipIndex ≠ none) :
    stepIndexWorker library worker (.answer true) = .some (library,worker) := by
  obtain ⟨folder,issues,stage⟩ := worker
  subst here
  have nothing : ((getPendingFilesForFolder library.catalog folder.id 0 limit).filter
      fun file => file.clipIndex = none && file.status = .pending) = [] := by
    apply List.filter_eq_nil_iff.mpr
    intro file member
    simp [stale file member]
  unfold stepIndexWorker
  dsimp only at some ⊢
  rw [if_neg (by decide),if_neg some,if_pos nothing]
  rfl

end Loops

end ImageSearch.BuildIndexLoops
