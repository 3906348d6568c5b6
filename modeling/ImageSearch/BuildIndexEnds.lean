import ImageSearch.BuildIndexLoops
import ImageSearch.Traces

namespace ImageSearch.BuildIndexEnds
open Transitions Threads Traces FileCatalog IndexCalls IndexWorkers IndexedPhotos FileStatements BuildIndexLoops

variable {Index Vector : Type*} {folderId : Nat} {base left : Finset Nat}

variable [DecidableEq Index] {s s' next later : Pool Index (PhotoLibrary Vector) (Worker Vector)} {i : Index}
  {move : Move Index (ThreadInput Vector) FileStatement} {worker : IndexWorker Vector}

def keepsWorker (i : Index) : Move Index (ThreadInput Vector) FileStatement → Bool
  | .thread j (.index _) | .thread j (.create _) => j ≠ i
  | _ => true

def addsNone (i : Index) (folderId : Nat) (s : Pool Index (PhotoLibrary Vector) (Worker Vector))
    (move : Move Index (ThreadInput Vector) FileStatement) : Prop :=
  keepsWorker i move = true ∧ ∀ next ∈ (filePool Index Vector).step s move,
    pendingIds next.world.catalog folderId ⊆ pendingIds s.world.catalog folderId

instance (i : Index) (folderId : Nat) (s : Pool Index (PhotoLibrary Vector) (Worker Vector))
    (move : Move Index (ThreadInput Vector) FileStatement) : Decidable (addsNone i folderId s move) :=
  inferInstanceAs (Decidable (_ ∧ _))

def ofThread (i : Index) : Move Index (ThreadInput Vector) FileStatement → Bool
  | .thread j _ => j = i
  | .environment _ => false

def Worker.reading : Worker Vector → Bool
  | .index worker => IndexWorker.reading worker
  | _ => false

def reads (i : Index) (done : Pool Index (PhotoLibrary Vector) (Worker Vector) × Move Index (ThreadInput Vector) FileStatement) :
    Bool :=
  ofThread i done.2 && Worker.reading (done.1.threads i)

def ofThisThread (i : Index)
    (done : Pool Index (PhotoLibrary Vector) (Worker Vector) × Move Index (ThreadInput Vector) FileStatement) : Bool :=
  ofThread i done.2

structure Ends (i : Index) (folderId : Nat) (next later : Pool Index (PhotoLibrary Vector) (Worker Vector))
    (trace : List (Pool Index (PhotoLibrary Vector) (Worker Vector) × Move Index (ThreadInput Vector) FileStatement)) : Prop where
  turns : trace.countP (reads i) ≤ (pendingIds next.world.catalog folderId).card + 1
  reduces : Worker.reading (later.threads i) = true →
    trace.countP (reads i) + (pendingIds later.world.catalog folderId).card ≤ (pendingIds next.world.catalog folderId).card
  steps : trace.countP (ofThisThread i) ≤ roundSteps * ((pendingIds next.world.catalog folderId).card + 1)
  goes : ∃ worker, later.threads i = .index worker ∧ (IndexWorker.hasLeft worker = true ∨
    ∃ input, (stepWorker later.world (later.threads i) (.step input)).isSome = true)

structure Attended (i : Index) (folderId : Nat) (base : Finset Nat) (worker : IndexWorker Vector)
    (s : Pool Index (PhotoLibrary Vector) (Worker Vector)) : Prop where
  here : s.threads i = .index worker
  folder : worker.folder.id = folderId
  clean : CleanIn s.world.catalog folderId
  stands : LoopStands base (pendingIds s.world.catalog folderId) worker

theorem cleanIn_stems {catalog next : Catalog} {inserted : Option (String × Nat)} (clean : CleanIn catalog folderId)
    (stems : Stems catalog next inserted) (fewer : pendingIds next folderId ⊆ pendingIds catalog folderId) :
    CleanIn next folderId := by
  intro file member mine pending
  by_contra named
  obtain ⟨old,there,same,clip,-⟩ := stems file member pending named
  -- The row was pending in this folder, whatever the step was.
  obtain ⟨row,present,mine',pending',same'⟩ := mem_pendingIds.mp (fewer (mem_pendingIds.mpr ⟨file,member,mine,pending,rfl⟩))
  have equal : old = row := List.inj_on_of_nodup_map catalog.files.distinct there present (same.trans same'.symm)
  rw [equal] at clip
  exact clip (clean row present mine' pending')

theorem loop_less {less : Finset Nat} (stands : LoopStands base left worker) (fewer : less ⊆ left) :
    LoopStands base less worker ∧ rounds base less worker ≤ rounds base left worker := by
  obtain ⟨folder,issues,stage⟩ := worker
  have card := Nat.succ_le_succ (Finset.card_le_card fewer)
  cases stage with
  | indexing call => exact ⟨⟨fewer.trans stands.1,stands.2.1,stands_less stands.2.2 fewer⟩,Nat.le_refl _⟩
  | judging result =>
      cases result with
      | true => exact ⟨trivial,card⟩
      | false => exact ⟨trivial,Nat.le_refl _⟩
  | reading => exact ⟨trivial,card⟩
  | yielded => exact ⟨trivial,card⟩
  | concluding allSuccess => exact ⟨trivial,Nat.le_refl _⟩
  | finished => exact ⟨trivial,Nat.le_refl _⟩
  | _ => exact stands.elim

-- What is still to be paid for in a state: the turns, and the steps.
def leftTurns (i : Index) (folderId : Nat) (s : Pool Index (PhotoLibrary Vector) (Worker Vector)) (k : Nat) : Prop :=
  ∃ base worker, Attended i folderId base worker s ∧ rounds base (pendingIds s.world.catalog folderId) worker ≤ k

def leftSteps (i : Index) (folderId : Nat) (s : Pool Index (PhotoLibrary Vector) (Worker Vector)) (k : Nat) : Prop :=
  ∃ base worker, Attended i folderId base worker s ∧
    roundSteps * rounds base (pendingIds s.world.catalog folderId) worker + effort worker ≤ k

theorem attended_step (attended : Attended i folderId base worker s) (allowed : addsNone i folderId s move)
    (taken : (filePool Index Vector).step s move = some s') : ∃ base' worker', Attended i folderId base' worker' s' ∧
      rounds base' (pendingIds s'.world.catalog folderId) worker' + (if reads i (s,move) then 1 else 0) ≤
        rounds base (pendingIds s.world.catalog folderId) worker ∧
      roundSteps * rounds base' (pendingIds s'.world.catalog folderId) worker' + effort worker' +
          (if ofThread i move then 1 else 0) ≤
        roundSteps * rounds base (pendingIds s.world.catalog folderId) worker + effort worker := by
  obtain ⟨here,rfl,clean,stands⟩ := attended
  have fewer := allowed.2 s' taken
  have clean' := cleanIn_stems clean (move_stems taken) fewer
  have bystander : s'.threads i = s.threads i → ofThread i move = false → ∃ base' worker',
      Attended i worker.folder.id base' worker' s' ∧
      rounds base' (pendingIds s'.world.catalog worker.folder.id) worker' + (if reads i (s,move) then 1 else 0) ≤
        rounds base (pendingIds s.world.catalog worker.folder.id) worker ∧
      roundSteps * rounds base' (pendingIds s'.world.catalog worker.folder.id) worker' + effort worker' +
          (if ofThread i move then 1 else 0) ≤
        roundSteps * rounds base (pendingIds s.world.catalog worker.folder.id) worker + effort worker := by
    intro same other
    obtain ⟨stands',less⟩ := loop_less stands fewer
    have bound := Nat.mul_le_mul_left roundSteps less
    refine ⟨base,worker,⟨same.trans here,rfl,clean',stands'⟩,?_,?_⟩
    · simp only [reads,other,Bool.false_and,Bool.false_eq_true,if_false]
      exact less
    · rw [other]
      exact Nat.add_le_add_right bound _
  cases move with
  | environment statement =>
      obtain ⟨world',moved,rfl⟩ := environment_parts taken
      exact bystander rfl rfl
  | thread j input =>
      obtain ⟨world',thread',moved,rfl⟩ := thread_parts taken
      by_cases mine : j = i
      · subst mine
        rw [here] at moved
        cases input with
        | index folder =>
            have kept := allowed.1
            simp [keepsWorker] at kept
        | create paths =>
            have kept := allowed.1
            simp [keepsWorker] at kept
        | step told =>
            obtain ⟨⟨library',worker'⟩,stepped,same⟩ := Option.map_eq_some_iff.mp moved
            cases same
            obtain ⟨base',stands',turn,step⟩ := loop_pays clean stands stepped fewer
            refine ⟨base',worker',⟨Function.update_self ..,index_folder stepped,clean',stands'⟩,?_,?_⟩
            · simpa [reads,ofThread,Worker.reading,here] using turn
            · simpa [ofThread] using step
      · apply bystander
        · exact Function.update_of_ne (Ne.symm mine) _ _
        · exact decide_eq_false mine

theorem turns_spend (s : Pool Index (PhotoLibrary Vector) (Worker Vector)) (move : Move Index (ThreadInput Vector) FileStatement)
    (s' : Pool Index (PhotoLibrary Vector) (Worker Vector)) (k : Nat) (left : leftTurns i folderId s k)
    (allowed : addsNone i folderId s move) (taken : (filePool Index Vector).step s move = some s') :
    ∃ rest, leftTurns i folderId s' rest ∧ rest + (if reads i (s,move) then 1 else 0) ≤ k := by
  obtain ⟨base,worker,attended,enough⟩ := left
  obtain ⟨base',worker',attended',turn,-⟩ := attended_step attended allowed taken
  exact ⟨_,⟨base',worker',attended',Nat.le_refl _⟩,turn.trans enough⟩

theorem steps_spend (s : Pool Index (PhotoLibrary Vector) (Worker Vector)) (move : Move Index (ThreadInput Vector) FileStatement)
    (s' : Pool Index (PhotoLibrary Vector) (Worker Vector)) (k : Nat) (left : leftSteps i folderId s k)
    (allowed : addsNone i folderId s move) (taken : (filePool Index Vector).step s move = some s') :
    ∃ rest, leftSteps i folderId s' rest ∧ rest + (if ofThisThread i (s,move) then 1 else 0) ≤ k := by
  obtain ⟨base,worker,attended,enough⟩ := left
  obtain ⟨base',worker',attended',-,step⟩ := attended_step attended allowed taken
  exact ⟨_,⟨base',worker',attended',Nat.le_refl _⟩,step.trans enough⟩

theorem attended_ends {trace : List (Pool Index (PhotoLibrary Vector) (Worker Vector) × Move Index (ThreadInput Vector) FileStatement)}
    (start : Attended i folderId ∅ worker next) (reading : worker.stage = .reading)
    (run : Traced (filePool Index Vector) (addsNone i folderId) next trace later) : Ends i folderId next later trace := by
  have allowance : rounds ∅ (pendingIds next.world.catalog folderId) worker = (pendingIds next.world.catalog folderId).card + 1 := by
    unfold rounds
    rw [reading]
  have none : effort worker = 0 := by
    unfold effort
    rw [reading]
  have turns : leftTurns i folderId next ((pendingIds next.world.catalog folderId).card + 1) := ⟨∅,worker,start,allowance.le⟩
  have steps : leftSteps i folderId next (roundSteps * ((pendingIds next.world.catalog folderId).card + 1)) := by
    refine ⟨∅,worker,start,?_⟩
    rw [allowance,none]
    exact Nat.le_refl _
  obtain ⟨rest,⟨base,after,attended,enough⟩,spent⟩ := traced_spends turns_spend turns run
  obtain ⟨rest',-,spent'⟩ := traced_spends steps_spend steps run
  refine ⟨(Nat.le_add_right _ _).trans spent,?_,(Nat.le_add_right _ _).trans spent',after,attended.here,?_⟩
  · intro again
    have left : rounds base (pendingIds later.world.catalog folderId) after =
        (pendingIds later.world.catalog folderId).card + 1 := by
      rw [attended.here] at again
      have again : IndexWorker.reading after = true := again
      unfold IndexWorker.reading at again
      split at again
      · rename_i stage
        unfold rounds
        rw [stage]
      · cases again
    omega
  · cases gone : IndexWorker.hasLeft after with
    | true => exact .inl rfl
    | false =>
        obtain ⟨told,moved⟩ := loop_goes later.world attended.stands gone
        refine .inr ⟨told,?_⟩
        rw [attended.here]
        unfold stepWorker
        rw [Option.isSome_map]
        exact moved

-- As long as no row is revived with the number of a vector, none that is pending has one; and
-- then the loop ends, whatever becomes of its batches, unless rows are added all the while.
theorem build_index_ends {Index Vector : Type*} [DecidableEq Index]
    (s next : Pool Index (PhotoLibrary Vector) (Worker Vector)) (clean : Clean s.world.catalog)
    (path : Reaches (filePool Index Vector) revivesNone s next) : Clean next.world.catalog ∧
      ∀ (i : Index) (worker : IndexWorker Vector) trace later, next.threads i = .index worker → worker.stage = .reading →
        Traced (filePool Index Vector) (addsNone i worker.folder.id) next trace later →
        Ends i worker.folder.id next later trace := by
  have reached : Clean next.world.catalog := by
    have kept : ∀ s move s', Clean s.world.catalog → revivesNone s move → (filePool Index Vector).step s move = some s' →
        Clean s'.world.catalog := fun s move s' clean fresh taken => clean_step clean fresh taken
    exact @reaches_preserves _ _ _ _ _ _ (fun s => Clean s.world.catalog) kept clean path
  refine ⟨reached,?_⟩
  intro i worker trace later here reading run
  refine attended_ends ⟨here,rfl,fun file member _ => reached file member,?_⟩ reading run
  unfold LoopStands
  rw [reading]
  trivial

def lone : Pool (Fin 1) (PhotoLibrary Unit) (Worker Unit) := ⟨samplePhotos,fun _ => .idle⟩

def comes (n : Nat) (i : Fin n) : List (Move (Fin n) (ThreadInput Unit) FileStatement) :=
  [.thread i (.index ⟨1,"/photos",.scanning⟩)] ++ ([.answer true,.stop false,.answer true,.answer true,.answer true].map
    fun input => .thread i (.step input))

def embeds (n : Nat) (i : Fin n) (verdict : File → Verdict Unit) : List (Move (Fin n) (ThreadInput Unit) FileStatement) :=
  [.answer true,.call (.answer true),.call (.load .intact),.call (.answer true),.call (.answer true),
    .call (.batch (some (verdict,true))),.call (.answer true),.call (.answer true),.call (.answer true),.call (.answer true)].map
    fun input => .thread i (.step input)

def concludes (n : Nat) (i : Fin n) : List (Move (Fin n) (ThreadInput Unit) FileStatement) :=
  [.call (.answer true),.call (.answer true),.call (.answer true),.answer true,.stop false,.answer true].map
    fun input => .thread i (.step input)

theorem samplePhotos_clean : Clean samplePhotos.catalog := by
  have all : ∀ file ∈ samplePhotos.catalog.files.rows, file.clipIndex = none := by decide
  intro file member _
  exact all file member

def atLoop (s : Pool (Fin 1) (PhotoLibrary Unit) (Worker Unit)) : Bool :=
  match s.threads 0 with
  | .index ⟨folder,_,.reading⟩ => folder.id = 1
  | _ => false

theorem two_photos_two_turns : ∃ (next later : Pool (Fin 1) (PhotoLibrary Unit) (Worker Unit))
    (trace : List (Pool (Fin 1) (PhotoLibrary Unit) (Worker Unit) × Move (Fin 1) (ThreadInput Unit) FileStatement)),
    Ends 0 1 next later trace ∧ pendingIds later.world.catalog 1 = ∅ := by
  obtain ⟨next,path,seen⟩ := checkedRun_exhibits (filePool (Fin 1) Unit) revivesNone lone (comes 1 0)
    (fun s => atLoop s && ((filePool (Fin 1) Unit).checkedRun (addsNone 0 1) s (embeds 1 0 (fun _ => .valid ()) ++ concludes 1 0)).any
      fun later => pendingIds later.world.catalog 1 = ∅) (by decide +kernel)
  obtain ⟨reading,ran⟩ := Bool.and_eq_true_iff.mp seen
  obtain ⟨later,run,none⟩ := checkedRun_exhibits _ _ next _ _ ran
  obtain ⟨trace,traced⟩ := reaches_traced run
  unfold atLoop at reading
  split at reading
  · rename_i folder issues here
    have mine : folder.id = 1 := of_decide_eq_true reading
    have ends := (build_index_ends lone next samplePhotos_clean path).2 0 _ trace later here rfl (by rw [mine]; exact traced)
    rw [mine] at ends
    exact ⟨next,later,trace,ends,of_decide_eq_true none⟩
  · cases reading

-- Two loops have the same photos in hand. One records them, the other finds them gone and
-- marks them removed, and then a photo is back.
theorem revived_keeps_number : ¬ ∀ s next : Pool (Fin 2) (PhotoLibrary Unit) (Worker Unit), Clean s.world.catalog →
    Reachable (filePool (Fin 2) Unit) s next → Clean next.world.catalog := by
  intro all
  obtain ⟨next,path,seen⟩ := checkedRun_exhibits (filePool (Fin 2) Unit) (fun _ _ => True) ⟨samplePhotos,fun _ => .idle⟩
    (comes 2 0 ++ comes 2 1 ++ [.thread 1 (.step (.answer true))] ++ embeds 2 0 (fun _ => .valid ()) ++ concludes 2 0 ++
      (embeds 2 1 fun _ => .deleted).tail ++ [.environment (.insertFile "/photos/a.jpg" 1)])
    (fun s => s.world.catalog.files.rows.any fun file => file.status = .pending && file.clipIndex ≠ none) (by decide +kernel)
  obtain ⟨file,member,stale⟩ := List.any_eq_true.mp seen
  obtain ⟨pending,named⟩ := Bool.and_eq_true_iff.mp stale
  have none := all _ next samplePhotos_clean path file member (of_decide_eq_true pending)
  exact of_decide_eq_true named none

end ImageSearch.BuildIndexEnds
