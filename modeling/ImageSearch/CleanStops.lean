import ImageSearch.BackupAccounts

namespace ImageSearch.CleanStops
open Transitions ExportPipelines RunAccounts BackupAccounts
open PhoneRuns (TransferPhase)

variable {settings : Settings} {r next : Run} {input : Input}

def pastChecks : Position → Bool
  | .emptying | .closing => true
  | .finalizing phase => phase != .stopped && phase != .failed
  | _ => false

-- An export that was cancelled is about to be counted as failed.
def takesCancelled (r : Run) : Bool :=
  !r.uploading.stopHandled &&
    match consumerHand r.uploading.consumer with
    | [.failed _ cancelled] => cancelled
    | _ => false

def endsUnchecked (r : Run) : Position → Bool
  | .fetched none => r.assetBatch.totalCount == 0
  | .fetched (some _) => r.assetBatch.descriptors.isEmpty
  | _ => false

-- The stop comes before the last look at the flag, the consumer has seen it before it
-- takes a cancelled export, and no export that throws leaves a file.
def stopsInTime (r : Run) (input : Input) : Bool :=
  match input with
  | .stopTransfer => !pastChecks r.position
  | .consume => !takesCancelled r
  | .resumed => !(r.stopRequested && endsUnchecked r r.position)
  | input => !leaks input

def Heeds (r : Run) : Position → Prop
  | .emptying | .closing => r.stopRequested = false
  | .finalizing phase | .ended phase =>
    r.stopRequested = false ∨ phase = .stopped ∨ phase = .failed
  | .fetched none => r.assetBatch.totalCount ≠ 0 → r.assetBatch.descriptors ≠ []
  | .exchanging | .starting | .opening => r.assetBatch.descriptors ≠ []
  | _ => True

theorem fetched_some (fetchResult : Option Library)
    (some_ : (fetchAssetBatch fetchResult none assetFetchBatchSize).totalCount ≠ 0) :
    (fetchAssetBatch fetchResult none assetFetchBatchSize).descriptors ≠ [] := by
  cases fetchResult with
  | none => exact (some_ rfl).elim
  | some library =>
    obtain ⟨assets,distinct⟩ := library
    cases assets with
    | nil => exact (some_ rfl).elim
    | cons asset rest => simp [fetchAssetBatch,assetFetchBatchSize]

theorem next_heeds (going : r.stopRequested = false) : Heeds r.nextBatch r.nextBatch.position := by
  unfold Run.nextBatch
  split
  · exact going
  · trivial

theorem transfer_heeds (going : r.stopRequested = false ∨ r.assetBatch.descriptors ≠ []) :
    Heeds r.transferBatch r.transferBatch.position := by
  unfold Run.transferBatch
  split
  · rename_i empty
    exact next_heeds (going.resolve_right fun some_ => some_ empty)
  · trivial

theorem heeds_runTransfer (heeds : Heeds r r.position) (kept : stopsInTime r input = true)
    (taken : stepRunTransfer r r.position input = some next) : Heeds next next.position := by
  unfold stepRunTransfer at taken
  split at taken
  · cases taken; trivial
  · rename_i found _
    cases taken
    cases found
    · exact .inr (.inr rfl)
    · trivial
  · rename_i cursor authorized _
    cases taken
    cases cursor with
    | none => exact fetched_some _
    | some cursor => trivial
  · rename_i at_
    rw [at_] at heeds
    split at taken
    · rename_i none_
      cases taken
      change r.stopRequested = false
      simpa [stopsInTime,endsUnchecked,at_,none_] using kept
    · rename_i some_
      cases taken
      dsimp only
      split
      · trivial
      · exact heeds some_
  · rename_i cursor at_
    cases taken
    apply transfer_heeds
    by_cases empty : r.assetBatch.descriptors = []
    · left
      simpa [stopsInTime,endsUnchecked,at_,empty] using kept
    · exact .inr empty
  · rename_i at_
    cases taken
    rw [at_] at heeds
    exact .inl heeds
  · rename_i at_
    cases taken
    rw [at_] at heeds
    exact heeds
  · rename_i at_
    cases taken
    rw [at_] at heeds
    dsimp only
    split
    · trivial
    · exact heeds
  · cases taken; trivial
  · cases taken; trivial
  · cases taken; trivial
  · rename_i at_
    cases taken
    rw [at_] at heeds
    exact transfer_heeds (.inr heeds)
  · cases taken; exact .inr (.inl rfl)
  · cases taken; exact .inr (.inr rfl)
  · rename_i at_
    cases taken
    rw [at_] at heeds
    exact .inl heeds
  · rename_i phase at_
    cases taken
    rw [at_] at heeds
    exact heeds
  · cases taken

theorem heeds_stop (heeds : Heeds r r.position) (kept : stopsInTime r .stopTransfer = true)
    (going : ∀ phase, r.position ≠ .ended phase) : Heeds {r with stopRequested:=true} r.position := by
  simp only [stopsInTime,Bool.not_eq_true'] at kept
  cases at_ : r.position with
  | emptying | closing => rw [at_] at kept; cases kept
  | finalizing phase =>
    rw [at_] at kept
    cases phase with
    | stopped => exact .inr (.inl rfl)
    | failed => exact .inr (.inr rfl)
    | preparing | transferring | completed => cases kept
  | ended phase => exact (going phase at_).elim
  | fetched cursor =>
    rw [at_] at heeds
    cases cursor with
    | none => exact heeds
    | some cursor => trivial
  | exchanging | starting | opening => rw [at_] at heeds; exact heeds
  | loading | resetting found | fetching cursor | reporting | transferring | pausing | failing => trivial

theorem ended_still {phase : TransferPhase} (at_ : r.position = .ended phase) : step settings r input = none := by
  unfold step
  rw [at_]

theorem heeds_step (sound : Sound r) (heeds : Heeds r r.position) (kept : stopsInTime r input = true)
    (taken : step settings r input = some next) : Heeds next next.position := by
  have going : ∀ phase, r.position ≠ .ended phase := by
    intro phase at_
    rw [ended_still at_] at taken
    cases taken
  rcases step_cases taken with ⟨library,-,rfl⟩ | ⟨-,rfl⟩ | ⟨rfl,rfl⟩ | ⟨at_,taken⟩ | ⟨-,taken⟩
  · exact heeds
  · exact heeds
  · exact heeds_stop heeds kept going
  · rcases pipeline_running (sound.running at_) taken with ⟨-,position⟩ | ⟨rfl,-,-⟩
    · rw [position,at_]; trivial
    · unfold Run.endPipeline
      split
      · exact .inr (.inr rfl)
      · split
        · trivial
        · rename_i going
          have unstopped : (r.atConsumer .left).stopRequested = false := by simpa using going
          exact next_heeds unstopped
  · exact heeds_runTransfer heeds kept taken

theorem effect_cancelled {taken put : List Item} {a : Account} (effect : Effect input r next taken put a)
    (kept : stopsInTime r input = true) : a.cancelledCounted = r.cancelledCounted := by
  cases effect with
  | counted descriptor cancelled unhandled hand asked =>
    subst asked
    cases cancelled with
    | false => rfl
    | true => simp [stopsInTime,takesCancelled,unhandled,hand] at kept
  | _ => rfl

theorem keeps_files (kept : stopsInTime r input = true) : leaks input = false := by
  cases input with
  | exporting position outcome => simpa [stopsInTime] using kept
  | _ => rfl

def Ending (r : Run) : Prop :=
  r.position = .pausing ∨ ∃ phase, r.position = .finalizing phase ∨ r.position = .ended phase

structure Winding (r : Run) : Prop where
  sound : Sound r
  handled : r.uploading.stopHandled = true
  within : r.position = .transferring ∨ Ending r

def StartsNone (r next : Run) : Prop :=
  next.uploading.started = r.uploading.started ∧ next.uploading.stopHandled = true

theorem goOn_starts (handled : r.uploading.stopHandled = true) (again : Bool) : StartsNone r (r.goOn again) := by
  rw [goOn_handled handled]
  exact ⟨rfl,handled⟩

theorem fill_starts {u : Uploading} (handled : u.stopHandled = true) :
    u.fillLanes.started = u.started ∧ u.fillLanes.stopHandled = true := by
  unfold Uploading.fillLanes Uploading.awaitUpload Uploading.awaitExportResult
  rw [if_pos handled]
  split <;> exact ⟨rfl,handled⟩

theorem consumer_starts (handled : r.uploading.stopHandled = true)
    (taken : processTransferPipeline settings r r.uploading.consumer input = some next) : StartsNone r next := by
  unfold processTransferPipeline at taken
  split at taken
  · rename_i transport _
    cases taken
    exact goOn_starts (r := {r with uploading:={r.uploading with uploadLanes:=configuredUploadLanes settings transport}}) handled false
  · split at taken <;> cases taken <;> exact ⟨rfl,handled⟩
  · cases taken; exact fill_starts handled
  · rename_i result _
    cases taken
    cases result <;> unfold Run.takeResult <;> dsimp only <;> rw [if_pos handled]
    · exact goOn_starts (r := r.cleanupExportedAsset _) handled true
    · exact goOn_starts handled true
  · cases taken; exact goOn_starts handled _
  · rename_i position _
    split at taken
    · rename_i laneIndex asset result _
      dsimp only at taken
      rw [if_pos handled] at taken
      cases taken
      exact goOn_starts (r := {r with uploading:=r.uploading.leaveUpload position laneIndex}.cleanupExportedAsset asset) handled false
    · cases taken
  · split at taken <;> cases taken
    exact ⟨rfl,handled⟩
  · cases taken
    exact goOn_starts (r := {r with stopRequested:=true,uploading:={r.uploading with terminalFailure:=true}}.handleStop) rfl false
  · split at taken
    · cases taken; exact ⟨rfl,handled⟩
    · split at taken <;> cases taken
      exact ⟨rfl,handled⟩
  · rename_i result _
    cases taken
    cases result <;> unfold Run.takeResult <;> dsimp only <;> rw [if_pos handled]
    · exact goOn_starts (r := r.cleanupExportedAsset _) handled false
    · exact goOn_starts handled false
  · dsimp only at taken
    split at taken <;> cases taken
    · exact ⟨rfl,handled⟩
    · exact goOn_starts (r := {r with uploading:={r.uploading with producerFinished:=true}}) handled false
  · split at taken <;> cases taken
    have between := end_between (r := r)
    rw [StartsNone,between.uploading]
    exact ⟨rfl,handled⟩
  · cases taken

theorem producer_uploading (taken : producePreparedAssets settings r r.production.producer input = some next) :
    next.uploading = r.uploading := by
  unfold producePreparedAssets at taken
  split at taken
  · cases taken; rfl
  · split at taken <;> cases taken; rfl
  · cases taken; rfl
  · cases taken; rfl
  · cases taken; rfl
  · cases taken

theorem export_uploading {position : Nat} {task : ExportTask} {outcome : ExportOutcome}
    (taken : exportPipelineResult r position task outcome = some next) : next.uploading = r.uploading := by
  unfold exportPipelineResult at taken
  dsimp only at taken
  split at taken
  · split at taken <;> cases taken <;> rfl
  · split at taken <;> cases taken <;> rfl
  · cases taken; rfl
  · cases taken

theorem upload_starts {position : Nat} {task : UploadTask} {answer : UploadAnswer} (handled : r.uploading.stopHandled = true)
    (taken : performPreparedAssetUpload r position task answer = some next) : StartsNone r next := by
  have sent : StartsNone r (r.sendUpload position task) := by
    unfold Run.sendUpload
    rw [if_pos handled]
    exact ⟨rfl,handled⟩
  unfold performPreparedAssetUpload at taken
  split at taken
  · rw [if_pos handled] at taken
    cases taken; exact ⟨rfl,handled⟩
  · cases taken; exact ⟨rfl,handled⟩
  · cases taken; exact sent
  · cases taken; exact ⟨rfl,handled⟩
  · cases taken; exact ⟨rfl,handled⟩
  · cases taken; exact ⟨rfl,handled⟩
  · cases taken

theorem pipeline_starts (handled : r.uploading.stopHandled = true) (taken : stepPipeline settings r input = some next) :
    StartsNone r next := by
  have same : next.uploading = r.uploading → StartsNone r next := by
    intro same
    rw [StartsNone,same]
    exact ⟨rfl,handled⟩
  unfold stepPipeline at taken
  split at taken
  · exact same (producer_uploading taken)
  · exact same (producer_uploading taken)
  · obtain ⟨task,found,taken⟩ := Option.bind_eq_some_iff.mp taken
    exact same (export_uploading taken)
  · obtain ⟨task,found,taken⟩ := Option.bind_eq_some_iff.mp taken
    exact upload_starts handled taken
  · exact consumer_starts handled taken

theorem end_stopped (stopped : r.stopRequested = true) :
    r.endPipeline.position = .pausing ∨ r.endPipeline.position = .finalizing .failed := by
  unfold Run.endPipeline
  rw [if_pos stopped]
  split
  · exact .inr rfl
  · exact .inl rfl

theorem winds_up (within : Ending r)
    (taken : stepRunTransfer r r.position input = some next) :
    next.uploading = r.uploading ∧ ∃ phase, next.position = .finalizing phase ∨ next.position = .ended phase := by
  unfold stepRunTransfer at taken
  rcases within with at_ | ⟨phase,at_ | at_⟩ <;> rw [at_] at taken <;> cases input <;> cases taken
  · exact ⟨rfl,.stopped,.inl rfl⟩
  · exact ⟨rfl,phase,.inr rfl⟩

theorem winding_step (winding : Winding r) (taken : step settings r input = some next) :
    Winding next ∧ next.uploading.started = r.uploading.started := by
  have sound := sound_step winding.sound taken
  have stopped := (winding.sound.core.handled winding.handled).1
  rcases step_cases taken with ⟨library,-,rfl⟩ | ⟨-,rfl⟩ | ⟨-,rfl⟩ | ⟨at_,taken⟩ | ⟨outside,taken⟩
  · exact ⟨⟨sound,winding.handled,winding.within⟩,rfl⟩
  · exact ⟨⟨sound,winding.handled,winding.within⟩,rfl⟩
  · exact ⟨⟨sound,winding.handled,winding.within⟩,rfl⟩
  · have starts := pipeline_starts winding.handled taken
    refine ⟨⟨sound,starts.2,?_⟩,starts.1⟩
    rcases pipeline_running (winding.sound.running at_) taken with ⟨-,position⟩ | ⟨rfl,-,-⟩
    · exact .inl (position.trans at_)
    · have left : (r.atConsumer .left).stopRequested = true := stopped
      rcases end_stopped left with at_ | at_
      · exact .inr (.inl at_)
      · exact .inr (.inr ⟨.failed,.inl at_⟩)
  · have ending := winding.within.resolve_left outside
    obtain ⟨same,within⟩ := winds_up ending taken
    refine ⟨⟨sound,?_,.inr (.inr within)⟩,by rw [same]⟩
    rw [same]
    exact winding.handled

def WindsFrom (r next : Run) : Prop := Winding next ∧ next.uploading.started = r.uploading.started

theorem winding_reaches (winding : Winding r) (path : Reachable (backupRun settings) r next) : WindsFrom r next := by
  have kept : ∀ s input next, WindsFrom r s → True → (backupRun settings).step s input = some next → WindsFrom r next := by
    intro s input next ⟨winding,same⟩ _ taken
    obtain ⟨winding,kept⟩ := winding_step winding taken
    exact ⟨winding,kept.trans same⟩
  exact reaches_preserves kept ⟨winding,rfl⟩ path

theorem handled_within (sound : Sound r) (unhandled : r.uploading.stopHandled = false)
    (taken : step settings r input = some next) (handled : next.uploading.stopHandled = true) : next.position = .transferring := by
  have kept : next.uploading = r.uploading → next.position = .transferring := by
    intro same
    rw [same,unhandled] at handled
    cases handled
  rcases step_cases taken with ⟨library,-,rfl⟩ | ⟨-,rfl⟩ | ⟨-,rfl⟩ | ⟨at_,taken⟩ | ⟨-,taken⟩
  · exact kept rfl
  · exact kept rfl
  · exact kept rfl
  · rcases pipeline_running (sound.running at_) taken with ⟨-,position⟩ | ⟨rfl,-,-⟩
    · exact position.trans at_
    · rw [end_between.uploading] at handled
      exact absurd (handled.symm.trans unhandled) (by decide)
  · rcases runTransfer_between taken with between | rfl
    · exact kept between.uploading
    · rcases transfer_between (r := r) with between | ⟨-,same⟩
      · exact kept between.uploading
      · rw [same]

structure Clean (r : Run) : Prop where
  sound : Sound r
  filed : Filed r
  heeds : Heeds r r.position
  uncounted : r.cancelledCounted = 0
  winds : r.uploading.stopHandled = true → r.position = .transferring ∨ Ending r

theorem clean_step (clean : Clean r) (kept : stopsInTime r input = true) (taken : step settings r input = some next) :
    Clean next := by
  refine ⟨sound_step clean.sound taken,filed_step clean.sound clean.filed (keeps_files kept) taken,
    heeds_step clean.sound clean.heeds kept taken,?_,?_⟩
  · obtain ⟨gone,put,effect,-⟩ := step_changes clean.sound taken
    exact (effect_cancelled effect kept).trans clean.uncounted
  · intro handled
    by_cases before : r.uploading.stopHandled = true
    · exact (winding_step ⟨clean.sound,before,clean.winds before⟩ taken).1.within
    · exact .inl (handled_within clean.sound (by simpa using before) taken handled)

theorem clean_begun (library : Library) : Clean (begun library) :=
  ⟨sound_begun library,fun _ => rfl,trivial,rfl,by simp [begun]⟩

-- Over every run in which a stop comes before the last look at the flag: the run ends
-- stopped or failed, with no file left and no cancelled export counted, and once the
-- consumer has seen the stop no upload is started.
theorem stops_cleanly (settings : Settings) (library : Library) (r : Run)
    (path : Reaches (backupRun settings) (fun r input => stopsInTime r input = true) (begun library) r) :
    r.cancelledCounted = 0 ∧
    (∀ phase, r.position = .ended phase → r.files = [] ∧ (r.stopRequested = true → phase = .stopped ∨ phase = .failed)) ∧
    (r.uploading.stopHandled = true → ∀ next, Reachable (backupRun settings) r next →
      next.uploading.started = r.uploading.started) := by
  have clean : Clean r := reaches_preserves (fun _ _ _ clean kept taken => clean_step clean kept taken) (clean_begun library) path
  refine ⟨clean.uncounted,fun phase at_ => ⟨?_,fun stopped => ?_⟩,fun handled next path => ?_⟩
  · exact filed_clear clean.filed (clean.sound.cleared (by rw [at_]; simp))
  · have heeds := clean.heeds
    rw [at_] at heeds
    exact heeds.resolve_left (by rw [stopped]; decide)
  · exact (winding_reaches ⟨clean.sound,handled,clean.winds handled⟩ path).2

def oneLane : Settings := ⟨5,5,false,by decide,by decide⟩

def onePhoto : Library := ⟨["photo"],by decide⟩

def launchedOne : List Input := [.loaded true,.resumed,.fetch true,.resumed,.resumed,.resumed,.resumed,.resolved .lan,.produce]

def stoppedWaiting : List Input :=
  launchedOne ++ [.exporting 0 (.exported true),.consume,.consume,.stopTransfer,.exporting 0 (.exported true),.collect 0,
    .produce,.produce,.consume,.consume,.produce,.consume,.consume,.consume,.consume,.consume,.resumed,.resumed]

theorem photo_stopped : ∃ r : Run, (r.position = .ended .stopped ∧ r.uploading.stopHandled = true) ∧
    r.cancelledCounted = 0 ∧
    (∀ phase, r.position = .ended phase → r.files = [] ∧ (r.stopRequested = true → phase = .stopped ∨ phase = .failed)) ∧
    (r.uploading.stopHandled = true → ∀ next, Reachable (backupRun oneLane) r next →
      next.uploading.started = r.uploading.started) := by
  obtain ⟨r,path,seen⟩ := checkedRun_exhibits (backupRun oneLane) (fun r input => stopsInTime r input = true)
    (begun onePhoto) stoppedWaiting (fun r => r.position == .ended .stopped && r.uploading.stopHandled) (by decide +kernel)
  simp only [Bool.and_eq_true,beq_iff_eq] at seen
  exact ⟨r,seen,stops_cleanly oneLane onePhoto r path⟩

def stoppedLate : List Input :=
  launchedOne ++ [.exporting 0 (.threw false),.exporting 0 (.threw false),.collect 0,.produce,.produce,.consume,.consume,.consume,
    .produce,.consume,.consume,.consume,.consume,.consume,.stopTransfer,.resumed,.resumed]

def twoPhotos : Library := ⟨["first","second"],by decide⟩

-- The producer sees the stop after the first export and cancels the second, while the
-- consumer is still emptying the queue.
def stoppedUnseen : List Input :=
  launchedOne ++ [.exporting 0 (.exported true),.exporting 1 (.exported true),.stopTransfer,.exporting 0 (.exported true),.collect 0,
    .produce,.produce,.exporting 0 (.exported true),.collect 0,.produce,.produce,.consume,.consume,.consume,.consume]

theorem stop_lost : (∃ r : Run, Reachable (backupRun oneLane) (begun onePhoto) r ∧ r.stopRequested = true ∧
      r.position = .ended .transferring) ∧
    ∃ r : Run, Reachable (backupRun oneLane) (begun twoPhotos) r ∧ r.cancelledCounted = 1 := by
  constructor
  · obtain ⟨r,path,seen⟩ := checkedRun_exhibits (backupRun oneLane) (fun _ _ => True) (begun onePhoto) stoppedLate
      (fun r => r.stopRequested && r.position == .ended .transferring) (by decide +kernel)
    simp only [Bool.and_eq_true,beq_iff_eq] at seen
    exact ⟨r,path,seen⟩
  · obtain ⟨r,path,seen⟩ := checkedRun_exhibits (backupRun oneLane) (fun _ _ => True) (begun twoPhotos) stoppedUnseen
      (fun r => r.cancelledCounted == 1) (by decide +kernel)
    exact ⟨r,path,by simpa using seen⟩

end ImageSearch.CleanStops
