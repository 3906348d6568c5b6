import ImageSearch.RunAccounts

namespace ImageSearch.BackupAccounts
open ExportPipelines RunAccounts

variable {settings : Settings} {r next : Run} {input : Input} {d : String} {g : Nat}

def one : Item → Nat := fun _ => 1

def waitingFor (d : String) : Item → Nat
  | .waiting descriptor => [descriptor].count d
  | _ => 0

def unasked (d : String) : Item → Nat
  | .exporting descriptor => [descriptor].count d
  | .result (.prepared asset) => [asset.descriptor].count d
  | _ => 0

def unsent (d : String) : Item → Nat
  | .exporting descriptor => [descriptor].count d
  | .result (.prepared asset) | .lookingUp asset => [asset.descriptor].count d
  | _ => 0

def fileOf (g : Nat) : Item → Nat
  | .result (.prepared asset) | .lookingUp asset | .sending asset | .answered asset _ => [asset.file].count g
  | _ => 0

def successOf (d : String) : Item → Nat
  | .answered asset result => if succeeds result then [asset.descriptor].count d else 0
  | _ => 0

theorem total_one (items : List Item) : total one items = items.length := by
  induction items with
  | nil => rfl
  | cons item rest ih => simp [one,ih,Nat.add_comm]

theorem total_zero {f : Item → Nat} {items : List Item} (zero : ∀ item ∈ items, f item = 0) : total f items = 0 := by
  induction items with
  | nil => rfl
  | cons item rest ih =>
    rw [total_cons,zero item (List.mem_cons_self ..),ih fun other there => zero other (List.mem_cons_of_mem _ there)]

theorem total_waiting (descriptors : List String) : total (waitingFor d) (descriptors.map .waiting) = descriptors.count d := by
  induction descriptors with
  | nil => rfl
  | cons descriptor rest ih =>
    rw [List.map_cons,total_cons,ih,← List.singleton_append (l := rest),List.count_append]
    rfl

theorem total_dropped (assets : List PreparedTransferAsset) :
    total (fileOf g) (assets.map fun asset => .result (.prepared asset)) = (assets.map PreparedTransferAsset.file).count g := by
  induction assets with
  | nil => rfl
  | cons asset rest ih =>
    rw [List.map_cons,total_cons,ih,List.map_cons,← List.singleton_append (l := rest.map _),List.count_append]
    rfl

theorem total_unlaunched {f : Item → Nat} (zero : ∀ descriptor, f (.waiting descriptor) = 0) (descriptors : List String) :
    total f (descriptors.map .waiting) = 0 := by
  apply total_zero
  intro item there
  obtain ⟨descriptor,-,rfl⟩ := List.mem_map.mp there
  exact zero descriptor

section Effects
variable {taken put : List Item} {a : Account}

theorem effect_counts (effect : Effect input r next taken put a) (going : next.stopRequested = false) :
    a.transferredCount + a.failedCount + put.length + r.production.launched.length =
      r.transferredCount + r.failedCount + taken.length + a.launched.length := by
  cases effect with
  | quiet | began | prepared | threw | lookup | sent | answered => rfl
  | launched descriptors => simp only [account,List.length_map,List.length_append,List.length_nil]; omega
  | counted => simp only [account,List.length_cons,List.length_nil]; omega
  | processed asset result =>
    have settled : (succeeds result).toNat + (!succeeds result).toNat = 1 := by cases succeeds result <;> rfl
    simp only [account,Account.settle,List.length_cons,List.length_nil]
    omega
  | refused _ stopped | interrupted _ stopped | ignored _ _ stopped | dropped _ stopped | aborted _ _ _ stopped
  | discarded _ _ stopped => rw [going] at stopped; cases stopped

theorem effect_exports (effect : Effect input r next taken put a) (going : next.stopRequested = false) (d : String) :
    a.exported.count d + total (waitingFor d) put + r.production.launched.count d =
      r.exported.count d + total (waitingFor d) taken + a.launched.count d := by
  cases effect with
  | quiet | prepared | threw | counted | processed | lookup => rfl
  | launched descriptors => simp only [account,total_waiting,total_nil,List.count_append]; omega
  | began descriptor => simp only [account,total_cons,total_nil,waitingFor,List.count_append]; omega
  | sent item asset ready => rcases ready with rfl | rfl <;> rfl
  | answered item asset result asked => rcases asked with rfl | rfl <;> rfl
  | refused _ stopped | interrupted _ stopped | ignored _ _ stopped | dropped _ stopped | aborted _ _ _ stopped
  | discarded _ _ stopped => rw [going] at stopped; cases stopped

theorem effect_lookups (effect : Effect input r next taken put a) (d : String) :
    a.lookedUp.count d + total (unasked d) put + r.exported.count d ≤
      r.lookedUp.count d + total (unasked d) taken + a.exported.count d := by
  cases effect with
  | quiet | prepared | counted | ignored | processed | discarded | refused => exact Nat.le_refl _
  | threw | interrupted => simp only [account,total_cons,total_nil,unasked]; omega
  | launched descriptors =>
    have none_ : total (unasked d) (descriptors.map .waiting) = 0 := total_unlaunched (fun _ => rfl) descriptors
    rw [none_]
    exact Nat.le_refl _
  | dropped => simp only [account,total_nil]; omega
  | began descriptor => simp only [account,total_cons,total_nil,unasked,List.count_append]; omega
  | lookup asset => simp only [account,total_cons,total_nil,unasked,List.count_append]; omega
  | sent item asset ready | aborted item asset ready =>
    rcases ready with rfl | rfl <;> simp only [account,total_cons,total_nil,unasked] <;> omega
  | answered item asset result asked => rcases asked with rfl | rfl <;> exact Nat.le_refl _

theorem effect_uploads (effect : Effect input r next taken put a) (d : String) :
    a.uploaded.count d + total (unsent d) put + r.exported.count d ≤
      r.uploaded.count d + total (unsent d) taken + a.exported.count d := by
  cases effect with
  | quiet | prepared | counted | ignored | processed | discarded | refused | lookup => exact Nat.le_refl _
  | threw | interrupted => simp only [account,total_cons,total_nil,unsent]; omega
  | launched descriptors =>
    have none_ : total (unsent d) (descriptors.map .waiting) = 0 := total_unlaunched (fun _ => rfl) descriptors
    rw [none_]
    exact Nat.le_refl _
  | dropped => simp only [account,total_nil]; omega
  | began descriptor => simp only [account,total_cons,total_nil,unsent,List.count_append]; omega
  | sent item asset ready =>
    rcases ready with rfl | rfl <;> simp only [account,total_cons,total_nil,unsent,List.count_append] <;> omega
  | aborted item asset ready => rcases ready with rfl | rfl <;> simp only [account,total_cons,total_nil,unsent] <;> omega
  | answered item asset result asked => rcases asked with rfl | rfl <;> simp only [account,total_cons,total_nil,unsent] <;> omega

theorem effect_files (effect : Effect input r next taken put a) (kept : leaks input = false) (g : Nat) :
    a.files.count g = r.files.count g + total (fileOf g) put - total (fileOf g) taken := by
  cases effect with
  | quiet | began | refused | interrupted | counted | ignored => rfl
  | launched descriptors =>
    have none_ : total (fileOf g) (descriptors.map .waiting) = 0 := total_unlaunched (fun _ => rfl) descriptors
    rw [none_]
    rfl
  | threw descriptor leavesFile left =>
    cases leavesFile with
    | false => rfl
    | true => rw [kept] at left; cases left rfl
  | prepared descriptor => simp only [total_cons,total_nil,fileOf,List.count_append]; omega
  | dropped assets => simp only [total_nil,total_dropped,List.count_diff]; omega
  | lookup asset => simp only [account,total_cons,total_nil,fileOf]; omega
  | sent item asset ready | aborted item asset ready =>
    rcases ready with rfl | rfl <;> simp only [account,total_cons,total_nil,fileOf] <;> omega
  | answered item asset result asked => rcases asked with rfl | rfl <;> simp only [account,total_cons,total_nil,fileOf] <;> omega
  | discarded asset result | processed asset result =>
    simp only [account,Account.settle,total_cons,total_nil,fileOf,List.count_erase,List.count_singleton]
    omega

theorem effect_confirmed (effect : Effect input r next taken put a) (d : String) (unconfirmed : d ∉ a.confirmed) :
    d ∉ r.confirmed ∧ total (successOf d) put ≤ total (successOf d) taken ∧
      (d ∈ a.successfullyTransferredAssetIDs →
        d ∈ r.successfullyTransferredAssetIDs ∨ total (successOf d) put < total (successOf d) taken) := by
  cases effect with
  | quiet | began | refused | interrupted | counted | ignored | threw | prepared | lookup =>
    exact ⟨unconfirmed,Nat.le_refl _,.inl⟩
  | dropped => exact ⟨unconfirmed,Nat.zero_le _,.inl⟩
  | launched descriptors =>
    have none_ : total (successOf d) (descriptors.map .waiting) = 0 := total_unlaunched (fun _ => rfl) descriptors
    exact ⟨unconfirmed,Nat.le_of_eq none_,.inl⟩
  | sent item asset ready | aborted item asset ready =>
    rcases ready with rfl | rfl <;> exact ⟨unconfirmed,Nat.le_refl _,.inl⟩
  | answered item asset result asked =>
    have zero : total (successOf d) [item] = 0 := by rcases asked with rfl | rfl <;> rfl
    rw [zero]
    simp only [account] at unconfirmed ⊢
    split at unconfirmed
    · rw [List.mem_append,not_or] at unconfirmed
      refine ⟨unconfirmed.1,?_,.inl⟩
      have other : [asset.descriptor].count d = 0 := List.count_eq_zero.mpr unconfirmed.2
      simp [successOf,other]
    · rename_i failed
      exact ⟨unconfirmed,by simp [successOf,failed],.inl⟩
  | discarded => exact ⟨unconfirmed,Nat.zero_le _,.inl⟩
  | processed asset result =>
    refine ⟨unconfirmed,Nat.zero_le _,?_⟩
    simp only [account,Account.settle,total_cons,total_nil,successOf]
    split
    · intro there
      rcases List.mem_insert_iff.mp there with rfl | there
      · right; simp
      · exact .inl there
    · exact .inl

end Effects

section Frames
variable {p p' : Production} {earlier : List String}

def Follows (earlier : List String) (p : Production) : Prop := p.launched = earlier ++ p.assets.take p.nextAssetIndex

structure Framed (r next : Run) : Prop where
  library : next.library = r.library
  cached : next.cachedFetchResult = r.cachedFetchResult
  assetBatch : next.assetBatch = r.assetBatch
  totalCount : next.totalCount = r.totalCount
  source : next.source = r.source
  batchStart : next.batchStart = r.batchStart
  present : next.present = r.present
  stopped : r.stopRequested = true → next.stopRequested = true
  assets : next.production.assets = r.production.assets
  follows : ∀ earlier, Follows earlier r.production → Follows earlier next.production

theorem framed_goOn (again : Bool) : Framed r (r.goOn again) := by
  unfold Run.goOn Run.loop
  split
  · exact ⟨rfl,rfl,rfl,rfl,rfl,rfl,rfl,id,rfl,fun _ => id⟩
  · split <;> exact ⟨rfl,rfl,rfl,rfl,rfl,rfl,rfl,id,rfl,fun _ => id⟩

theorem framed_take (again : Bool) (result : ExportPipelineResult) : Framed r (r.takeResult again result) := by
  cases result <;> unfold Run.takeResult <;> dsimp only <;> split
  · have goes := framed_goOn (r := r.cleanupExportedAsset ‹_›) again
    exact {goes with}
  · have goes := framed_goOn (r := r.buffer ‹_›) again
    exact {goes with}
  · exact framed_goOn again
  · exact ⟨rfl,rfl,rfl,rfl,rfl,rfl,rfl,id,rfl,fun _ => id⟩

theorem framed_process (asset : PreparedTransferAsset) (result : PreparedTransferUploadResult) :
    Framed r (processUploadResult r asset result) := by
  unfold processUploadResult
  dsimp only
  split <;> exact ⟨rfl,rfl,rfl,rfl,rfl,rfl,rfl,id,rfl,fun _ => id⟩

theorem launch_follows (follows : Follows earlier p) : Follows earlier p.launchExport := by
  unfold Production.launchExport
  split
  · exact follows
  · rename_i descriptor found
    unfold Follows at follows ⊢
    dsimp only
    rw [follows,List.take_add_one,found,List.append_assoc]
    rfl

theorem launches_follow (limit : Nat) (follows : Follows earlier p) : Follows earlier (p.launchExports limit) := by
  induction limit generalizing p with
  | zero => exact follows
  | succ limit ih => exact ih (launch_follows follows)

theorem goOn_follows (stops : Bool) (limit : Nat) (follows : Follows earlier p) : Follows earlier (p.goOn stops limit) := by
  unfold Production.goOn
  split
  · exact follows
  · exact launches_follow limit follows

theorem enqueue_follows (stops : Bool) (follows : Follows earlier p) : Follows earlier (p.enqueueOrdered stops) := by
  unfold Production.enqueueOrdered
  split
  · exact follows
  · exact goOn_follows stops 1 follows

theorem goOn_assets (stops : Bool) (limit : Nat) : (p.goOn stops limit).assets = p.assets := by
  unfold Production.goOn
  split
  · rfl
  · exact ExportWindows.launches_kept.assets

theorem enqueue_assets (stops : Bool) : (p.enqueueOrdered stops).assets = p.assets := by
  unfold Production.enqueueOrdered
  split
  · rfl
  · exact goOn_assets stops 1

theorem framed_producer (taken : producePreparedAssets settings r r.production.producer input = some next) :
    Framed r next := by
  unfold producePreparedAssets at taken
  split at taken
  · cases taken
    exact ⟨rfl,rfl,rfl,rfl,rfl,rfl,rfl,id,goOn_assets _ _,fun _ => goOn_follows _ _⟩
  · split at taken
    · cases taken
      exact ⟨rfl,rfl,rfl,rfl,rfl,rfl,rfl,id,enqueue_assets _,fun _ follows => enqueue_follows _ follows⟩
    · cases taken
  · cases taken
    exact ⟨rfl,rfl,rfl,rfl,rfl,rfl,rfl,id,rfl,fun _ => id⟩
  · cases taken
    exact ⟨rfl,rfl,rfl,rfl,rfl,rfl,rfl,id,enqueue_assets _,fun _ follows => enqueue_follows _ follows⟩
  · cases taken
    exact ⟨rfl,rfl,rfl,rfl,rfl,rfl,rfl,id,rfl,fun _ => id⟩
  · cases taken

theorem framed_export {position : Nat} {task : ExportTask} {outcome : ExportOutcome}
    (taken : exportPipelineResult r position task outcome = some next) : Framed r next := by
  unfold exportPipelineResult at taken
  dsimp only at taken
  split at taken
  · split at taken <;> cases taken <;> exact ⟨rfl,rfl,rfl,rfl,rfl,rfl,rfl,id,rfl,fun _ => id⟩
  · split at taken <;> cases taken <;> exact ⟨rfl,rfl,rfl,rfl,rfl,rfl,rfl,id,rfl,fun _ => id⟩
  · cases taken; exact ⟨rfl,rfl,rfl,rfl,rfl,rfl,rfl,id,rfl,fun _ => id⟩
  · cases taken

theorem framed_send {position : Nat} {task : UploadTask} : Framed r (r.sendUpload position task) := by
  unfold Run.sendUpload
  split <;> exact ⟨rfl,rfl,rfl,rfl,rfl,rfl,rfl,id,rfl,fun _ => id⟩

theorem framed_upload {position : Nat} {task : UploadTask} {answer : UploadAnswer}
    (taken : performPreparedAssetUpload r position task answer = some next) : Framed r next := by
  unfold performPreparedAssetUpload at taken
  split at taken
  · split at taken
    · cases taken; exact ⟨rfl,rfl,rfl,rfl,rfl,rfl,rfl,id,rfl,fun _ => id⟩
    · split at taken <;> cases taken
      · exact ⟨rfl,rfl,rfl,rfl,rfl,rfl,rfl,id,rfl,fun _ => id⟩
      · exact framed_send
  · cases taken; exact ⟨rfl,rfl,rfl,rfl,rfl,rfl,rfl,id,rfl,fun _ => id⟩
  · cases taken; exact framed_send
  · cases taken; exact ⟨rfl,rfl,rfl,rfl,rfl,rfl,rfl,id,rfl,fun _ => id⟩
  · cases taken; exact ⟨rfl,rfl,rfl,rfl,rfl,rfl,rfl,id,rfl,fun _ => id⟩
  · cases taken; exact ⟨rfl,rfl,rfl,rfl,rfl,rfl,rfl,id,rfl,fun _ => id⟩
  · cases taken

theorem framed_end : Framed r r.endPipeline := by
  unfold Run.endPipeline Run.nextBatch
  split
  · exact ⟨rfl,rfl,rfl,rfl,rfl,rfl,rfl,id,rfl,fun _ => id⟩
  · split
    · exact ⟨rfl,rfl,rfl,rfl,rfl,rfl,rfl,id,rfl,fun _ => id⟩
    · split <;> exact ⟨rfl,rfl,rfl,rfl,rfl,rfl,rfl,id,rfl,fun _ => id⟩

theorem framed_consumer (taken : processTransferPipeline settings r r.uploading.consumer input = some next) : Framed r next := by
  have plain : ∀ consumer, Framed r (r.atConsumer consumer) := fun _ => ⟨rfl,rfl,rfl,rfl,rfl,rfl,rfl,id,rfl,fun _ => id⟩
  unfold processTransferPipeline at taken
  split at taken
  · rename_i transport _
    cases taken
    have goes := framed_goOn (r := {r with uploading:={r.uploading with uploadLanes:=configuredUploadLanes settings transport}}) false
    exact {goes with}
  · split at taken
    · cases taken; exact plain _
    · cases taken; exact ⟨rfl,rfl,rfl,rfl,rfl,rfl,rfl,id,rfl,fun _ => id⟩
  · cases taken; exact ⟨rfl,rfl,rfl,rfl,rfl,rfl,rfl,id,rfl,fun _ => id⟩
  · cases taken; exact framed_take true _
  · cases taken; exact framed_goOn _
  · rename_i position _
    split at taken
    · rename_i laneIndex asset result _
      dsimp only at taken
      split at taken
      · cases taken
        have goes := framed_goOn (r := {r with uploading:=r.uploading.leaveUpload position laneIndex}.cleanupExportedAsset asset) false
        exact {goes with}
      · cases taken
        have processed := framed_process (r := {r with uploading:=r.uploading.leaveUpload position laneIndex}) asset result
        exact {processed with}
    · cases taken
  · split at taken
    · cases taken; exact ⟨rfl,rfl,rfl,rfl,rfl,rfl,rfl,id,rfl,fun _ => id⟩
    · cases taken
  · cases taken
    have goes := framed_goOn (r := {r with stopRequested:=true,uploading:={r.uploading with terminalFailure:=true}}.handleStop) false
    exact {goes with stopped:=fun _ => goes.stopped rfl}
  · split at taken
    · cases taken; exact ⟨rfl,rfl,rfl,rfl,rfl,rfl,rfl,id,rfl,fun _ => id⟩
    · split at taken
      · cases taken; exact plain _
      · cases taken
  · cases taken; exact framed_take false _
  · dsimp only at taken
    split at taken <;> cases taken
    · exact ⟨rfl,rfl,rfl,rfl,rfl,rfl,rfl,id,rfl,fun _ => id⟩
    · have goes := framed_goOn (r := {r with uploading:={r.uploading with producerFinished:=true}}) false
      exact {goes with}
  · split at taken
    · cases taken
      have ended := framed_end (r := r.atConsumer .left)
      exact {ended with}
    · cases taken
  · cases taken

theorem framed_pipeline (taken : stepPipeline settings r input = some next) : Framed r next := by
  unfold stepPipeline at taken
  split at taken
  · exact framed_producer taken
  · exact framed_producer taken
  · obtain ⟨task,found,taken⟩ := Option.bind_eq_some_iff.mp taken
    exact framed_export taken
  · obtain ⟨task,found,taken⟩ := Option.bind_eq_some_iff.mp taken
    exact framed_upload taken
  · exact framed_consumer taken

end Frames

theorem step_stopped (taken : step settings r input = some next) (stopped : r.stopRequested = true) :
    next.stopRequested = true := by
  rcases step_cases taken with ⟨library,-,rfl⟩ | ⟨-,rfl⟩ | ⟨-,rfl⟩ | ⟨-,taken⟩ | ⟨-,taken⟩
  · exact stopped
  · exact stopped
  · rfl
  · exact (framed_pipeline taken).stopped stopped
  · rcases runTransfer_between taken with between | rfl
    · exact between.stopped.trans stopped
    · rcases transfer_between (r := r) with between | ⟨-,same⟩
      · exact between.stopped.trans stopped
      · rw [same]; exact stopped

theorem step_going (taken : step settings r input = some next) (going : next.stopRequested = false) : r.stopRequested = false := by
  by_contra stopped
  have kept := step_stopped taken (by simpa using stopped)
  rw [going] at kept
  cases kept

structure Tallied (r : Run) : Prop where
  counts : r.stopRequested = false →
    r.transferredCount + r.failedCount + (items r).length = r.production.launched.length
  exports : r.stopRequested = false → ∀ d, r.exported.count d + total (waitingFor d) (items r) = r.production.launched.count d
  lookups : ∀ d, r.lookedUp.count d + total (unasked d) (items r) ≤ r.exported.count d
  uploads : ∀ d, r.uploaded.count d + total (unsent d) (items r) ≤ r.exported.count d
  confirmed : ∀ d, d ∉ r.confirmed → d ∉ r.successfullyTransferredAssetIDs ∧ total (successOf d) (items r) = 0

theorem tallied_begun (library : Library) : Tallied (begun library) :=
  ⟨fun _ => rfl,fun _ _ => rfl,fun _ => Nat.le_refl _,fun _ => Nat.le_refl _,fun _ _ => ⟨List.not_mem_nil,rfl⟩⟩

theorem tallied_step (sound : Sound r) (tallied : Tallied r) (taken : step settings r input = some next) : Tallied next := by
  have before := step_going taken
  obtain ⟨gone,put,effect,moved⟩ := step_changes sound taken
  refine ⟨fun going => ?_,fun going d => ?_,fun d => ?_,fun d => ?_,fun d unconfirmed => ?_⟩
  · have counts := tallied.counts (before going)
    have account := effect_counts effect going
    have length := moved one
    simp only [total_one] at length
    simp only [RunAccounts.account] at account
    omega
  · have exports := tallied.exports (before going) d
    have account := effect_exports effect going d
    have waiting := moved (waitingFor d)
    simp only [RunAccounts.account] at account
    omega
  · have lookups := tallied.lookups d
    have account := effect_lookups effect d
    have asked := moved (unasked d)
    simp only [RunAccounts.account] at account
    omega
  · have uploads := tallied.uploads d
    have account := effect_uploads effect d
    have sent := moved (unsent d)
    simp only [RunAccounts.account] at account
    omega
  · obtain ⟨earlier,less,counted⟩ := effect_confirmed effect d unconfirmed
    obtain ⟨absent,none_⟩ := tallied.confirmed d earlier
    have success := moved (successOf d)
    refine ⟨fun there => ?_,by omega⟩
    rcases counted there with there | some_
    · exact absent there
    · omega

def Filed (r : Run) : Prop := ∀ g, r.files.count g = total (fileOf g) (items r)

theorem filed_step (sound : Sound r) (filed : Filed r) (kept : leaks input = false)
    (taken : step settings r input = some next) : Filed next := by
  intro g
  obtain ⟨gone,put,effect,moved⟩ := step_changes sound taken
  have account := effect_files effect kept g
  have before := filed g
  have weight := moved (fileOf g)
  simp only [RunAccounts.account] at account
  omega

theorem filed_clear (filed : Filed r) (clear : items r = []) : r.files = [] := by
  apply List.eq_nil_iff_forall_not_mem.mpr
  intro g there
  have count := filed g
  rw [clear] at count
  exact absurd (List.count_pos_iff.mpr there) (by rw [count]; exact Nat.lt_irrefl 0)

end ImageSearch.BackupAccounts
