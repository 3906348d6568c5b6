import ImageSearch.PipelineFacts

namespace ImageSearch.RunAccounts
open ExportPipelines ExportWindows PipelineFacts
open PhoneRuns (TransferPhase)

variable {settings : Settings} {r next : Run} {input : Input}

inductive Item where
  | waiting (descriptor : String)
  | exporting (descriptor : String)
  | result (result : ExportPipelineResult)
  | lookingUp (asset : PreparedTransferAsset)
  | sending (asset : PreparedTransferAsset)
  | answered (asset : PreparedTransferAsset) (result : PreparedTransferUploadResult)

def exportItem (task : ExportTask) : Item :=
  match task.phase with
  | .created => .waiting task.descriptor
  | .exporting => .exporting task.descriptor
  | .finished result => .result result

def uploadItem (task : UploadTask) : Item :=
  match task.phase with
  | .created => .result (.prepared task.asset)
  | .lookingUp => .lookingUp task.asset
  | .uploading => .sending task.asset
  | .finished result => .answered task.asset result

def producerHand : Producer → List ExportPipelineResult
  | .enqueuing result => [result]
  | _ => []

def consumerHand : Consumer → List ExportPipelineResult
  | .tried (some result) | .dequeued (some result) => [result]
  | _ => []

def total (f : Item → Nat) (items : List Item) : Nat := (items.map f).sum

def produced (p : Production) : List Item :=
  p.exportGroup.map exportItem ++ (p.pendingResultsByIndex.map fun entry => .result entry.2) ++
    (producerHand p.producer).map .result

def consumed (u : Uploading) : List Item :=
  (consumerHand u.consumer).map .result ++ (u.bufferedUploads.map fun asset => .result (.prepared asset)) ++
    u.uploadGroup.map uploadItem

def items (r : Run) : List Item := produced r.production ++ r.queue.bufferedItems.map .result ++ consumed r.uploading

variable {f : Item → Nat}

@[simp] theorem total_nil : total f [] = 0 := rfl
@[simp] theorem total_cons {item : Item} {rest : List Item} : total f (item :: rest) = f item + total f rest := rfl
@[simp] theorem total_append {one two : List Item} : total f (one ++ two) = total f one + total f two := by
  simp [total]

theorem total_map {α : Type} {g : α → Item} {l : List α} : total f (l.map g) = (l.map fun x => f (g x)).sum := by
  simp [total,Function.comp_def]

structure Account where
  transferredCount : Nat
  failedCount : Nat
  successfullyTransferredAssetIDs : List String
  files : List Nat
  launched : List String
  exported : List String
  lookedUp : List String
  uploaded : List String
  confirmed : List String
  cancelledCounted : Nat

def account (r : Run) : Account :=
  ⟨r.transferredCount,r.failedCount,r.successfullyTransferredAssetIDs,r.files,r.production.launched,r.exported,r.lookedUp,
    r.uploaded,r.confirmed,r.cancelledCounted⟩

def succeeds : PreparedTransferUploadResult → Bool
  | .existingMatch | .response .stored | .response .skipped => true
  | _ => false

def Account.settle (a : Account) (asset : PreparedTransferAsset) (result : PreparedTransferUploadResult) : Account :=
  {a with
    transferredCount:=a.transferredCount + (succeeds result).toNat
    failedCount:=a.failedCount + (!succeeds result).toNat
    successfullyTransferredAssetIDs:=if succeeds result then a.successfullyTransferredAssetIDs.insert asset.descriptor
      else a.successfullyTransferredAssetIDs
    files:=a.files.erase asset.file}

def leaks : Input → Bool
  | .exporting _ (.threw leavesFile) => leavesFile
  | _ => false

-- The items a step takes away and those it puts, and the account it leaves.
inductive Effect (input : Input) (r next : Run) : List Item → List Item → Account → Prop where
  | quiet : Effect input r next [] [] (account r)
  | launched (descriptors : List String) : Effect input r next [] (descriptors.map .waiting)
      {account r with launched:=r.production.launched ++ descriptors}
  | began (descriptor : String) : Effect input r next [.waiting descriptor] [.exporting descriptor]
      {account r with exported:=r.exported ++ [descriptor]}
  | refused (descriptor : String) (stopped : next.stopRequested = true) :
      Effect input r next [.waiting descriptor] [.result (.failed descriptor true)] (account r)
  | prepared (descriptor : String) (existenceCandidate : Bool) :
      Effect input r next [.exporting descriptor] [.result (.prepared ⟨descriptor,r.nextFile,existenceCandidate⟩)]
        {account r with files:=r.files ++ [r.nextFile]}
  | interrupted (descriptor : String) (stopped : next.stopRequested = true) :
      Effect input r next [.exporting descriptor] [.result (.failed descriptor true)] (account r)
  | threw (descriptor : String) (leavesFile : Bool) (left : leavesFile = true → leaks input = true) :
      Effect input r next [.exporting descriptor] [.result (.failed descriptor false)]
        {account r with files:=if leavesFile then r.files ++ [r.nextFile] else r.files}
  | counted (descriptor : String) (cancelled : Bool) (unhandled : r.uploading.stopHandled = false)
      (hand : consumerHand r.uploading.consumer = [.failed descriptor cancelled]) (asked : input = .consume) :
      Effect input r next [.result (.failed descriptor cancelled)] []
        {account r with failedCount:=r.failedCount + 1,cancelledCounted:=r.cancelledCounted + cancelled.toNat}
  | ignored (descriptor : String) (cancelled : Bool) (stopped : next.stopRequested = true) :
      Effect input r next [.result (.failed descriptor cancelled)] [] (account r)
  | dropped (assets : List PreparedTransferAsset) (stopped : next.stopRequested = true) :
      Effect input r next (assets.map fun asset => .result (.prepared asset)) []
        {account r with files:=r.files.diff (assets.map PreparedTransferAsset.file)}
  | lookup (asset : PreparedTransferAsset) : Effect input r next [.result (.prepared asset)] [.lookingUp asset]
      {account r with lookedUp:=r.lookedUp ++ [asset.descriptor]}
  | sent (item : Item) (asset : PreparedTransferAsset) (ready : item = .result (.prepared asset) ∨ item = .lookingUp asset) :
      Effect input r next [item] [.sending asset] {account r with uploaded:=r.uploaded ++ [asset.descriptor]}
  | aborted (item : Item) (asset : PreparedTransferAsset)
      (ready : item = .result (.prepared asset) ∨ item = .lookingUp asset) (stopped : next.stopRequested = true) :
      Effect input r next [item] [.answered asset (.failed false)] (account r)
  | answered (item : Item) (asset : PreparedTransferAsset) (result : PreparedTransferUploadResult)
      (asked : item = .lookingUp asset ∨ item = .sending asset) :
      Effect input r next [item] [.answered asset result]
        {account r with confirmed:=if succeeds result then r.confirmed ++ [asset.descriptor] else r.confirmed}
  | discarded (asset : PreparedTransferAsset) (result : PreparedTransferUploadResult) (stopped : next.stopRequested = true) :
      Effect input r next [.answered asset result] [] {account r with files:=r.files.erase asset.file}
  | processed (asset : PreparedTransferAsset) (result : PreparedTransferUploadResult) :
      Effect input r next [.answered asset result] [] ((account r).settle asset result)

-- A step with its effect; every weight of the items moves by what was taken and put.
def Changes (input : Input) (r next : Run) : Prop :=
  ∃ taken put, Effect input r next taken put (account next) ∧
    ∀ f, total f (items next) + total f taken = total f (items r) + total f put

theorem changes_quiet (same : account next = account r) (kept : ∀ f, total f (items next) = total f (items r)) :
    Changes input r next := by
  refine ⟨[],[],?_,fun f => by simp [kept]⟩
  rw [same]
  exact .quiet

section Producing
variable {p : Production} {stops : Bool} {limit : Nat}

def carried (p : Production) : List Item :=
  p.exportGroup.map exportItem ++ p.pendingResultsByIndex.map fun entry => .result entry.2

theorem launch_carried (p : Production) : ∃ descriptors : List String, p.launchExport.launched = p.launched ++ descriptors ∧
    ∀ f, total f (carried p.launchExport) = total f (carried p) + total f (descriptors.map .waiting) := by
  unfold Production.launchExport
  split
  · exact ⟨[],by simp,by simp⟩
  · rename_i descriptor _
    refine ⟨[descriptor],rfl,fun f => ?_⟩
    simp only [carried,List.map_append,List.map_singleton,total_append,total_cons,total_nil,exportItem]
    omega

theorem launches_carried (p : Production) (limit : Nat) :
    ∃ descriptors : List String, (p.launchExports limit).launched = p.launched ++ descriptors ∧
      ∀ f, total f (carried (p.launchExports limit)) = total f (carried p) + total f (descriptors.map .waiting) := by
  induction limit generalizing p with
  | zero => exact ⟨[],by simp [Production.launchExports],by simp [Production.launchExports]⟩
  | succ limit ih =>
    obtain ⟨one,first,weighed⟩ := launch_carried p
    obtain ⟨rest,launched,total_⟩ := ih p.launchExport
    refine ⟨one ++ rest,?_,fun f => ?_⟩
    · rw [Production.launchExports,launched,first,List.append_assoc]
    · have more := total_ f
      have begun := weighed f
      simp only [Production.launchExports,List.map_append,total_append]
      omega

theorem await_produced : produced p.awaitExport = carried p := by
  have hand : producerHand p.awaitExport.producer = [] := by
    unfold Production.awaitExport
    dsimp only
    split <;> rfl
  unfold produced
  rw [hand]
  exact List.append_nil _

-- What comes of the exports in flight and pending: they stay, and some more are launched.
def Grows (p p' : Production) : Prop :=
  ∃ descriptors : List String, p'.launched = p.launched ++ descriptors ∧
    ∀ f, total f (produced p') = total f (carried p) + total f (descriptors.map .waiting)

theorem goOn_grows : Grows p (p.goOn stops limit) := by
  unfold Production.goOn
  split
  · refine ⟨[],(List.append_nil _).symm,fun f => ?_⟩
    rw [await_produced]
    rfl
  · obtain ⟨descriptors,launched,weighed⟩ := launches_carried p limit
    refine ⟨descriptors,launched,fun f => ?_⟩
    rw [await_produced]
    exact weighed f

theorem enqueue_grows (stops : Bool) : Grows p (p.enqueueOrdered stops) := by
  unfold Production.enqueueOrdered
  split
  · rename_i orderedResult rest removed
    refine ⟨[],(List.append_nil _).symm,fun f => ?_⟩
    have moved := ((removed_perm removed).map fun entry => f (.result entry.2)).sum_eq
    simp only [List.map_cons,List.sum_cons] at moved
    simp only [produced,carried,producerHand,List.map_cons,List.map_nil,total_append,total_cons,total_nil,total_map,moved]
    omega
  · exact goOn_grows

theorem changes_grown {production : Production} (grows : Grows r.production production)
    (hand : producerHand r.production.producer = []) : Changes input r {r with production} := by
  obtain ⟨descriptors,launched,weighed⟩ := grows
  have same : produced r.production = carried r.production := by
    unfold produced
    rw [hand]
    exact List.append_nil _
  refine ⟨[],descriptors.map .waiting,?_,fun f => ?_⟩
  · have at_ : account {r with production} = {account r with launched:=r.production.launched ++ descriptors} := by
      simp [account,launched]
    rw [at_]
    exact .launched descriptors
  · simp only [items,total_append,weighed f,same,total_nil]
    omega

theorem producer_changes (taken : producePreparedAssets settings r r.production.producer input = some next) :
    Changes input r next := by
  unfold producePreparedAssets at taken
  split at taken
  · rename_i at_
    cases taken
    exact changes_grown goOn_grows (by rw [at_]; rfl)
  · rename_i position at_
    split at taken
    · rename_i completedIndex descriptor exportResult found
      cases taken
      refine changes_grown ?_ (by rw [at_]; rfl)
      have grows : Grows (r.production.collect position completedIndex exportResult) _ :=
        enqueue_grows r.producerStops
      obtain ⟨descriptors,launched,weighed⟩ := grows
      refine ⟨descriptors,launched,fun f => ?_⟩
      have erased := sum_erased (f := fun task => f (exportItem task)) found
      have item : exportItem ⟨completedIndex,descriptor,.finished exportResult⟩ = .result exportResult := rfl
      rw [weighed f]
      simp only [carried,Production.collect,List.map_cons,total_append,total_cons,total_map,erased,item]
      omega
    · cases taken
  · rename_i orderedResult at_
    cases taken
    refine changes_quiet rfl fun f => ?_
    simp only [items,produced,at_,producerHand,List.map_append,List.map_cons,List.map_nil,total_append,total_cons,total_nil]
    omega
  · rename_i at_
    cases taken
    exact changes_grown (enqueue_grows _) (by rw [at_]; rfl)
  · rename_i at_
    cases taken
    refine changes_quiet rfl fun f => ?_
    simp only [items,produced,at_,producerHand]
  · cases taken

end Producing

section Tasks
variable {position : Nat}

theorem setExport_total {task : ExportTask} (found : r.production.exportGroup[position]? = some task) (phase : ExportPhase)
    (f : Item → Nat) : total f (items (r.setExport position task phase)) + f (exportItem task) =
      total f (items r) + f (exportItem {task with phase}) := by
  have set := sum_set (f := fun task => f (exportItem task)) found {task with phase}
  simp only [items,produced,Run.setExport,total_append,total_map] at set ⊢
  omega

theorem setUpload_total {task : UploadTask} (found : r.uploading.uploadGroup[position]? = some task) (phase : UploadPhase)
    (f : Item → Nat) : total f (items (r.setUpload position task phase)) + f (uploadItem task) =
      total f (items r) + f (uploadItem {task with phase}) := by
  have set := sum_set (f := fun task => f (uploadItem task)) found {task with phase}
  simp only [items,consumed,Run.setUpload,total_append,total_map] at set ⊢
  omega

theorem cancelled_stops (core : Core r) (cancelled : r.exportCancelled = true) : r.stopRequested = true := by
  rcases (Bool.or_eq_true _ _).mp cancelled with group | handled
  · exact core.cancelled group
  · exact (core.handled handled).1

-- One item becomes another, and the account what the effect says.
theorem changes_one {item put : Item} (effect : Effect input r next [item] [put] (account next))
    (moved : ∀ f, total f (items next) + f item = total f (items r) + f put) : Changes input r next :=
  ⟨[item],[put],effect,fun f => by simpa using moved f⟩

theorem export_changes (core : Core r) {task : ExportTask} {outcome : ExportOutcome}
    (found : r.production.exportGroup[position]? = some task)
    (taken : exportPipelineResult r position task outcome = some next) : Changes (.exporting position outcome) r next := by
  have set := setExport_total found
  unfold exportPipelineResult at taken
  dsimp only at taken
  split at taken
  · rename_i phase
    have item : exportItem task = .waiting task.descriptor := by unfold exportItem; rw [phase]
    split at taken
    · rename_i cancelled
      have stopped := cancelled_stops core cancelled
      cases taken
      refine changes_one (.refused task.descriptor stopped) fun f => ?_
      exact item ▸ set (.finished (.failed task.descriptor true)) f
    · cases taken
      exact changes_one (.began task.descriptor) fun f => item ▸ set .exporting f
  · rename_i existenceCandidate phase
    have item : exportItem task = .exporting task.descriptor := by unfold exportItem; rw [phase]
    split at taken
    · rename_i cancelled
      have stopped := cancelled_stops core cancelled
      cases taken
      refine changes_one (.interrupted task.descriptor stopped) fun f => ?_
      exact item ▸ set (.finished (.failed task.descriptor true)) f
    · cases taken
      refine changes_one (.prepared task.descriptor existenceCandidate) fun f => ?_
      exact item ▸ set (.finished (.prepared ⟨task.descriptor,r.nextFile,existenceCandidate⟩)) f
  · rename_i leavesFile phase
    have item : exportItem task = .exporting task.descriptor := by unfold exportItem; rw [phase]
    cases taken
    refine changes_one (.threw task.descriptor leavesFile id) fun f => ?_
    exact item ▸ set (.finished (.failed task.descriptor false)) f
  · cases taken

theorem send_changes (core : Core r) {task : UploadTask} (found : r.uploading.uploadGroup[position]? = some task)
    (ready : uploadItem task = .result (.prepared task.asset) ∨ uploadItem task = .lookingUp task.asset) :
    Changes input r (r.sendUpload position task) := by
  unfold Run.sendUpload
  split
  · rename_i handled
    exact changes_one (.aborted _ task.asset ready (core.handled handled).1) (setUpload_total found _)
  · exact changes_one (.sent _ task.asset ready) (setUpload_total found .uploading)

theorem upload_changes (core : Core r) {task : UploadTask} {answer : UploadAnswer}
    (found : r.uploading.uploadGroup[position]? = some task)
    (taken : performPreparedAssetUpload r position task answer = some next) : Changes input r next := by
  have item : ∀ phase, task.phase = phase → uploadItem task = uploadItem {task with phase} := by
    rintro phase rfl; rfl
  unfold performPreparedAssetUpload at taken
  split at taken
  · rename_i phase
    have ready : uploadItem task = .result (.prepared task.asset) := item _ phase
    split at taken
    · rename_i handled
      cases taken
      exact changes_one (.aborted _ task.asset (.inl ready) (core.handled handled).1) (setUpload_total found _)
    · split at taken
      · cases taken
        exact changes_one (.lookup task.asset) fun f => ready ▸ setUpload_total found .lookingUp f
      · cases taken
        exact send_changes core found (.inl ready)
  · rename_i phase
    cases taken
    exact changes_one (.answered _ task.asset .existingMatch (.inl (item _ phase))) (setUpload_total found _)
  · rename_i phase
    cases taken
    exact send_changes core found (.inr (item _ phase))
  · rename_i status phase
    cases taken
    cases status with
    | stored | skipped | accepted | completed | rejected =>
      exact changes_one (.answered _ task.asset (.response _) (.inr (item _ phase))) (setUpload_total found _)
  · rename_i diskFull phase
    cases taken
    exact changes_one (.answered _ task.asset (.failed diskFull) (.inl (item _ phase))) (setUpload_total found _)
  · rename_i diskFull phase
    cases taken
    exact changes_one (.answered _ task.asset (.failed diskFull) (.inr (item _ phase))) (setUpload_total found _)
  · cases taken

end Tasks

def kept (u : Uploading) : List Item :=
  (u.bufferedUploads.map fun asset => .result (.prepared asset)) ++ u.uploadGroup.map uploadItem

def shelved (r : Run) : List Item := produced r.production ++ r.queue.bufferedItems.map .result ++ kept r.uploading

theorem items_shelved (f : Item → Nat) :
    total f (items r) = total f (shelved r) + total f ((consumerHand r.uploading.consumer).map .result) := by
  simp only [items,shelved,consumed,kept,total_append]
  omega

theorem items_at {consumer : Consumer} (empty : consumerHand consumer = []) (f : Item → Nat) :
    total f (items (r.atConsumer consumer)) = total f (shelved r) := by
  have parts := items_shelved (r := r.atConsumer consumer) f
  have hand : consumerHand (r.atConsumer consumer).uploading.consumer = [] := empty
  rw [hand] at parts
  exact parts

theorem loop_handled (handled : r.uploading.stopHandled = true) : r.loop = r.atConsumer .trying := by
  unfold Run.loop
  simp [handled]

theorem goOn_handled (handled : r.uploading.stopHandled = true) (again : Bool) : r.goOn again = r.atConsumer .trying := by
  unfold Run.goOn
  rw [loop_handled handled,ite_self]

theorem changes_goOn {s : Run} (again : Bool) (same : account s = account r)
    (whole : ∀ f, total f (shelved s) = total f (items r)) : Changes input r (s.goOn again) := by
  have tries : Changes input r (s.atConsumer .trying) := changes_quiet same fun f => (items_at rfl f).trans (whole f)
  unfold Run.goOn
  split
  · exact tries
  · unfold Run.loop
    split
    · rename_i stops
      rw [Bool.and_eq_true] at stops
      refine ⟨s.uploading.bufferedUploads.map fun asset => .result (.prepared asset),[],?_,fun f => ?_⟩
      · have at_ : account (s.handleStop.atConsumer .trying) =
            {account r with files:=r.files.diff (s.uploading.bufferedUploads.map PreparedTransferAsset.file)} := by
          have files : s.files = r.files := congrArg Account.files same
          rw [← same,← files]
          rfl
        rw [at_]
        exact .dropped _ stops.1
      · have left : total f (items (s.handleStop.atConsumer .trying)) = _ := items_at rfl f
        have all := whole f
        rw [left,← all]
        simp only [shelved,kept,Run.handleStop,Run.cleanupPreparedAssets,total_append,List.map_nil,total_nil]
        omega
    · exact tries

theorem hand_changes (again : Bool) {result : ExportPipelineResult} (core : Core r)
    (hand : consumerHand r.uploading.consumer = [result]) : Changes .consume r (r.takeResult again result) := by
  have parts : ∀ f, total f (items r) = total f (shelved r) + f (.result result) := by
    intro f
    rw [items_shelved,hand]
    rfl
  cases result with
  | prepared asset =>
    unfold Run.takeResult
    dsimp only
    split
    · rename_i handled
      rw [goOn_handled (r := r.cleanupExportedAsset asset) handled]
      refine ⟨[.result (.prepared asset)],[],?_,fun f => ?_⟩
      · have at_ : account ((r.cleanupExportedAsset asset).atConsumer .trying) =
            {account r with files:=r.files.diff ([asset].map PreparedTransferAsset.file)} := by
          simp [account,Run.atConsumer,Run.cleanupExportedAsset]
        rw [at_]
        exact .dropped [asset] (core.handled handled).1
      · have left : total f (items ((r.cleanupExportedAsset asset).atConsumer .trying)) = _ := items_at rfl f
        have whole := parts f
        simp only [shelved,Run.cleanupExportedAsset,total_cons,total_nil] at left whole ⊢
        omega
    · refine changes_goOn again rfl fun f => ?_
      rw [parts f]
      simp only [shelved,kept,Run.buffer,List.map_append,List.map_cons,List.map_nil,total_append,total_cons,total_nil]
      omega
  | failed descriptor cancelled =>
    unfold Run.takeResult
    dsimp only
    split
    · rename_i handled
      rw [goOn_handled handled]
      refine ⟨[.result (.failed descriptor cancelled)],[],.ignored descriptor cancelled (core.handled handled).1,fun f => ?_⟩
      rw [items_at rfl f,parts f]
      rfl
    · rename_i unhandled
      refine ⟨[.result (.failed descriptor cancelled)],[],?_,fun f => ?_⟩
      · exact .counted descriptor cancelled (by simpa using unhandled) hand rfl
      · rw [items_at rfl f,parts f]
        rfl

theorem starts_kept {batch : List PreparedTransferAsset} {u : Uploading} (all : u.bufferedUploads = batch) (f : Item → Nat) :
    total f (kept (u.startUploads batch)) = total f (kept u) := by
  induction batch generalizing u with
  | nil => rfl
  | cons asset rest ih =>
    unfold Uploading.startUploads
    split
    · rfl
    · rename_i laneIndex _
      rw [ih rfl]
      simp only [kept,all,Uploading.startUpload,List.map_append,List.map_cons,List.map_nil,total_append,total_cons,total_nil,
        uploadItem]
      omega

theorem await_consumed (u : Uploading) : consumed u.awaitUpload = kept u := by
  unfold Uploading.awaitUpload Uploading.awaitExportResult consumed
  split
  · rfl
  · dsimp only
    split <;> rfl

theorem fill_changes (hand : consumerHand r.uploading.consumer = []) : Changes input r {r with uploading:=r.uploading.fillLanes} := by
  have same : consumed r.uploading = kept r.uploading := by unfold consumed; rw [hand]; rfl
  refine changes_quiet rfl fun f => ?_
  have filled : total f (consumed r.uploading.fillLanes) = total f (consumed r.uploading) := by
    unfold Uploading.fillLanes
    rw [same]
    split
    · rw [await_consumed]
    · rw [await_consumed,starts_kept rfl]
  simp only [items,total_append,filled]

theorem left_shelved {position laneIndex : Nat} {asset : PreparedTransferAsset} {result : PreparedTransferUploadResult}
    (found : r.uploading.uploadGroup[position]? = some ⟨laneIndex,asset,.finished result⟩) (f : Item → Nat) :
    total f (shelved r) =
      total f (shelved {r with uploading:=r.uploading.leaveUpload position laneIndex}) + f (.answered asset result) := by
  have erased := sum_erased (f := fun task => f (uploadItem task)) found
  have item : uploadItem ⟨laneIndex,asset,.finished result⟩ = .answered asset result := rfl
  rw [item] at erased
  simp only [shelved,kept,Uploading.leaveUpload,total_append,total_map,erased]
  omega

theorem process_account (asset : PreparedTransferAsset) (result : PreparedTransferUploadResult) :
    account (processUploadResult r asset result) = (account r).settle asset result := by
  cases result with
  | existingMatch => rfl
  | response status => cases status <;> rfl
  | failed diskFull => cases diskFull <;> rfl

theorem process_items (asset : PreparedTransferAsset) (result : PreparedTransferUploadResult) (f : Item → Nat) :
    total f (items (processUploadResult r asset result)) = total f (shelved r) := by
  unfold processUploadResult
  dsimp only
  split <;> exact items_at rfl f

theorem next_same : account r.nextBatch = account r ∧ items r.nextBatch = items r := by
  unfold Run.nextBatch
  split <;> exact ⟨rfl,rfl⟩

theorem end_same : account r.endPipeline = account r ∧ items r.endPipeline = items r := by
  unfold Run.endPipeline
  split
  · exact ⟨rfl,rfl⟩
  · split
    · exact ⟨rfl,rfl⟩
    · exact next_same

theorem consumer_changes (running : Running r)
    (taken : processTransferPipeline settings r r.uploading.consumer input = some next) : Changes input r next := by
  have core := running.toCore
  have placed := running.placed
  have whole : consumerHand r.uploading.consumer = [] → ∀ f, total f (shelved r) = total f (items r) := by
    intro hand f
    rw [items_shelved f,hand]
    rfl
  unfold processTransferPipeline at taken
  split at taken
  · rename_i transport at_
    cases taken
    exact changes_goOn false rfl (whole (by rw [at_]; rfl))
  · rename_i at_
    have all := whole (by rw [at_]; rfl)
    split at taken
    · cases taken
      exact changes_quiet rfl fun f => (items_at rfl f).trans (all f)
    · rename_i exportResult rest fed
      cases taken
      refine changes_quiet rfl fun f => ?_
      rw [items_shelved,← all f]
      simp only [shelved,Run.atConsumer,consumerHand,kept,fed,List.map_cons,List.map_nil,total_append,total_cons,total_nil]
      omega
  · rename_i at_
    cases taken
    exact fill_changes (by rw [at_]; rfl)
  · rename_i exportResult at_
    cases taken
    exact hand_changes true core (by rw [at_]; rfl)
  · rename_i again at_
    cases taken
    exact changes_goOn again rfl (whole (by rw [at_]; rfl))
  · rename_i position at_
    have all := whole (by rw [at_]; rfl)
    split at taken
    · rename_i laneIndex asset result found
      dsimp only at taken
      split at taken
      · rename_i handled
        have stopped := (core.handled handled).1
        have goes : ({r with uploading:=r.uploading.leaveUpload position laneIndex}.cleanupExportedAsset asset).loop =
            ({r with uploading:=r.uploading.leaveUpload position laneIndex}.cleanupExportedAsset asset).atConsumer .trying := by
          apply loop_handled
          exact handled
        rw [goes] at taken
        cases taken
        refine ⟨[.answered asset result],[],.discarded asset result stopped,fun f => ?_⟩
        rw [items_at rfl,← all f,left_shelved found]
        rfl
      · cases taken
        refine ⟨[.answered asset result],[],?_,fun f => ?_⟩
        · rw [process_account]
          exact .processed asset result
        · rw [process_items,← all f,left_shelved found]
          rfl
    · cases taken
  · rename_i at_
    rw [at_] at placed
    split at taken
    · rename_i none_
      exact (placed none_).elim
    · cases taken
  · rename_i at_
    have all := whole (by rw [at_]; rfl)
    have goes : {r with stopRequested:=true,uploading:={r.uploading with terminalFailure:=true}}.handleStop.loop =
        {r with stopRequested:=true,uploading:={r.uploading with terminalFailure:=true}}.handleStop.atConsumer .trying :=
      loop_handled rfl
    rw [goes] at taken
    cases taken
    refine ⟨r.uploading.bufferedUploads.map fun asset => .result (.prepared asset),[],.dropped _ rfl,fun f => ?_⟩
    rw [items_at rfl,← all f]
    simp only [shelved,kept,Run.handleStop,Run.cleanupPreparedAssets,total_append,List.map_nil,total_nil]
    omega
  · rename_i at_
    have all := whole (by rw [at_]; rfl)
    split at taken
    · rename_i exportResult rest fed
      cases taken
      refine changes_quiet rfl fun f => ?_
      rw [items_shelved,← all f]
      simp only [shelved,Run.atConsumer,consumerHand,kept,fed,List.map_cons,List.map_nil,total_append,total_cons,total_nil]
      omega
    · split at taken
      · cases taken
        exact changes_quiet rfl fun f => (items_at rfl f).trans (all f)
      · cases taken
  · rename_i exportResult at_
    cases taken
    exact hand_changes false core (by rw [at_]; rfl)
  · rename_i at_
    have all := whole (by rw [at_]; rfl)
    dsimp only at taken
    split at taken
    · cases taken
      exact changes_quiet rfl fun f => (items_at rfl f).trans (all f)
    · cases taken
      exact changes_goOn false rfl all
  · rename_i at_
    have all := whole (by rw [at_]; rfl)
    split at taken
    · cases taken
      refine changes_quiet end_same.1 fun f => ?_
      rw [end_same.2,items_at rfl f,all f]
    · cases taken
  · cases taken

theorem pipeline_running (running : Running r) (taken : stepPipeline settings r input = some next) :
    Running next ∧ next.position = r.position ∨
      next = (r.atConsumer .left).endPipeline ∧ r.uploading.consumer = .leaving ∧ r.production.producer = .done := by
  unfold stepPipeline at taken
  split at taken
  · exact .inl (producer_running running taken)
  · exact .inl (producer_running running taken)
  · obtain ⟨task,found,taken⟩ := Option.bind_eq_some_iff.mp taken
    exact .inl (running_export running found taken)
  · obtain ⟨task,found,taken⟩ := Option.bind_eq_some_iff.mp taken
    exact .inl (running_upload running found taken)
  · exact consumer_running running taken

theorem pipeline_changes (running : Running r) (taken : stepPipeline settings r input = some next) :
    Changes input r next := by
  unfold stepPipeline at taken
  split at taken
  · exact producer_changes taken
  · exact producer_changes taken
  · obtain ⟨task,found,taken⟩ := Option.bind_eq_some_iff.mp taken
    exact export_changes running.toCore found taken
  · obtain ⟨task,found,taken⟩ := Option.bind_eq_some_iff.mp taken
    exact upload_changes running.toCore found taken
  · exact consumer_changes running taken

structure Sound (r : Run) : Prop where
  core : Core r
  running : r.position = .transferring → Running r
  cleared : r.position ≠ .transferring → items r = []

structure Between (r next : Run) : Prop where
  production : next.production = r.production
  queue : next.queue = r.queue
  uploading : next.uploading = r.uploading
  stopped : next.stopRequested = r.stopRequested
  account : account next = account r
  position : next.position ≠ .transferring

theorem next_between : Between r r.nextBatch := by
  unfold Run.nextBatch
  split <;> exact ⟨rfl,rfl,rfl,rfl,rfl,by simp⟩

theorem transfer_between : Between r r.transferBatch ∨
    r.assetBatch.descriptors ≠ [] ∧ r.transferBatch = {r with
      position:=.transferring
      production:={assets:=r.assetBatch.descriptors,launched:=r.production.launched}
      queue:={}
      uploading:={started:=r.uploading.started}} := by
  unfold Run.transferBatch
  split
  · exact .inl next_between
  · exact .inr ⟨‹_›,rfl⟩

theorem runTransfer_between (taken : stepRunTransfer r r.position input = some next) :
    Between r next ∨ next = r.transferBatch := by
  unfold stepRunTransfer at taken
  split at taken
  case h_2 found at_ =>
    cases taken
    exact .inl ⟨rfl,rfl,rfl,rfl,rfl,by cases found <;> simp⟩
  case h_4 at_ =>
    split at taken <;> cases taken
    · exact .inl ⟨rfl,rfl,rfl,rfl,rfl,by simp⟩
    · exact .inl ⟨rfl,rfl,rfl,rfl,rfl,by cases r.stopRequested <;> simp⟩
  case h_8 at_ =>
    cases taken
    exact .inl ⟨rfl,rfl,rfl,rfl,rfl,by cases r.stopRequested <;> simp⟩
  all_goals cases taken
  all_goals first
    | exact .inr rfl
    | exact .inl ⟨rfl,rfl,rfl,rfl,rfl,by simp⟩

theorem between_core (core : Core r) (between : Between r next) : Core next := by
  obtain ⟨production,queue,uploading,stopped,-,-⟩ := between
  exact ⟨production ▸ core.windowed,uploading ▸ core.laned,by rw [queue,production]; exact core.finished,
    by rw [uploading,stopped]; exact core.handled,by rw [production,stopped]; exact core.cancelled,
    by rw [uploading]; exact core.terminal⟩

theorem between_items (between : Between r next) : items next = items r := by
  unfold items
  rw [between.production,between.queue,between.uploading]

theorem begun_running (stopped : Bool) (position : Position) (assets launched started : List String) :
    Running {r with position,stopRequested:=stopped,production:={assets,launched},queue:={},uploading:={started}} where
  windowed := begun_windowed assets launched
  laned := ⟨rfl,fun _ => rfl,fun _ => Nat.zero_le _⟩
  finished := by simp
  handled := by simp
  cancelled := by simp
  terminal := by simp
  placed := ⟨rfl,rfl⟩
  lanes := fun configured => (configured rfl).elim
  going := by simp

-- A step as one of five: of the library, of the cache, of the stop flag, of the pipeline,
-- or of runTransfer around it.
theorem step_cases (taken : step settings r input = some next) :
    (∃ library, input = .library library ∧ next = {r with library,present:=r.present.filter (· ∈ library.assets)}) ∨
    (input = .handleMemoryWarning ∧ next = {r with cachedFetchResult:=none}) ∨
    (input = .stopTransfer ∧ next = {r with stopRequested:=true}) ∨
    (r.position = .transferring ∧ stepPipeline settings r input = some next) ∨
    (r.position ≠ .transferring ∧ stepRunTransfer r r.position input = some next) := by
  unfold step at taken
  split at taken
  · cases taken
  · rename_i library _
    cases taken
    exact .inl ⟨library,rfl,rfl⟩
  · cases taken
    exact .inr (.inl ⟨rfl,rfl⟩)
  · cases taken
    exact .inr (.inr (.inl ⟨rfl,rfl⟩))
  · exact .inr (.inr (.inr (.inl ⟨‹_›,taken⟩)))
  · rename_i outside _ _ _
    exact .inr (.inr (.inr (.inr ⟨fun at_ => by simp_all,taken⟩)))

theorem left_cleared (running : Running r) (at_ : r.uploading.consumer = .leaving) (done : r.production.producer = .done) :
    items (r.atConsumer .left) = [] := by
  have placed := running.placed
  rw [at_] at placed
  obtain ⟨⟨buffered,group⟩,queued,-⟩ := placed
  obtain ⟨idle,pending,-⟩ := ended_empty running.windowed (.inr done)
  simp [items,produced,consumed,Run.atConsumer,consumerHand,producerHand,done,idle,pending,buffered,group,queued]

theorem end_between : Between (r.atConsumer .left) (r.atConsumer .left).endPipeline := by
  unfold Run.endPipeline
  split
  · exact ⟨rfl,rfl,rfl,rfl,rfl,by simp⟩
  · split
    · exact ⟨rfl,rfl,rfl,rfl,rfl,by simp⟩
    · exact next_between

theorem sound_step (sound : Sound r) (taken : step settings r input = some next) : Sound next := by
  have core := sound.core
  rcases step_cases taken with ⟨library,-,rfl⟩ | ⟨-,rfl⟩ | ⟨-,rfl⟩ | ⟨at_,taken⟩ | ⟨outside,taken⟩
  · exact ⟨{core with},fun at_ => {sound.running at_ with},sound.cleared⟩
  · exact ⟨{core with},fun at_ => {sound.running at_ with},sound.cleared⟩
  · have stopped : Core {r with stopRequested:=true} :=
      {core with handled:=fun handled => ⟨rfl,(core.handled handled).2⟩,cancelled:=fun _ => rfl}
    exact ⟨stopped,fun at_ => {stopped,sound.running at_ with},sound.cleared⟩
  · have running := sound.running at_
    rcases pipeline_running running taken with ⟨running,position⟩ | ⟨rfl,left,done⟩
    · exact ⟨running.toCore,fun _ => running,fun outside => (outside (position.trans at_)).elim⟩
    · have between := end_between (r := r)
      refine ⟨between_core (core_at core _) between,fun at_ => (between.position at_).elim,fun _ => ?_⟩
      rw [between_items between]
      exact left_cleared running left done
  · rcases runTransfer_between taken with between | rfl
    · refine ⟨between_core core between,fun at_ => (between.position at_).elim,fun _ => ?_⟩
      rw [between_items between]
      exact sound.cleared outside
    · rcases transfer_between (r := r) with between | ⟨-,same⟩
      · refine ⟨between_core core between,fun at_ => (between.position at_).elim,fun _ => ?_⟩
        rw [between_items between]
        exact sound.cleared outside
      · rw [same]
        have running := begun_running (r := r) r.stopRequested .transferring r.assetBatch.descriptors r.production.launched
          r.uploading.started
        exact ⟨running.toCore,fun _ => running,fun outside => (outside rfl).elim⟩

theorem sound_begun (library : Library) : Sound (begun library) where
  core := ⟨begun_windowed _ _,⟨rfl,fun _ => rfl,fun _ => Nat.zero_le _⟩,by simp [begun],by simp [begun],by simp [begun],
    by simp [begun]⟩
  running := by simp [begun]
  cleared := fun _ => rfl

theorem step_changes (sound : Sound r) (taken : step settings r input = some next) : Changes input r next := by
  rcases step_cases taken with ⟨library,-,rfl⟩ | ⟨-,rfl⟩ | ⟨-,rfl⟩ | ⟨at_,taken⟩ | ⟨outside,taken⟩
  · exact changes_quiet rfl fun _ => rfl
  · exact changes_quiet rfl fun _ => rfl
  · exact changes_quiet rfl fun _ => rfl
  · exact pipeline_changes (sound.running at_) taken
  · rcases runTransfer_between taken with between | rfl
    · exact changes_quiet between.account fun f => by rw [between_items between]
    · rcases transfer_between (r := r) with between | ⟨-,same⟩
      · exact changes_quiet between.account fun f => by rw [between_items between]
      · rw [same]
        refine changes_quiet rfl fun f => ?_
        rw [sound.cleared outside]
        rfl

end ImageSearch.RunAccounts
