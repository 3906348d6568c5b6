import ImageSearch.ExportWindows

namespace ImageSearch.PipelineFacts
open TransferClients ExportPipelines ExportWindows
open PhoneRuns (TransferPhase)

variable {settings : Settings} {r next : Run} {u : Uploading} {input : Input}

def limitOf (lanes : List UploadLane) (i : Nat) : Nat := (lanes[i]?).elim 0 UploadLane.concurrencyLimit

structure Laned (u : Uploading) : Prop where
  counted : u.inFlightUploadCount = u.uploadGroup.length
  byLane : ∀ i, u.inFlightUploadCountByLane i = (u.uploadGroup.map UploadTask.lane).count i
  within : ∀ i, u.inFlightUploadCountByLane i ≤ limitOf u.uploadLanes i

def Open (lanes : List UploadLane) : Prop := ∃ lane rest, lanes = lane :: rest ∧ 0 < lane.concurrencyLimit

theorem configured_open (transport : Transport) : Open (configuredUploadLanes settings transport) := by
  have capped : ∀ transport, 0 < cappedUploadConcurrencyLimit settings transport := by
    intro transport
    cases transport <;> simp [cappedUploadConcurrencyLimit]
  unfold configuredUploadLanes
  dsimp only
  split
  · exact ⟨_,_,rfl,capped _⟩
  · split
    · exact ⟨_,_,rfl,capped _⟩
    · split
      · exact ⟨_,_,rfl,capped _⟩
      · exact ⟨_,_,rfl,by simp [dualChannelUploadConcurrencyLimits,usbUploadConcurrencyMax]⟩

theorem available_free {lanes : List UploadLane} {counts : Nat → Nat} {cursor laneIndex : Nat}
    (found : nextAvailableUploadLaneIndex lanes counts cursor = some laneIndex) : counts laneIndex < limitOf lanes laneIndex := by
  have free := List.find?_some found
  unfold limitOf
  cases at_ : lanes[laneIndex]? with
  | none => simp [at_] at free
  | some lane => simpa [at_] using free

theorem available_some {lanes : List UploadLane} {counts : Nat → Nat} (cursor : Nat) (open_ : Open lanes)
    (idle : ∀ i, counts i = 0) : (nextAvailableUploadLaneIndex lanes counts cursor).isSome = true := by
  obtain ⟨lane,rest,rfl,positive⟩ := open_
  unfold nextAvailableUploadLaneIndex
  rw [List.find?_isSome]
  generalize size : (lane :: rest).length = n
  have pos : 0 < n := by rw [← size]; exact Nat.succ_pos _
  refine ⟨0,?_,by simpa [idle] using positive⟩
  refine List.mem_map.mpr ⟨(n - cursor % n) % n,List.mem_range.mpr (Nat.mod_lt _ pos),?_⟩
  have bound := Nat.mod_lt cursor pos
  have parts := Nat.div_add_mod cursor n
  have whole : cursor + (n - cursor % n) = n * (cursor / n + 1) := by
    rw [Nat.mul_succ]
    omega
  rw [Nat.add_mod_mod,whole,Nat.mul_mod_right]

theorem laned_start (laned : Laned u) {laneIndex : Nat} {asset : PreparedTransferAsset} {rest : List PreparedTransferAsset}
    (free : u.inFlightUploadCountByLane laneIndex < limitOf u.uploadLanes laneIndex) :
    Laned (u.startUpload laneIndex asset rest) := by
  refine ⟨by simp [Uploading.startUpload,laned.counted],?_,?_⟩
  · intro i
    have counted := laned.byLane i
    by_cases same : i = laneIndex
    · subst same; simp [Uploading.startUpload,counted]
    · simp [Uploading.startUpload,Function.update_of_ne same,counted,Ne.symm same]
  · intro i
    by_cases same : i = laneIndex
    · subst same; simpa [Uploading.startUpload] using Nat.succ_le_of_lt free
    · simpa [Uploading.startUpload,Function.update_of_ne same] using laned.within i

theorem laned_leave (laned : Laned u) {position : Nat} {task : UploadTask} (found : u.uploadGroup[position]? = some task) :
    Laned (u.leaveUpload position task.lane) := by
  have erased := perm_erased found
  refine ⟨?_,?_,?_⟩
  · have length := erased.length_eq
    simp only [Uploading.leaveUpload,laned.counted,length,List.length_cons]
    omega
  · intro i
    have counted := laned.byLane i
    rw [(erased.map UploadTask.lane).count_eq,List.map_cons] at counted
    by_cases same : i = task.lane
    · subst same; simp [Uploading.leaveUpload,counted]
    · simp [Uploading.leaveUpload,Function.update_of_ne same,counted,Ne.symm same]
  · intro i
    have within := laned.within i
    by_cases same : i = task.lane
    · subst same; simp only [Uploading.leaveUpload,Function.update_self]; omega
    · simpa [Uploading.leaveUpload,Function.update_of_ne same] using within

theorem laned_set (laned : Laned u) {position : Nat} {task : UploadTask} (found : u.uploadGroup[position]? = some task)
    (phase : UploadPhase) : Laned {u with uploadGroup:=u.uploadGroup.set position {task with phase}} := by
  refine ⟨by simp [laned.counted],?_,laned.within⟩
  intro i
  have same : (u.uploadGroup.set position {task with phase}).map UploadTask.lane = u.uploadGroup.map UploadTask.lane :=
    map_set found rfl
  rw [laned.byLane i,same]

structure SameLoop (u u' : Uploading) : Prop where
  lanes : u'.uploadLanes = u.uploadLanes
  finished : u'.producerFinished = u.producerFinished
  handled : u'.stopHandled = u.stopHandled
  terminal : u'.terminalFailure = u.terminalFailure

theorem starts_same {batch : List PreparedTransferAsset} : SameLoop u (u.startUploads batch) := by
  induction batch generalizing u with
  | nil => exact ⟨rfl,rfl,rfl,rfl⟩
  | cons asset rest ih =>
    unfold Uploading.startUploads
    split
    · exact ⟨rfl,rfl,rfl,rfl⟩
    · exact ⟨ih.lanes,ih.finished,ih.handled,ih.terminal⟩

theorem laned_starts {batch : List PreparedTransferAsset} (laned : Laned u) : Laned (u.startUploads batch) := by
  induction batch generalizing u with
  | nil => exact laned
  | cons asset rest ih =>
    unfold Uploading.startUploads
    split
    · exact laned
    · rename_i found
      exact ih (laned_start laned (available_free found))

theorem starts_filled {batch : List PreparedTransferAsset} (laned : Laned u) (open_ : Open u.uploadLanes)
    (all : u.bufferedUploads = batch) (idle : (u.startUploads batch).inFlightUploadCount = 0) :
    (u.startUploads batch).bufferedUploads = [] := by
  induction batch generalizing u with
  | nil => exact all
  | cons asset rest ih =>
    unfold Uploading.startUploads at idle ⊢
    split
    · rename_i refused
      rw [refused] at idle
      have none_ : u.uploadGroup = [] := List.eq_nil_of_length_eq_zero (by rw [← laned.counted]; exact idle)
      have free : ∀ i, u.inFlightUploadCountByLane i = 0 := fun i => by rw [laned.byLane i,none_]; rfl
      have found := available_some u.nextUploadLaneIndex open_ free
      rw [refused] at found
      cases found
    · rename_i laneIndex found
      rw [found] at idle
      exact ih (laned_start laned (available_free found)) open_ rfl idle

structure Core (r : Run) : Prop where
  windowed : Windowed r.production
  laned : Laned r.uploading
  finished : r.queue.isFinished = true → r.production.producer = .done
  handled : r.uploading.stopHandled = true → r.stopRequested = true ∧ r.uploading.bufferedUploads = []
  cancelled : r.production.groupCancelled = true → r.stopRequested = true
  terminal : r.uploading.terminalFailure = true → r.uploading.stopHandled = true

def Emptied (r : Run) : Prop := r.uploading.bufferedUploads = [] ∧ r.uploading.uploadGroup = []

def Drained (r : Run) : Prop := Emptied r ∧ r.queue.bufferedItems = [] ∧ r.queue.isFinished = true

def Placed (r : Run) : Consumer → Prop
  | .configuring | .dequeuing | .dequeued (some _) => Emptied r
  | .joining => r.uploading.uploadGroup ≠ []
  | .dequeued none | .leaving | .left => Drained r
  | _ => True

structure Running (r : Run) : Prop extends Core r where
  placed : Placed r r.uploading.consumer
  lanes : r.uploading.consumer ≠ .configuring → Open r.uploading.uploadLanes
  going : r.uploading.producerFinished = true → r.uploading.consumer = .leaving ∨ r.uploading.consumer = .left

theorem core_at (core : Core r) (consumer : Consumer) : Core (r.atConsumer consumer) :=
  ⟨core.windowed,⟨core.laned.counted,core.laned.byLane,core.laned.within⟩,core.finished,core.handled,core.cancelled,
    core.terminal⟩

theorem core_handle (core : Core r) (stopped : r.stopRequested = true) : Core r.handleStop :=
  ⟨core.windowed,⟨core.laned.counted,core.laned.byLane,core.laned.within⟩,core.finished,fun _ => ⟨stopped,rfl⟩,
    core.cancelled,fun _ => rfl⟩

structure GoesOn (r next : Run) : Prop where
  core : Core next
  at_ : next.uploading.consumer = .trying
  lanes : next.uploading.uploadLanes = r.uploading.uploadLanes
  finished : next.uploading.producerFinished = r.uploading.producerFinished

theorem goOn_goes (core : Core r) (again : Bool) : GoesOn r (r.goOn again) := by
  have try_ : GoesOn r (r.atConsumer .trying) := ⟨core_at core _,rfl,rfl,rfl⟩
  unfold Run.goOn
  split
  · exact try_
  · unfold Run.loop
    split
    · rename_i stops
      rw [Bool.and_eq_true] at stops
      exact ⟨core_at (core_handle core stops.1) _,rfl,rfl,rfl⟩
    · exact try_

theorem running_goOn (core : Core r) (lanes : Open r.uploading.uploadLanes) (going : r.uploading.producerFinished = false)
    (again : Bool) : Running (r.goOn again) := by
  have goes := goOn_goes core again
  refine {goes.core with placed:=?_,lanes:=?_,going:=?_}
  · rw [goes.at_]; trivial
  · intro _; rw [goes.lanes]; exact lanes
  · intro finished; rw [goes.finished,going] at finished; cases finished

theorem goOn_position (again : Bool) : (r.goOn again).position = r.position := by
  unfold Run.goOn Run.loop
  split
  · rfl
  · split <;> rfl

theorem taken_position (again : Bool) (result : ExportPipelineResult) : (r.takeResult again result).position = r.position := by
  cases result <;> unfold Run.takeResult <;> dsimp only <;> split
  · exact goOn_position again
  · exact goOn_position again
  · exact goOn_position again
  · rfl

-- Before the consumer leaves the producer has not been found finished.
theorem unfinished (running : Running r) (stays : r.uploading.consumer ≠ .leaving ∧ r.uploading.consumer ≠ .left) :
    r.uploading.producerFinished = false := by
  by_contra finished
  rcases running.going (by simpa using finished) with at_ | at_
  · exact stays.1 at_
  · exact stays.2 at_

theorem running_at (running : Running r) {consumer : Consumer} (placed : Placed r consumer)
    (lanes : Open r.uploading.uploadLanes) (going : r.uploading.producerFinished = false) : Running (r.atConsumer consumer) := by
  refine {core_at running.toCore consumer with placed:=?_,lanes:=fun _ => lanes,going:=?_}
  · cases consumer with
    | tried result | recording again | trying | terminating => trivial
    | dequeued result => cases result <;> exact placed
    | configuring | joining | dequeuing | leaving | left => exact placed
  · intro finished; exact absurd (finished.symm.trans going) (by decide)

theorem core_process (core : Core r) (asset : PreparedTransferAsset) (result : PreparedTransferUploadResult) :
    Core (processUploadResult r asset result) := by
  have same := core_at core (.recording false)
  have last := core_at core .terminating
  unfold processUploadResult
  dsimp only
  split <;> first
    | exact ⟨same.windowed,same.laned,same.finished,same.handled,same.cancelled,same.terminal⟩
    | exact ⟨last.windowed,last.laned,last.finished,last.handled,last.cancelled,last.terminal⟩

section Producing
variable {p : Production} {stops : Bool} {limit : Nat}

theorem collect_window {position : Nat} {task : ExportTask} {low : Nat} {result : ExportPipelineResult} (window : Window low p)
    (found : p.exportGroup[position]? = some task) : Window low (p.collect position task.index result) := by
  have erased := perm_erased found
  refine ⟨?_,?_,window.started,window.within⟩
  · have length := erased.length_eq
    simp only [Production.collect,window.counted,length,List.length_cons]
    omega
  · intro k
    have same : entries (p.collect position task.index result) k = entries p k := by
      simp only [entries,Production.collect,(erased.map ExportTask.index).count_eq,List.map_cons,List.count_cons]
      omega
    rw [same]
    exact window.indices k

theorem launches_cancelled (limit : Nat) : (p.launchExports limit).groupCancelled = p.groupCancelled := by
  induction limit generalizing p with
  | zero => rfl
  | succ limit ih =>
    rw [Production.launchExports,ih]
    unfold Production.launchExport
    split <;> rfl

theorem goOn_cancelled (cancelled : (p.goOn stops limit).groupCancelled = true) : stops = true ∨ p.groupCancelled = true := by
  unfold Production.goOn at cancelled
  split at cancelled
  · exact .inl ‹_›
  · right
    rw [← launches_cancelled limit]
    exact cancelled

theorem enqueue_cancelled (cancelled : (p.enqueueOrdered stops).groupCancelled = true) :
    stops = true ∨ p.groupCancelled = true := by
  unfold Production.enqueueOrdered at cancelled
  split at cancelled
  · exact .inr cancelled
  · exact goOn_cancelled cancelled

theorem stops_requested (core : Core r) (stops : r.producerStops = true) : r.stopRequested = true := by
  rcases (Bool.or_eq_true _ _).mp stops with handled | requested
  · exact (core.handled handled).1
  · exact requested

theorem running_produced (running : Running r) {production : Production} {queue : PreparedTransferAssetQueue}
    (open_ : r.production.producer ≠ .done) (windowed : Windowed production)
    (cancelled : production.groupCancelled = true → r.stopRequested = true)
    (finished : queue.isFinished = true → production.producer = .done) : Running {r with production,queue} := by
  refine {running with windowed,cancelled,finished,placed:=?_}
  have going : ¬ Drained r := fun drained => open_ (running.finished drained.2.2)
  have placed := running.placed
  change Placed _ r.uploading.consumer
  revert placed
  cases r.uploading.consumer with
  | dequeued result => cases result with
    | none => exact fun drained => (going drained).elim
    | some result => exact id
  | leaving | left => exact fun drained => (going drained).elim
  | configuring | trying | tried result | recording again | joining | terminating | dequeuing => exact id

theorem producer_running (running : Running r)
    (taken : producePreparedAssets settings r r.production.producer input = some next) :
    Running next ∧ next.position = r.position := by
  have core := running.toCore
  have windowed := core.windowed
  have queued : r.production.producer ≠ .done → r.queue.isFinished ≠ true := fun open_ finished => open_ (core.finished finished)
  unfold producePreparedAssets at taken
  split at taken
  · rename_i at_
    cases taken
    have open_ : r.production.producer ≠ .done := by rw [at_]; decide
    have free : held r.production.producer = 0 := by rw [at_]; rfl
    have window := windowed.window
    rw [free] at window
    refine ⟨running_produced running open_ (goOn_windowed window (windowed.drained free) settings.exports) ?_ ?_,rfl⟩
    · intro cancelled
      exact (goOn_cancelled cancelled).elim (stops_requested core) core.cancelled
    · exact fun finished => (queued open_ finished).elim
  · rename_i position at_
    split at taken
    · rename_i completedIndex descriptor exportResult found
      cases taken
      have open_ : r.production.producer ≠ .done := by rw [at_]; decide
      have free : held r.production.producer = 0 := by rw [at_]; rfl
      have window := windowed.window
      rw [free] at window
      have collected : Window r.production.nextResultIndexToEnqueue (r.production.collect position completedIndex exportResult) :=
        collect_window window found
      refine ⟨running_produced running open_ (enqueue_windowed collected) ?_ ?_,rfl⟩
      · intro cancelled
        exact (enqueue_cancelled cancelled).elim (stops_requested core) core.cancelled
      · exact fun finished => (queued open_ finished).elim
    · cases taken
  · rename_i orderedResult at_
    cases taken
    have open_ : r.production.producer ≠ .done := by rw [at_]; simp
    have window := windowed.window
    rw [at_] at window
    refine ⟨running_produced running open_ ⟨?_,?_,?_⟩ core.cancelled ?_,rfl⟩
    · exact ⟨window.counted,window.indices,window.started,window.within⟩
    · intro free; cases free
    · rintro (same | same) <;> cases same
    · exact fun finished => (queued open_ finished).elim
  · rename_i at_
    cases taken
    have open_ : r.production.producer ≠ .done := by rw [at_]; decide
    have window := windowed.window
    rw [at_] at window
    refine ⟨running_produced running open_ (enqueue_windowed ?_) ?_ ?_,rfl⟩
    · exact ⟨window.counted,window.indices,window.started,window.within⟩
    · intro cancelled
      exact (enqueue_cancelled cancelled).elim (stops_requested core) core.cancelled
    · exact fun finished => (queued open_ finished).elim
  · rename_i at_
    cases taken
    have open_ : r.production.producer ≠ .done := by rw [at_]; decide
    have free : held r.production.producer = 0 := by rw [at_]; rfl
    have ended := windowed.ended (.inl at_)
    have window := windowed.window
    rw [free] at window
    have drained := windowed.drained free
    refine ⟨running_produced running open_ ⟨?_,fun _ => drained,fun _ => ended⟩ core.cancelled fun _ => rfl,rfl⟩
    exact ⟨window.counted,window.indices,window.started,window.within⟩
  · cases taken

end Producing

theorem running_setExport (running : Running r) {position : Nat} {task : ExportTask}
    (found : r.production.exportGroup[position]? = some task) (phase : ExportPhase) : Running (r.setExport position task phase) := by
  have windowed := running.windowed
  have indices : (r.production.exportGroup.set position {task with phase}).map ExportTask.index =
      r.production.exportGroup.map ExportTask.index := map_set found rfl
  refine {running with windowed:=⟨⟨?_,?_,windowed.window.started,windowed.window.within⟩,windowed.drained,?_⟩}
  · simpa [Run.setExport] using windowed.window.counted
  · intro k
    have counted := windowed.window.indices k
    simpa [entries,Run.setExport,indices] using counted
  · intro ended
    have none_ := (windowed.ended ended).1
    rw [none_] at found
    cases found

theorem running_export (running : Running r) {position : Nat} {task : ExportTask} {outcome : ExportOutcome}
    (found : r.production.exportGroup[position]? = some task)
    (taken : exportPipelineResult r position task outcome = some next) : Running next ∧ next.position = r.position := by
  have set := running_setExport running found
  unfold exportPipelineResult at taken
  dsimp only at taken
  split at taken
  · split at taken
    · cases taken; exact ⟨set _,rfl⟩
    · cases taken
      have begun := set .exporting
      exact ⟨{begun with},rfl⟩
  · split at taken
    · cases taken
      have ended := set (.finished (.failed task.descriptor true))
      exact ⟨{ended with},rfl⟩
    · rename_i existenceCandidate _ _
      cases taken
      have ended := set (.finished (.prepared ⟨task.descriptor,r.nextFile,existenceCandidate⟩))
      exact ⟨{ended with},rfl⟩
  · cases taken
    have ended := set (.finished (.failed task.descriptor false))
    exact ⟨{ended with},rfl⟩
  · cases taken

theorem running_setUpload (running : Running r) {position : Nat} {task : UploadTask}
    (found : r.uploading.uploadGroup[position]? = some task) (phase : UploadPhase) : Running (r.setUpload position task phase) := by
  have some_ : r.uploading.uploadGroup ≠ [] := by intro none_; rw [none_] at found; cases found
  have kept : r.uploading.uploadGroup.set position {task with phase} ≠ [] := by simpa using some_
  refine {running with laned:=laned_set running.laned found phase,placed:=?_}
  have placed := running.placed
  change Placed _ r.uploading.consumer
  revert placed
  cases r.uploading.consumer with
  | dequeued result => cases result with
    | none => exact fun drained => (some_ drained.1.2).elim
    | some result => exact fun emptied => (some_ emptied.2).elim
  | leaving | left => exact fun drained => (some_ drained.1.2).elim
  | configuring | dequeuing => exact fun emptied => (some_ emptied.2).elim
  | joining => exact fun _ => kept
  | trying | tried result | recording again | terminating => exact id

theorem running_send (running : Running r) {position : Nat} {task : UploadTask}
    (found : r.uploading.uploadGroup[position]? = some task) :
    Running (r.sendUpload position task) ∧ (r.sendUpload position task).position = r.position := by
  have set := running_setUpload running found
  unfold Run.sendUpload
  split
  · exact ⟨set _,rfl⟩
  · have sent := set .uploading
    exact ⟨{sent with},rfl⟩

theorem running_upload (running : Running r) {position : Nat} {task : UploadTask} {answer : UploadAnswer}
    (found : r.uploading.uploadGroup[position]? = some task)
    (taken : performPreparedAssetUpload r position task answer = some next) : Running next ∧ next.position = r.position := by
  have set := running_setUpload running found
  have send := running_send running found
  unfold performPreparedAssetUpload at taken
  split at taken
  · split at taken
    · cases taken; exact ⟨set _,rfl⟩
    · split at taken
      · cases taken
        have looking := set .lookingUp
        exact ⟨{looking with},rfl⟩
      · cases taken; exact send
  · cases taken
    have matched := set (.finished .existingMatch)
    exact ⟨{matched with},rfl⟩
  · cases taken; exact send
  · rename_i status _
    cases taken
    have answered := set (.finished (.response status))
    exact ⟨{answered with},rfl⟩
  · cases taken; exact ⟨set _,rfl⟩
  · cases taken; exact ⟨set _,rfl⟩
  · cases taken

theorem running_take (core : Core r) (lanes : Open r.uploading.uploadLanes) (going : r.uploading.producerFinished = false)
    (again : Bool) (result : ExportPipelineResult) : Running (r.takeResult again result) := by
  cases result with
  | prepared asset =>
    unfold Run.takeResult
    dsimp only
    split
    · have cleaned : Core (r.cleanupExportedAsset asset) := {core with}
      exact running_goOn cleaned lanes going again
    · rename_i unhandled
      have buffered : Core (r.buffer asset) :=
        {core with laned:=⟨core.laned.counted,core.laned.byLane,core.laned.within⟩,handled:=fun handled => (unhandled handled).elim}
      exact running_goOn buffered lanes going again
  | failed descriptor cancelled =>
    unfold Run.takeResult
    dsimp only
    split
    · exact running_goOn core lanes going again
    · have recorded := core_at core (.recording again)
      refine {recorded with placed:=trivial,lanes:=fun _ => lanes,going:=?_}
      intro finished; exact absurd (finished.symm.trans going) (by decide)

theorem running_await (running : Running r) (going : r.uploading.producerFinished = false) (lanes : Open r.uploading.uploadLanes)
    (laned : Laned u) (same : SameLoop r.uploading u)
    (stopped : r.uploading.stopHandled = true → u.bufferedUploads = []) (filled : u.inFlightUploadCount = 0 → u.bufferedUploads = []) :
    Running {r with uploading:=u.awaitUpload} := by
  unfold Uploading.awaitUpload
  split
  · rename_i some_
    refine {running with
      laned:=⟨laned.counted,laned.byLane,laned.within⟩,
      handled:=fun handled => ?_,terminal:=fun terminal => ?_,placed:=?_,lanes:=fun _ => ?_,going:=fun finished => ?_}
    · rw [same.handled] at handled
      exact ⟨(running.handled handled).1,stopped handled⟩
    · rw [same.terminal] at terminal
      exact same.handled.trans (running.terminal terminal)
    · intro none_
      rw [laned.counted,none_] at some_
      cases some_
    · rw [same.lanes]; exact lanes
    · rw [same.finished,going] at finished; cases finished
  · rename_i none_
    have idle : u.inFlightUploadCount = 0 := by omega
    have empty : u.uploadGroup = [] := List.eq_nil_of_length_eq_zero (laned.counted.symm.trans idle)
    unfold Uploading.awaitExportResult
    rw [same.finished.trans going]
    refine {running with
      laned:=⟨laned.counted,laned.byLane,laned.within⟩,
      handled:=fun handled => ?_,terminal:=fun terminal => ?_,placed:=⟨filled idle,empty⟩,lanes:=fun _ => ?_,
      going:=fun finished => ?_}
    · rw [same.handled] at handled
      exact ⟨(running.handled handled).1,stopped handled⟩
    · rw [same.terminal] at terminal
      exact same.handled.trans (running.terminal terminal)
    · rw [same.lanes]; exact lanes
    · exact absurd (show false = true from finished) (by decide)

theorem running_fill (running : Running r) (going : r.uploading.producerFinished = false) (lanes : Open r.uploading.uploadLanes) :
    Running {r with uploading:=r.uploading.fillLanes} := by
  unfold Uploading.fillLanes
  split
  · rename_i handled
    have none_ := (running.handled handled).2
    exact running_await running going lanes running.laned ⟨rfl,rfl,rfl,rfl⟩ (fun _ => none_) fun _ => none_
  · rename_i unhandled
    refine running_await running going lanes (laned_starts running.laned) starts_same ?_ ?_
    · exact fun handled => (unhandled handled).elim
    · exact starts_filled running.laned lanes rfl

theorem running_dequeued (running : Running r) {rest : List ExportPipelineResult} {consumer : Consumer}
    (placed : Placed {r with queue:={r.queue with bufferedItems:=rest}} consumer) (lanes : Open r.uploading.uploadLanes)
    (going : r.uploading.producerFinished = false) (open_ : ¬ Drained r) :
    Running ({r with queue:={r.queue with bufferedItems:=rest}}.atConsumer consumer) := by
  have kept : Running {r with queue:={r.queue with bufferedItems:=rest}} := by
    refine {running with placed:=?_}
    have old := running.placed
    change Placed _ r.uploading.consumer
    revert old
    cases r.uploading.consumer with
    | dequeued result => cases result with
      | none => exact fun drained => (open_ drained).elim
      | some result => exact id
    | leaving | left => exact fun drained => (open_ drained).elim
    | configuring | trying | tried result | recording again | joining | terminating | dequeuing => exact id
  exact running_at kept placed lanes going

theorem running_process (core : Core r) (lanes : Open r.uploading.uploadLanes) (going : r.uploading.producerFinished = false)
    (asset : PreparedTransferAsset) (result : PreparedTransferUploadResult) :
    Running (processUploadResult r asset result) ∧ (processUploadResult r asset result).position = r.position := by
  have processed := core_process core asset result
  have kept : (processUploadResult r asset result).uploading.uploadLanes = r.uploading.uploadLanes ∧
      (processUploadResult r asset result).uploading.producerFinished = false ∧
      ((processUploadResult r asset result).uploading.consumer = .terminating ∨
        (processUploadResult r asset result).uploading.consumer = .recording false) ∧
      (processUploadResult r asset result).position = r.position := by
    unfold processUploadResult
    dsimp only
    split
    · exact ⟨rfl,going,.inl rfl,rfl⟩
    all_goals exact ⟨rfl,going,.inr rfl,rfl⟩
  obtain ⟨same,unfinished,at_,position⟩ := kept
  refine ⟨{processed with placed:=?_,lanes:=fun _ => same ▸ lanes,going:=fun finished => ?_},position⟩
  · rcases at_ with at_ | at_ <;> rw [at_] <;> trivial
  · rw [unfinished] at finished; cases finished

theorem consumer_running (running : Running r)
    (taken : processTransferPipeline settings r r.uploading.consumer input = some next) :
    Running next ∧ next.position = r.position ∨
      next = (r.atConsumer .left).endPipeline ∧ r.uploading.consumer = .leaving ∧ r.production.producer = .done := by
  have core := running.toCore
  have placed := running.placed
  have open_ := running.lanes
  have unfinished := unfinished running
  unfold processTransferPipeline at taken
  split at taken
  · rename_i transport at_
    rw [at_] at placed unfinished
    cases taken
    have laned : Laned {r.uploading with uploadLanes:=configuredUploadLanes settings transport} := by
      refine ⟨core.laned.counted,core.laned.byLane,fun i => ?_⟩
      have none_ := core.laned.byLane i
      rw [placed.2] at none_
      exact none_ ▸ Nat.zero_le _
    have configured : Core {r with uploading:={r.uploading with uploadLanes:=configuredUploadLanes settings transport}} :=
      {core with laned}
    exact .inl ⟨running_goOn configured (configured_open transport) (unfinished (by simp)) false,goOn_position false⟩
  · rename_i at_
    rw [at_] at open_ unfinished
    split at taken
    · cases taken
      exact .inl ⟨running_at running trivial (open_ (by simp)) (unfinished (by simp)),rfl⟩
    · rename_i exportResult rest items
      cases taken
      have fed : ¬ Drained r := by rintro ⟨-,none_,-⟩; rw [items] at none_; cases none_
      exact .inl ⟨running_dequeued running trivial (open_ (by simp)) (unfinished (by simp)) fed,rfl⟩
  · rename_i at_
    rw [at_] at open_ unfinished
    cases taken
    exact .inl ⟨running_fill running (unfinished (by simp)) (open_ (by simp)),rfl⟩
  · rename_i exportResult at_
    rw [at_] at open_ unfinished
    cases taken
    exact .inl ⟨running_take core (open_ (by simp)) (unfinished (by simp)) true exportResult,taken_position true exportResult⟩
  · rename_i again at_
    rw [at_] at open_ unfinished
    cases taken
    exact .inl ⟨running_goOn core (open_ (by simp)) (unfinished (by simp)) again,goOn_position again⟩
  · rename_i position at_
    rw [at_] at open_ unfinished
    split at taken
    · rename_i laneIndex preparedAsset uploadResult found
      have left : Core {r with uploading:=r.uploading.leaveUpload position laneIndex} :=
        {core with laned:=laned_leave core.laned found}
      dsimp only at taken
      split at taken
      · cases taken
        have cleaned : Core ({r with uploading:=r.uploading.leaveUpload position laneIndex}.cleanupExportedAsset preparedAsset) :=
          {left with}
        exact .inl ⟨running_goOn cleaned (open_ (by simp)) (unfinished (by simp)) false,goOn_position false⟩
      · cases taken
        exact .inl (running_process left (open_ (by simp)) (unfinished (by simp)) preparedAsset uploadResult)
    · cases taken
  · rename_i at_
    rw [at_] at placed
    split at taken
    · rename_i none_
      exact (placed none_).elim
    · cases taken
  · rename_i at_
    rw [at_] at open_ unfinished
    cases taken
    have stopped : Core {r with stopRequested:=true,uploading:={r.uploading with terminalFailure:=true}}.handleStop :=
      ⟨core.windowed,⟨core.laned.counted,core.laned.byLane,core.laned.within⟩,core.finished,fun _ => ⟨rfl,rfl⟩,fun _ => rfl,
        fun _ => rfl⟩
    exact .inl ⟨running_goOn stopped (open_ (by simp)) (unfinished (by simp)) false,goOn_position false⟩
  · rename_i at_
    rw [at_] at placed open_ unfinished
    split at taken
    · rename_i exportResult rest items
      cases taken
      have fed : ¬ Drained r := by rintro ⟨-,none_,-⟩; rw [items] at none_; cases none_
      exact .inl ⟨running_dequeued running placed (open_ (by simp)) (unfinished (by simp)) fed,rfl⟩
    · rename_i items
      split at taken
      · rename_i finished
        cases taken
        exact .inl ⟨running_at running ⟨placed,items,finished⟩ (open_ (by simp)) (unfinished (by simp)),rfl⟩
      · cases taken
  · rename_i exportResult at_
    rw [at_] at open_ unfinished
    cases taken
    exact .inl ⟨running_take core (open_ (by simp)) (unfinished (by simp)) false exportResult,taken_position false exportResult⟩
  · rename_i at_
    rw [at_] at placed open_
    have idle : r.uploading.inFlightUploadCount = 0 := by rw [core.laned.counted,placed.1.2]; rfl
    dsimp only at taken
    rw [if_pos ⟨placed.1.1,idle⟩] at taken
    cases taken
    have left := core_at core .leaving
    exact .inl ⟨{left with
      laned:=⟨left.laned.counted,left.laned.byLane,left.laned.within⟩
      placed
      lanes:=fun _ => open_ (by simp)
      going:=fun _ => .inl rfl},rfl⟩
  · rename_i at_
    split at taken
    · rename_i done
      cases taken
      exact .inr ⟨rfl,at_,done⟩
    · cases taken
  · cases taken

end ImageSearch.PipelineFacts
