import ImageSearch.PhoneRuns
import Mathlib.Data.List.Basic

namespace ImageSearch.ExportPipelines
open Transitions TransferClients PhoneRuns

structure Library where
  assets : List String
  distinct : assets.Nodup

def Library.empty : Library := ⟨[],List.nodup_nil⟩

structure TransferAssetBatch where
  descriptors : List String
  nextCursor : Option Nat
  totalCount : Nat
  deriving DecidableEq

def assetFetchBatchSize : Nat := 100

-- The fetch result a batch is read from, and the one that is kept.
def fetchResultForTransfer (refresh authorized : Bool) (cachedFetchResult : Option Library) (library : Library) :
    Option Library × Option Library :=
  match refresh,cachedFetchResult with
  | false,some cached => (some cached,some cached)
  | _,_ => if authorized then (some library,some library) else (none,cachedFetchResult)

def fetchAssetBatch (fetchResult : Option Library) (cursor : Option Nat) (batchSize : Nat) : TransferAssetBatch :=
  match fetchResult with
  | none => ⟨[],none,0⟩
  | some found =>
    let totalCount := found.assets.length
    let startIndex := cursor.getD 0
    if startIndex < totalCount then
      let endIndex := min (startIndex + batchSize) totalCount
      ⟨(found.assets.drop startIndex).take (endIndex - startIndex),if endIndex < totalCount then some endIndex else none,totalCount⟩
    else ⟨[],none,totalCount⟩

-- An exported photo: its temporary file, and whether it can be looked up on the desktop.
structure PreparedTransferAsset where
  descriptor : String
  file : Nat
  existenceCandidate : Bool
  deriving DecidableEq

inductive ExportPipelineResult where
  | prepared (asset : PreparedTransferAsset)
  | failed (descriptor : String) (cancelled : Bool)
  deriving DecidableEq

inductive ExportPhase where
  | created
  | exporting
  | finished (result : ExportPipelineResult)
  deriving DecidableEq

structure ExportTask where
  index : Nat
  descriptor : String
  phase : ExportPhase
  deriving DecidableEq

inductive ServerStatus where
  | stored | skipped | accepted | completed | rejected
  deriving DecidableEq

inductive PreparedTransferUploadResult where
  | existingMatch
  | response (status : ServerStatus)
  | failed (diskFull : Bool)
  deriving DecidableEq

inductive UploadPhase where
  | created
  | lookingUp
  | uploading
  | finished (result : PreparedTransferUploadResult)
  deriving DecidableEq

structure UploadTask where
  lane : Nat
  asset : PreparedTransferAsset
  phase : UploadPhase
  deriving DecidableEq

structure Settings where
  exportConcurrencyLimit : Nat
  uploadConcurrencyLimit : Nat
  prefersTransports : Bool
  exports : 0 < exportConcurrencyLimit
  uploads : 0 < uploadConcurrencyLimit

structure UploadLane where
  preferredTransport : Option Transport
  concurrencyLimit : Nat
  deriving DecidableEq

def lanUploadConcurrencyMax : Nat := 3
def usbUploadConcurrencyMax : Nat := 2

def cappedUploadConcurrencyLimit (settings : Settings) : Transport → Nat
  | .lan => max 1 (min settings.uploadConcurrencyLimit lanUploadConcurrencyMax)
  | .usb => max 1 (min settings.uploadConcurrencyLimit usbUploadConcurrencyMax)

def dualChannelUploadConcurrencyLimits (settings : Settings) : Nat × Nat :=
  let cappedTotal := max 1 settings.uploadConcurrencyLimit
  let usbLimit := min usbUploadConcurrencyMax (max 1 (cappedTotal - 1))
  (usbLimit,min lanUploadConcurrencyMax (max 1 (cappedTotal - usbLimit)))

def configuredUploadLanes (settings : Settings) (currentTransport : Transport) : List UploadLane :=
  let defaultLane := [⟨none,cappedUploadConcurrencyLimit settings currentTransport⟩]
  if settings.uploadConcurrencyLimit < 2 then defaultLane
  else if !settings.prefersTransports then defaultLane
  else if currentTransport != .usb then defaultLane
  else
    let dualChannelLimits := dualChannelUploadConcurrencyLimits settings
    [⟨some .usb,dualChannelLimits.1⟩,⟨some .lan,dualChannelLimits.2⟩]

def nextAvailableUploadLaneIndex (lanes : List UploadLane) (inFlightCounts : Nat → Nat) (laneCursor : Nat) : Option Nat :=
  ((List.range lanes.length).map fun offset => (laneCursor + offset) % lanes.length).find? fun candidate =>
    (lanes[candidate]?).any fun lane => inFlightCounts candidate < lane.concurrencyLimit

-- Where producePreparedAssets is: awaiting a finished export, queue.enqueue, what follows
-- it, or queue.finish.
inductive Producer where
  | created
  | waiting
  | enqueuing (result : ExportPipelineResult)
  | enqueued
  | closing
  | done
  deriving DecidableEq

-- Where processTransferPipeline is. After tryDequeue it tries again; after dequeue, a
-- progress update and an upload it goes to the top of its loop.
inductive Consumer where
  | configuring
  | trying
  | tried (result : Option ExportPipelineResult)
  | recording (again : Bool)
  | joining
  | terminating
  | dequeuing
  | dequeued (result : Option ExportPipelineResult)
  | leaving
  | left
  deriving DecidableEq

-- The variables of producePreparedAssets, and its task group. `launched` is a ghost: what
-- has been given to an export task since the run began.
structure Production where
  assets : List String := []
  producer : Producer := .created
  exportGroup : List ExportTask := []
  groupCancelled : Bool := false
  nextAssetIndex : Nat := 0
  inFlightExportCount : Nat := 0
  nextResultIndexToEnqueue : Nat := 0
  pendingResultsByIndex : List (Nat × ExportPipelineResult) := []
  launched : List String := []

structure PreparedTransferAssetQueue where
  bufferedItems : List ExportPipelineResult := []
  isFinished : Bool := false

-- The variables of processTransferPipeline, and its task group. With stopHandled the
-- producer's task and every upload are cancelled. `started` is a ghost.
structure Uploading where
  consumer : Consumer := .configuring
  uploadLanes : List UploadLane := []
  bufferedUploads : List PreparedTransferAsset := []
  producerFinished : Bool := false
  inFlightUploadCount : Nat := 0
  inFlightUploadCountByLane : Nat → Nat := fun _ => 0
  nextUploadLaneIndex : Nat := 0
  uploadGroup : List UploadTask := []
  stopHandled : Bool := false
  terminalFailure : Bool := false
  started : List String := []

inductive Position where
  | loading
  | resetting (found : Bool)
  | fetching (cursor : Option Nat)
  | fetched (cursor : Option Nat)
  | emptying
  | exchanging
  | starting
  | reporting
  | opening
  | transferring
  | pausing
  | failing
  | closing
  | finalizing (phase : TransferPhase)
  | ended (phase : TransferPhase)
  deriving DecidableEq

-- The photo library, its source, the service during one run, and the temporary files.
structure Run where
  library : Library
  cachedFetchResult : Option Library := none
  stopRequested : Bool := false
  position : Position := .loading
  assetBatch : TransferAssetBatch := ⟨[],none,0⟩
  totalCount : Nat := 0
  transferredCount : Nat := 0
  failedCount : Nat := 0
  skippedCount : Nat := 0
  successfullyTransferredAssetIDs : List String := []
  production : Production := {}
  queue : PreparedTransferAssetQueue := {}
  uploading : Uploading := {}
  files : List Nat := []
  nextFile : Nat := 0
  -- Ghosts: what the last batch was read from and from where, the photos that have been
  -- in the library ever since, what has been called, and what the desktop has confirmed.
  source : List String := []
  batchStart : Nat := 0
  present : List String := library.assets
  exported : List String := []
  lookedUp : List String := []
  uploaded : List String := []
  confirmed : List String := []
  cancelledCounted : Nat := 0

inductive ExportOutcome where
  | exported (existenceCandidate : Bool)
  | threw (leavesFile : Bool)
  deriving DecidableEq

inductive UploadAnswer where
  | checked
  | found | missing
  | answered (status : ServerStatus)
  | threw (diskFull : Bool)
  deriving DecidableEq

inductive Input where
  | library (library : Library)
  | handleMemoryWarning
  | stopTransfer
  | loaded (found : Bool)
  | fetch (authorized : Bool)
  | resumed
  | threw
  | resolved (transport : Transport)
  | produce
  | collect (position : Nat)
  | exporting (position : Nat) (outcome : ExportOutcome)
  | consume
  | join (position : Nat)
  | uploading (position : Nat) (answer : UploadAnswer)

def Run.cleanupExportedAsset (r : Run) (asset : PreparedTransferAsset) : Run := {r with files:=r.files.erase asset.file}

def Run.cleanupPreparedAssets (r : Run) (batch : List PreparedTransferAsset) : Run :=
  {r with files:=r.files.diff (batch.map PreparedTransferAsset.file)}

def removeValue {α : Type} (key : Nat) : List (Nat × α) → Option (α × List (Nat × α))
  | [] => none
  | (index,value) :: rest =>
    if index = key then some (value,rest) else (removeValue key rest).map fun found => (found.1,(index,value) :: found.2)

def Production.launchExport (p : Production) : Production :=
  match p.assets[p.nextAssetIndex]? with
  | none => p
  | some descriptor =>
    {p with
      nextAssetIndex:=p.nextAssetIndex + 1
      inFlightExportCount:=p.inFlightExportCount + 1
      exportGroup:=p.exportGroup ++ [⟨p.nextAssetIndex,descriptor,.created⟩]
      launched:=p.launched ++ [descriptor]}

def Production.launchExports : Nat → Production → Production
  | 0,p => p
  | n + 1,p => launchExports n p.launchExport

def Production.awaitExport (p : Production) : Production :=
  {p with producer:=if 0 < p.inFlightExportCount then .waiting else .closing}

-- `stops` is Task.isCancelled || stopRequested.
def Production.goOn (stops : Bool) (limit : Nat) (p : Production) : Production :=
  if stops then {p with groupCancelled:=true}.awaitExport else (p.launchExports limit).awaitExport

def Production.enqueueOrdered (stops : Bool) (p : Production) : Production :=
  match removeValue p.nextResultIndexToEnqueue p.pendingResultsByIndex with
  | some (orderedResult,rest) => {p with pendingResultsByIndex:=rest,producer:=.enqueuing orderedResult}
  | none => p.goOn stops 1

def Production.collect (p : Production) (position completedIndex : Nat) (exportResult : ExportPipelineResult) : Production :=
  {p with
    exportGroup:=p.exportGroup.eraseIdx position
    inFlightExportCount:=p.inFlightExportCount - 1
    pendingResultsByIndex:=(completedIndex,exportResult) :: p.pendingResultsByIndex}

def Run.producerStops (r : Run) : Bool := r.uploading.stopHandled || r.stopRequested

def producePreparedAssets (settings : Settings) (r : Run) : Producer → Input → Option Run
  | .created,.produce =>
    some {r with production:=r.production.goOn r.producerStops settings.exportConcurrencyLimit}
  | .waiting,.collect position =>
    match r.production.exportGroup[position]? with
    | some ⟨completedIndex,_,.finished exportResult⟩ =>
      some {r with production:=(r.production.collect position completedIndex exportResult).enqueueOrdered r.producerStops}
    | _ => none
  | .enqueuing orderedResult,.produce =>
    some {r with
      production:={r.production with producer:=.enqueued}
      queue:={r.queue with bufferedItems:=r.queue.bufferedItems ++ [orderedResult]}}
  | .enqueued,.produce =>
    some {r with production:={r.production with
      nextResultIndexToEnqueue:=r.production.nextResultIndexToEnqueue + 1}.enqueueOrdered r.producerStops}
  | .closing,.produce =>
    some {r with production:={r.production with producer:=.done},queue:={r.queue with isFinished:=true}}
  | _,_ => none

def Run.exportCancelled (r : Run) : Bool := r.production.groupCancelled || r.uploading.stopHandled

def Run.setExport (r : Run) (position : Nat) (task : ExportTask) (phase : ExportPhase) : Run :=
  {r with production:={r.production with exportGroup:=r.production.exportGroup.set position {task with phase}}}

def exportPipelineResult (r : Run) (position : Nat) (task : ExportTask) (outcome : ExportOutcome) : Option Run :=
  let descriptor := task.descriptor
  match task.phase,outcome with
  | .created,_ =>
    if r.exportCancelled then some (r.setExport position task (.finished (.failed descriptor true)))
    else some {r.setExport position task .exporting with exported:=r.exported ++ [descriptor]}
  | .exporting,.exported existenceCandidate =>
    -- The file it has written is removed again.
    if r.exportCancelled then
      some {r.setExport position task (.finished (.failed descriptor true)) with nextFile:=r.nextFile + 1}
    else
      some {r.setExport position task (.finished (.prepared ⟨descriptor,r.nextFile,existenceCandidate⟩)) with
        files:=r.files ++ [r.nextFile],nextFile:=r.nextFile + 1}
  | .exporting,.threw leavesFile =>
    some {r.setExport position task (.finished (.failed descriptor false)) with
      files:=if leavesFile then r.files ++ [r.nextFile] else r.files,nextFile:=r.nextFile + 1}
  | .finished _,_ => none

def Run.setUpload (r : Run) (position : Nat) (task : UploadTask) (phase : UploadPhase) : Run :=
  {r with uploading:={r.uploading with uploadGroup:=r.uploading.uploadGroup.set position {task with phase}}}

-- Task.checkCancellation before the upload itself.
def Run.sendUpload (r : Run) (position : Nat) (task : UploadTask) : Run :=
  if r.uploading.stopHandled then r.setUpload position task (.finished (.failed false))
  else {r.setUpload position task .uploading with uploaded:=r.uploaded ++ [task.asset.descriptor]}

def performPreparedAssetUpload (r : Run) (position : Nat) (task : UploadTask) (answer : UploadAnswer) : Option Run :=
  match task.phase,answer with
  | .created,.checked =>
    if r.uploading.stopHandled then some (r.setUpload position task (.finished (.failed false)))
    else if task.asset.existenceCandidate then
      some {r.setUpload position task .lookingUp with lookedUp:=r.lookedUp ++ [task.asset.descriptor]}
    else some (r.sendUpload position task)
  | .lookingUp,.found =>
    some {r.setUpload position task (.finished .existingMatch) with confirmed:=r.confirmed ++ [task.asset.descriptor]}
  | .lookingUp,.missing => some (r.sendUpload position task)
  | .uploading,.answered status =>
    some {r.setUpload position task (.finished (.response status)) with
      confirmed:=if status = .stored ∨ status = .skipped then r.confirmed ++ [task.asset.descriptor] else r.confirmed}
  | .lookingUp,.threw diskFull | .uploading,.threw diskFull =>
    some (r.setUpload position task (.finished (.failed diskFull)))
  | _,_ => none

def Run.atConsumer (r : Run) (consumer : Consumer) : Run := {r with uploading:={r.uploading with consumer}}

def Run.handleStop (r : Run) : Run :=
  {r.cleanupPreparedAssets r.uploading.bufferedUploads with
    uploading:={r.uploading with stopHandled:=true,bufferedUploads:=[]}}

-- From the top of the loop to its first await.
def Run.loop (r : Run) : Run :=
  if r.stopRequested && !r.uploading.stopHandled then r.handleStop.atConsumer .trying else r.atConsumer .trying

def Run.goOn (again : Bool) (r : Run) : Run := if again then r.atConsumer .trying else r.loop

def Run.buffer (r : Run) (asset : PreparedTransferAsset) : Run :=
  {r with uploading:={r.uploading with bufferedUploads:=r.uploading.bufferedUploads ++ [asset]}}

def Run.takeResult (again : Bool) (r : Run) : ExportPipelineResult → Run
  | .prepared asset =>
    if r.uploading.stopHandled then (r.cleanupExportedAsset asset).goOn again else (r.buffer asset).goOn again
  | .failed _ cancelled =>
    if r.uploading.stopHandled then r.goOn again
    else {r with failedCount:=r.failedCount + 1,cancelledCounted:=r.cancelledCounted + cancelled.toNat}.atConsumer
      (.recording again)

def Uploading.startUpload (u : Uploading) (laneIndex : Nat) (preparedAsset : PreparedTransferAsset)
    (rest : List PreparedTransferAsset) : Uploading :=
  {u with
    bufferedUploads:=rest
    inFlightUploadCount:=u.inFlightUploadCount + 1
    inFlightUploadCountByLane:=Function.update u.inFlightUploadCountByLane laneIndex (u.inFlightUploadCountByLane laneIndex + 1)
    nextUploadLaneIndex:=(laneIndex + 1) % u.uploadLanes.length
    uploadGroup:=u.uploadGroup ++ [⟨laneIndex,preparedAsset,.created⟩]
    started:=u.started ++ [preparedAsset.descriptor]}

-- `while !bufferedUploads.isEmpty`, over what is buffered.
def Uploading.startUploads : List PreparedTransferAsset → Uploading → Uploading
  | [],u => u
  | preparedAsset :: rest,u =>
    match nextAvailableUploadLaneIndex u.uploadLanes u.inFlightUploadCountByLane u.nextUploadLaneIndex with
    | none => u
    | some laneIndex => startUploads rest (u.startUpload laneIndex preparedAsset rest)

def Uploading.awaitExportResult (u : Uploading) : Uploading :=
  {u with consumer:=if u.producerFinished then .leaving else .dequeuing}

def Uploading.awaitUpload (u : Uploading) : Uploading :=
  if 0 < u.inFlightUploadCount then {u with consumer:=.joining} else u.awaitExportResult

def Uploading.fillLanes (u : Uploading) : Uploading :=
  if u.stopHandled then u.awaitUpload else (u.startUploads u.bufferedUploads).awaitUpload

def processUploadResult (r : Run) (preparedAsset : PreparedTransferAsset) (result : PreparedTransferUploadResult) : Run :=
  let succeeded := {r with
    transferredCount:=r.transferredCount + 1
    successfullyTransferredAssetIDs:=r.successfullyTransferredAssetIDs.insert preparedAsset.descriptor}
  let failed := {r with failedCount:=r.failedCount + 1}
  match result with
  | .failed true => (failed.cleanupExportedAsset preparedAsset).atConsumer .terminating
  | .existingMatch | .response .skipped =>
    ({succeeded with skippedCount:=r.skippedCount + 1}.cleanupExportedAsset preparedAsset).atConsumer (.recording false)
  | .response .stored => (succeeded.cleanupExportedAsset preparedAsset).atConsumer (.recording false)
  | .response .accepted | .response .completed | .response .rejected | .failed false =>
    (failed.cleanupExportedAsset preparedAsset).atConsumer (.recording false)

def Uploading.leaveUpload (u : Uploading) (position laneIndex : Nat) : Uploading :=
  {u with
    uploadGroup:=u.uploadGroup.eraseIdx position
    inFlightUploadCount:=u.inFlightUploadCount - 1
    inFlightUploadCountByLane:=Function.update u.inFlightUploadCountByLane laneIndex
      (u.inFlightUploadCountByLane laneIndex - 1)}

def Run.nextBatch (r : Run) : Run :=
  match r.assetBatch.nextCursor with
  | none => {r with position:=.closing}
  | some nextCursor => {r with position:=.fetching (some nextCursor)}

def Run.transferBatch (r : Run) : Run :=
  if r.assetBatch.descriptors = [] then r.nextBatch
  else {r with
    position:=.transferring
    production:={assets:=r.assetBatch.descriptors,launched:=r.production.launched}
    queue:={}
    uploading:={started:=r.uploading.started}}

def Run.endPipeline (r : Run) : Run :=
  if r.uploading.terminalFailure then {r with position:=.finalizing .failed}
  else if r.stopRequested then {r with position:=.pausing}
  else r.nextBatch

def processTransferPipeline (settings : Settings) (r : Run) : Consumer → Input → Option Run
  | .configuring,.resolved transport =>
    some {r with uploading:={r.uploading with uploadLanes:=configuredUploadLanes settings transport}}.loop
  | .trying,.consume =>
    match r.queue.bufferedItems with
    | [] => some (r.atConsumer (.tried none))
    | exportResult :: rest =>
      some ({r with queue:={r.queue with bufferedItems:=rest}}.atConsumer (.tried (some exportResult)))
  | .tried none,.consume => some {r with uploading:=r.uploading.fillLanes}
  | .tried (some exportResult),.consume => some (r.takeResult true exportResult)
  | .recording again,.consume => some (r.goOn again)
  | .joining,.join position =>
    match r.uploading.uploadGroup[position]? with
    | some ⟨laneIndex,preparedAsset,.finished uploadResult⟩ =>
      let left := {r with uploading:=r.uploading.leaveUpload position laneIndex}
      if r.uploading.stopHandled then some (left.cleanupExportedAsset preparedAsset).loop
      else some (processUploadResult left preparedAsset uploadResult)
    | _ => none
  -- uploadGroup.next() has nothing to wait for.
  | .joining,.consume =>
    if r.uploading.uploadGroup = [] then
      some {r with uploading:={r.uploading with
        inFlightUploadCount:=0,inFlightUploadCountByLane:=fun _ => 0}.awaitExportResult}
    else none
  | .terminating,.consume =>
    some {r with stopRequested:=true,uploading:={r.uploading with terminalFailure:=true}}.handleStop.loop
  -- A consumer that waits is handed the next item, or nil when the queue is finished.
  | .dequeuing,.consume =>
    match r.queue.bufferedItems with
    | exportResult :: rest =>
      some ({r with queue:={r.queue with bufferedItems:=rest}}.atConsumer (.dequeued (some exportResult)))
    | [] => if r.queue.isFinished then some (r.atConsumer (.dequeued none)) else none
  | .dequeued (some exportResult),.consume => some (r.takeResult false exportResult)
  | .dequeued none,.consume =>
    let finished := {r with uploading:={r.uploading with producerFinished:=true}}
    if r.uploading.bufferedUploads = [] ∧ r.uploading.inFlightUploadCount = 0 then some (finished.atConsumer .leaving)
    else some finished.loop
  | .leaving,.consume => if r.production.producer = .done then some (r.atConsumer .left).endPipeline else none
  | _,_ => none

def stepPipeline (settings : Settings) (r : Run) (input : Input) : Option Run :=
  match input with
  | .produce | .collect _ => producePreparedAssets settings r r.production.producer input
  | .exporting position outcome =>
    (r.production.exportGroup[position]?).bind fun task => exportPipelineResult r position task outcome
  | .uploading position answer =>
    (r.uploading.uploadGroup[position]?).bind fun task => performPreparedAssetUpload r position task answer
  | input => processTransferPipeline settings r r.uploading.consumer input

def stepRunTransfer (r : Run) : Position → Input → Option Run
  | .loading,.loaded found => some {r with position:=.resetting found}
  | .resetting found,.resumed => some {r with position:=if found then .fetching none else .finalizing .failed}
  | .fetching cursor,.fetch authorized =>
    let fetchResult := fetchResultForTransfer cursor.isNone authorized r.cachedFetchResult r.library
    some {r with
      position:=.fetched cursor
      cachedFetchResult:=fetchResult.2
      assetBatch:=fetchAssetBatch fetchResult.1 cursor assetFetchBatchSize
      source:=(fetchResult.1.getD .empty).assets
      batchStart:=cursor.getD 0}
  | .fetched none,.resumed =>
    if r.assetBatch.totalCount = 0 then some {r with position:=.emptying}
    else some {r with
      totalCount:=r.assetBatch.totalCount
      position:=if r.stopRequested then .pausing else .exchanging}
  | .fetched (some _),.resumed => some r.transferBatch
  | .emptying,.resumed => some {r with position:=.finalizing .completed}
  | .exchanging,.resumed => some {r with position:=.starting}
  | .starting,.resumed => some {r with position:=if r.stopRequested then .reporting else .opening}
  | .exchanging,.threw | .starting,.threw => some {r with position:=.failing}
  | .reporting,.resumed => some {r with position:=.pausing}
  | .opening,.resumed => some r.transferBatch
  | .pausing,.resumed => some {r with position:=.finalizing .stopped}
  | .failing,.resumed => some {r with position:=.finalizing .failed}
  | .closing,.resumed => some {r with position:=.finalizing .transferring}
  | .finalizing phase,.resumed => some {r with position:=.ended phase,cachedFetchResult:=none}
  | _,_ => none

def step (settings : Settings) (r : Run) (input : Input) : Option Run :=
  match r.position,input with
  | .ended _,_ => none
  | _,.library library => some {r with library,present:=r.present.filter (· ∈ library.assets)}
  | _,.handleMemoryWarning => some {r with cachedFetchResult:=none}
  | _,.stopTransfer => some {r with stopRequested:=true}
  | .transferring,input => stepPipeline settings r input
  | position,input => stepRunTransfer r position input

def backupRun (settings : Settings) : System Run Input := ⟨step settings⟩

def begun (library : Library) : Run := {library}

end ImageSearch.ExportPipelines
