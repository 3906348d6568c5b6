import ImageSearch.AsyncQueue
import ImageSearch.Threads
import ImageSearch.TransferClients

namespace ImageSearch.TransferPipeline
open Transitions Threads Payload AsyncQueue TransferClients

def transferExistenceBatchSize : Nat := 15
def transferConcurrentUploadLimit : Nat := 5
def transferConcurrentSha1Limit : Nat := 3
def consecutiveUploadFailureLimit : Nat := 5
def transferConnectionRetryLimit : Nat := 3

structure TransferMetadata where
  sha1 : Option String
  fileSize : Option Int
  createdAt : Option String
  updatedAt : Option String

structure DedupeSignature where
  contentSha1 : Option String
  fileSizeBytes : Option Int
  createdAt : Option String

structure NormalizedTransferAsset where
  assetId : String
  dedupeSignature : DedupeSignature
  metadata : TransferMetadata

structure TransferAssetSignature where
  assetId : String
  sha1 : String
  fileSize : Int
  createdAt : String

structure PreparedAssetWork where
  asset : NormalizedTransferAsset
  signature : TransferAssetSignature

structure Link where
  transport : Transport
  cipher : PayloadCipher
  encryption : Option Encryption
  requestId : String

-- What one call of startTransfer works with once the desktop has accepted its start.
structure Transfer where
  assets : List NormalizedTransferAsset
  link : Link
  removeAfterBackupEnabled : Bool

def Link.receive (link : Link) (operation : Operation) (statusCode : Nat) (body : Fields) : Except ClientError Json :=
  receiveAnswer link.cipher link.encryption link.requestId operation statusCode body link.transport

def prepareWorkerCount (assets : List NormalizedTransferAsset) : Nat :=
  min transferConcurrentSha1Limit (max 1 assets.length)

def uploadWorkerCount (assets : List NormalizedTransferAsset) : Nat :=
  min transferConcurrentUploadLimit (max 1 assets.length)

-- What the run has asked, been told and done, for the statements about it.
inductive Observation where
  | handed (assetId : String)
  | checked (assetIds matched : List String)
  | uploaded (assetId : String) (statusCode : Nat) (status : Option String)
  | completing
  | completed (statusCode : Nat)
  | deleted (assetIds : List String)
  deriving DecidableEq, Repr

-- The variables the coroutines of startTransfer share, and which of them have settled.
structure Pipeline where
  aborted : Bool
  abortedByPipelineError : Bool
  pipelineError : Bool
  prepareNextIndex : Nat
  preparedAssetQueue : Queue PreparedAssetWork
  uploadAssetQueue : Queue NormalizedTransferAsset
  matchedAssets : Nat
  transferredAssets : Nat
  failedAssets : Nat
  consecutiveUploadFailures : Nat
  successfullyTransferredAssetIds : List String
  prepareSettled : Nat
  prepareRejected : Bool
  existenceSettled : Nat
  uploadSettled : Nat
  observed : List Observation

def Pipeline.initial : Pipeline :=
  ⟨false,false,false,0,.empty,.empty,0,0,0,0,[],0,false,0,0,[]⟩

def Pipeline.observe (p : Pipeline) (observation : Observation) : Pipeline :=
  {p with observed:=p.observed ++ [observation]}

def Pipeline.addTransferred (p : Pipeline) (assetId : String) : Pipeline :=
  {p with successfullyTransferredAssetIds:=p.successfullyTransferredAssetIds.insert assetId}

def failPipeline (p : Pipeline) : Pipeline :=
  if p.pipelineError then p else {p with
    pipelineError:=true
    abortedByPipelineError:=p.abortedByPipelineError || !p.aborted
    aborted:=true
    preparedAssetQueue:=p.preparedAssetQueue.close
    uploadAssetQueue:=p.uploadAssetQueue.close}

inductive Input where
  | resume
  | hashed (sha1 : Option String)
  | answer (statusCode : Nat) (body : Fields)
  | broken (connectionLost : Bool)
  | reconnected (usable : Bool)
  | settled (succeeded : Bool)

inductive PreparePhase where
  | ready
  | preparing (asset : NormalizedTransferAsset)
  | settled

inductive ExistencePhase where
  | ready
  | awaiting (promise : Nat)
  | publishing (batch : List PreparedAssetWork)
  | checking (batch : List PreparedAssetWork)
  | published
  | settled

inductive UploadPhase where
  | ready
  | awaiting (promise : Nat)
  | publishing (asset : NormalizedTransferAsset)
  | uploading (asset : NormalizedTransferAsset) (attempt : Nat)
  | reconnecting (asset : NormalizedTransferAsset) (attempt : Nat)
  | counted
  | settled

inductive Cause where
  | abort | pipelineError | completeFailed | runtimeSession
  deriving DecidableEq, Repr

inductive Outcome where
  | finished
  | aborted
  | failed (cause : Cause)
  deriving DecidableEq, Repr

inductive MainPhase where
  | preparing
  | checking
  | uploading
  | publishing
  | completing
  | deleting
  | ending
  | handling (cause : Cause)
  | ended (outcome : Outcome)
  deriving DecidableEq, Repr

def prepareHead (transfer : Transfer) (p : Pipeline) : Pipeline × PreparePhase :=
  if p.pipelineError then ({p with prepareSettled:=p.prepareSettled+1},.settled)
  else if p.aborted then ({p with
    prepareSettled:=p.prepareSettled+1
    prepareRejected:=true},.settled)
  else
    match transfer.assets[p.prepareNextIndex]? with
    | none => ({p with
        prepareNextIndex:=p.prepareNextIndex+1
        prepareSettled:=p.prepareSettled+1},.settled)
    | some asset => ({p with prepareNextIndex:=p.prepareNextIndex+1},.preparing asset)

def candidate (asset : NormalizedTransferAsset) (sha1 : String) : Option TransferAssetSignature :=
  match asset.dedupeSignature.fileSizeBytes.or asset.metadata.fileSize,
    (asset.dedupeSignature.createdAt.or asset.metadata.createdAt).or asset.metadata.updatedAt with
  | some fileSize,some createdAt => some ⟨asset.assetId,sha1,fileSize,createdAt⟩
  | _,_ => none

def NormalizedTransferAsset.withSha1 (asset : NormalizedTransferAsset) (sha1 : String) : NormalizedTransferAsset :=
  {asset with
    dedupeSignature:={asset.dedupeSignature with contentSha1:=some sha1}
    metadata:={asset.metadata with sha1:=some sha1}}

def handCandidate (p : Pipeline) (asset : NormalizedTransferAsset) (sha1 : String) : Pipeline :=
  match candidate asset sha1 with
  | some signature => {p with preparedAssetQueue:=p.preparedAssetQueue.push ⟨asset,signature⟩}
  | none => {p with uploadAssetQueue:=p.uploadAssetQueue.push asset}

def stepPrepare (transfer : Transfer) (p : Pipeline) : PreparePhase → Input → Option (Pipeline × PreparePhase)
  | .ready,.resume => some (prepareHead transfer p)
  | .preparing asset,input =>
    match asset.dedupeSignature.contentSha1,input with
    | some sha1,.resume => some (prepareHead transfer (handCandidate p asset sha1))
    | none,.hashed (some sha1) => some (prepareHead transfer (handCandidate p (asset.withSha1 sha1) sha1))
    | none,.hashed none => some (prepareHead transfer (failPipeline p))
    | _,_ => none
  | _,_ => none

def existenceHead (p : Pipeline) : Pipeline × ExistencePhase :=
  if p.pipelineError then ({p with existenceSettled:=p.existenceSettled+1},.settled)
  else ({p with preparedAssetQueue:=p.preparedAssetQueue.shift},.awaiting p.preparedAssetQueue.issued)

-- The inner loop of the existence worker over what tryShift still yields: what is pending
-- after it, and how many items it shifted.
def fillBatch {Item : Type} : List Item → List Item → List Item × Nat
  | pending,[] => (pending,0)
  | pending,next :: items =>
    if pending.length < transferExistenceBatchSize then
      let filled := fillBatch (pending ++ [next]) items
      (filled.1,filled.2+1)
    else (pending,1)

def answerMatches : Json → List String
  | .object payload =>
    match get payload "matches" with
    | .array items => items.filterMap fun
      | .object found =>
        match get found "asset_id" with
        | .string assetId => some assetId
        | _ => none
      | _ => none
    | _ => []
  | _ => []

def PreparedAssetWork.assetId (work : PreparedAssetWork) : String := work.asset.assetId

def matchBatch (p : Pipeline) (batch : List PreparedAssetWork) (matched : List String) : Pipeline := {p with
  matchedAssets:=p.matchedAssets+matched.length
  successfullyTransferredAssetIds:=matched.foldl (fun ids assetId => ids.insert assetId) p.successfullyTransferredAssetIds
  uploadAssetQueue:=(batch.filter fun work => work.assetId ∉ matched).foldl (fun queue work => queue.push work.asset)
    p.uploadAssetQueue
  observed:=p.observed ++ [.checked (batch.map PreparedAssetWork.assetId) matched]}

def settleExistence (p : Pipeline) : Pipeline × ExistencePhase :=
  ({p with existenceSettled:=p.existenceSettled+1},.settled)

def stepExistence (transfer : Transfer) (p : Pipeline) : ExistencePhase → Input → Option (Pipeline × ExistencePhase)
  | .ready,.resume => some (existenceHead p)
  | .awaiting promise,.resume =>
    match p.preparedAssetQueue.take promise with
    | none => none
    | some (nextPrepared,queue) =>
      let filled := fillBatch nextPrepared.toList queue.items
      let drained := {p with preparedAssetQueue:=queue.dropItems filled.2}
      if filled.1 = [] then
        some (if nextPrepared.isNone then settleExistence drained else existenceHead drained)
      else some (drained,.publishing (filled.1.take transferExistenceBatchSize))
  | .publishing batch,.resume => some (p,.checking batch)
  | .checking batch,.answer statusCode body =>
    match transfer.link.receive .existence statusCode body with
    | .error _ => some (settleExistence (failPipeline p))
    | .ok answer =>
      if p.aborted then some (settleExistence (failPipeline p))
      else some (matchBatch p batch (answerMatches answer).dedup,.published)
  | .checking _,.broken _ => some (settleExistence (failPipeline p))
  | .published,.resume => some (existenceHead p)
  | _,_ => none

def uploadHead (p : Pipeline) : Pipeline × UploadPhase :=
  if p.pipelineError then ({p with uploadSettled:=p.uploadSettled+1},.settled)
  else ({p with uploadAssetQueue:=p.uploadAssetQueue.shift},.awaiting p.uploadAssetQueue.issued)

def uploadFailed (p : Pipeline) : Pipeline × UploadPhase :=
  let counted := {p with
    failedAssets:=p.failedAssets+1
    consecutiveUploadFailures:=p.consecutiveUploadFailures+1}
  uploadHead (if counted.consecutiveUploadFailures ≥ consecutiveUploadFailureLimit then failPipeline counted else counted)

def uploadAnswered (p : Pipeline) (asset : NormalizedTransferAsset) (statusCode : Nat) (status : Option String) : Pipeline :=
  let answered := {p with consecutiveUploadFailures:=0}.observe (.uploaded asset.assetId statusCode status)
  if status = some "skipped" then
    {answered with matchedAssets:=p.matchedAssets+1}.addTransferred asset.assetId
  else
    let counted := {answered with transferredAssets:=p.transferredAssets+1}
    if status = some "stored" then counted.addTransferred asset.assetId else counted

-- An attempt failed: only a dropped AOA link is waited for, and only so often.
def uploadBroken (transfer : Transfer) (p : Pipeline) (asset : NormalizedTransferAsset) (attempt : Nat)
    (connectionLost : Bool) : Pipeline × UploadPhase :=
  if connectionLost && transfer.link.transport = .usb && attempt < transferConnectionRetryLimit && !p.aborted then
    (p,.reconnecting asset (attempt+1))
  else uploadFailed p

def stepUpload (transfer : Transfer) (p : Pipeline) : UploadPhase → Input → Option (Pipeline × UploadPhase)
  | .ready,.resume => some (uploadHead p)
  | .awaiting promise,.resume =>
    match p.uploadAssetQueue.take promise with
    | none => none
    | some (none,queue) => some ({p with
        uploadAssetQueue:=queue
        uploadSettled:=p.uploadSettled+1},.settled)
    | some (some asset,queue) =>
      let handed := {p with uploadAssetQueue:=queue}.observe (.handed asset.assetId)
      some (if p.aborted then uploadHead (failPipeline handed) else (handed,.publishing asset))
  | .publishing asset,.resume => some (p,.uploading asset 0)
  | .uploading asset attempt,.answer statusCode body =>
    match transfer.link.receive .asset statusCode body with
    | .error _ => some (uploadBroken transfer p asset attempt false)
    | .ok answer => some (uploadAnswered p asset statusCode (answerStatus answer),.counted)
  | .uploading asset attempt,.broken connectionLost => some (uploadBroken transfer p asset attempt connectionLost)
  | .reconnecting asset attempt,.reconnected usable =>
    some (if usable && !p.aborted then (p,.uploading asset attempt) else uploadFailed p)
  | .counted,.resume => some (uploadHead p)
  | _,_ => none

def caught (p : Pipeline) (cause : Cause) : Outcome :=
  if !p.abortedByPipelineError && (p.aborted || cause = .abort) then .aborted else .failed cause

def stepMain (transfer : Transfer) (p : Pipeline) : MainPhase → Input → Option (Pipeline × MainPhase)
  | .preparing,.resume =>
    if p.prepareRejected then some (p,.handling .abort)
    else if p.prepareSettled = prepareWorkerCount transfer.assets then
      some ({p with preparedAssetQueue:=p.preparedAssetQueue.close},.checking)
    else none
  | .checking,.resume =>
    if p.existenceSettled = 1 then some ({p with uploadAssetQueue:=p.uploadAssetQueue.close},.uploading) else none
  | .uploading,.resume =>
    if p.uploadSettled = uploadWorkerCount transfer.assets then
      some (p,if p.pipelineError then .handling .pipelineError else .publishing)
    else none
  | .publishing,.resume => some (p.observe .completing,.completing)
  | .completing,.answer statusCode body =>
    match transfer.link.receive .complete statusCode body with
    | .error _ => some (p,.handling .completeFailed)
    | .ok _ =>
      let completed := p.observe (.completed statusCode)
      if p.aborted then some (completed,.handling .abort)
      else if transfer.removeAfterBackupEnabled && p.successfullyTransferredAssetIds ≠ [] then
        some (completed.observe (.deleted p.successfullyTransferredAssetIds),.deleting)
      else some (completed,.ending)
  | .completing,.broken _ => some (p,.handling .completeFailed)
  | .deleting,.settled _ => some (p,.ending)
  | .ending,.settled succeeded => some (p,if succeeded then .ended .finished else .handling .runtimeSession)
  | .handling cause,.settled succeeded =>
    some (p,.ended (if succeeded then caught p cause else .failed .runtimeSession))
  | _,_ => none

inductive Coroutine where
  | main (phase : MainPhase)
  | prepare (phase : PreparePhase)
  | existence (phase : ExistencePhase)
  | upload (phase : UploadPhase)

def stepCoroutine (transfer : Transfer) (p : Pipeline) : Coroutine → Input → Option (Pipeline × Coroutine)
  | .main phase,input => (stepMain transfer p phase input).map fun next => (next.1,.main next.2)
  | .prepare phase,input => (stepPrepare transfer p phase input).map fun next => (next.1,.prepare next.2)
  | .existence phase,input => (stepExistence transfer p phase input).map fun next => (next.1,.existence next.2)
  | .upload phase,input => (stepUpload transfer p phase input).map fun next => (next.1,.upload next.2)

-- The user stops the transfer; a should_abort that answers true is this, met at the next check.
inductive Event where
  | abort
  deriving DecidableEq, Repr

def stepEvent (p : Pipeline) : Event → Option Pipeline
  | .abort => some {p with aborted:=true}

abbrev CoroutineId (transfer : Transfer) : Type :=
  Unit ⊕ Unit ⊕ Fin (prepareWorkerCount transfer.assets) ⊕ Fin (uploadWorkerCount transfer.assets)

def startTransfer (transfer : Transfer) :
    System (Pool (CoroutineId transfer) Pipeline Coroutine) (Move (CoroutineId transfer) Input Event) :=
  pool (stepCoroutine transfer) stepEvent

def launched (transfer : Transfer) : Pool (CoroutineId transfer) Pipeline Coroutine where
  world := .initial
  threads
    | .inl _ => .main .preparing
    | .inr (.inl _) => .existence .ready
    | .inr (.inr (.inl _)) => .prepare .ready
    | .inr (.inr (.inr _)) => .upload .ready

end ImageSearch.TransferPipeline
