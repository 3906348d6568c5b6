import ImageSearch.Threads
import ImageSearch.UploadOutcomes

namespace ImageSearch.TransferThreads
open Transitions Threads Payload BackupFolder MobileStore TransferService

structure UploadJob where
  metadata : MobileTransferAssetMetadata
  context : MobileTransferContext

-- Where a call of handle_asset_upload stands: one stage between any two of its
-- accesses to the database or to the folder.
inductive UploadStage where
  | received
  | authorised (job : UploadJob)
  | unsigned (job : UploadJob)
  | skipping (job : UploadJob) (message : String) (row : AssetRow)
  | probing (job : UploadJob) (attemptNumber : Nat)
  | picked (job : UploadJob) (path : RelativePath)
  | receiving (job : UploadJob) (path : RelativePath) (reads : List (Except OSError Bytes)) (index remaining : Nat)
      (written : Bytes)
  | claiming (job : UploadJob) (path : RelativePath) (written : Bytes)
  | discarding (job : UploadJob) (path : RelativePath) (error : OSError)
  | moving (job : UploadJob) (path : RelativePath) (staged : String) (content : Bytes) (contentSha1 : String)
  | copying (job : UploadJob) (path : RelativePath) (staged : String) (content : Bytes) (contentSha1 : String)
  | copied (job : UploadJob) (path : RelativePath) (staged : String) (content : Bytes) (contentSha1 : String)
  | stamping (job : UploadJob) (stored : StoredMobileTransferAsset)
  | failing (job : UploadJob) (error : OSError)
  | recording (job : UploadJob) (stored : StoredMobileTransferAsset)
  | counting (job : UploadJob) (stored : StoredMobileTransferAsset)
  | stored (job : UploadJob) (stored : StoredMobileTransferAsset)
  | finished (result : Except Raised Response)

def UploadStage.answer : UploadStage → Option (Except Raised Response)
  | .stored _ asset => some (.ok (storedResponse asset))
  | .finished result => some result
  | _ => none

def UploadStage.job? : UploadStage → Option UploadJob
  | .authorised job | .unsigned job | .skipping job .. | .probing job _ | .picked job _ | .receiving job ..
  | .claiming job .. | .discarding job .. | .moving job .. | .copying job .. | .copied job .. | .stamping job _
  | .failing job _ | .recording job _ | .counting job _ => some job
  | .received | .stored .. | .finished _ => none

def monthOf (call : UploadCall) (job : UploadJob) : String := targetMonthDirectory job.metadata call.currentTime

def attemptName (filename : List Char) (attemptNumber : Nat) : String :=
  if attemptNumber < 2 then String.ofList filename else candidateName filename attemptNumber

def probedPath (call : UploadCall) (job : UploadJob) (attemptNumber : Nat) : RelativePath :=
  ⟨monthOf call job,attemptName (sanitizeFilename job.metadata.filename) attemptNumber⟩

def UploadJob.at (job : UploadJob) (path : RelativePath) : Location := .asset job.context.folderPath path

def partPath (call : UploadCall) (path : RelativePath) : RelativePath :=
  ⟨path.monthDirectory,partName path.name call.partToken⟩

-- What the version lookup leaves to do, and what keeps it from being begun.
def beginFault (call : UploadCall) : Option OSError :=
  if call.tempFilePath.isNone && call.bodyStream.isNone then
    some (.plain "Desktop did not receive transfer asset stream content.")
  else call.faults .mkdir

def openUpload (lib : Libraries) (call : UploadCall) (d : Desktop) (job : UploadJob) (path : RelativePath) :
    Desktop × UploadStage :=
  match call.tempFilePath with
  | some staged =>
    match readFile d.files (.staged staged) with
    | none => (d,.failing job (.plain "Desktop transfer staged file is missing."))
    | some content =>
      match checkStaged lib call job.metadata content with
      | .error error => (d,.failing job error)
      | .ok contentSha1 => (d,.moving job path staged content contentSha1)
  | none =>
    match call.faults .openPart with
    | some error => (d,.failing job error)
    | none => ({d with files:=writeFile d.files (job.at (partPath call path)) []},
        .receiving job path (call.bodyStream.getD []) 0 call.contentLength.toNat [])

def receiveChunk (call : UploadCall) (d : Desktop) (job : UploadJob) (path : RelativePath) :
    List (Except OSError Bytes) → Nat → Nat → Bytes → Desktop × UploadStage
  | _,_,0,written =>
    match call.faults .closePart with
    | some error => (d,.discarding job path error)
    | none => (d,.claiming job path written)
  | [],_,_+1,_ => (d,.discarding job path incompleteBody)
  | .error error :: _,_,_+1,_ => (d,.discarding job path error)
  | .ok bytes :: rest,index,remaining+1,written =>
    let chunk := bytes.take (min streamChunkSizeBytes (remaining+1))
    if chunk = [] then (d,.discarding job path incompleteBody) else
    match call.faults (.writeChunk index) with
    | some error => (d,.discarding job path error)
    | none => ({d with files:=writeFile d.files (job.at (partPath call path)) (written ++ chunk)},
        .receiving job path rest (index+1) (remaining+1-chunk.length) (written ++ chunk))

def stepUpload (lib : Libraries) (call : UploadCall) (d : Desktop) : UploadStage → Option (Desktop × UploadStage)
  | .received =>
    match checkUpload lib call d.store with
    | .refused cleans result => some (if cleans then d.cleaned call else d,.finished result)
    | .passed metadata context => some (d,.authorised ⟨metadata,context⟩)
  | .authorised job =>
    match existingSignatureAsset d job.metadata with
    | .error raised => some (d,.finished (.error raised))
    | .ok (some row) => some (d,.skipping job "Desktop already has the transferred asset content." row)
    | .ok none => some (d,.unsigned job)
  | .unsigned job =>
    match existingAssetVersion d job.metadata job.context.folderPath with
    | some row => some (d,.skipping job "Desktop already has the current asset version." row)
    | none =>
      match beginFault call with
      | some error => some (d,.failing job error)
      | none => some (d,.probing job 1)
  | .skipping job message row =>
    let skipped := skipUpload call job.metadata message row d
    some (skipped.2,.finished skipped.1)
  | .probing job attemptNumber =>
    if fileExists d.files (job.at (probedPath call job attemptNumber)) then some (d,.probing job (attemptNumber+1))
    else some (d,.picked job (probedPath call job attemptNumber))
  | .picked job path => some (openUpload lib call d job path)
  | .receiving job path reads index remaining written => some (receiveChunk call d job path reads index remaining written)
  | .claiming job path written =>
    match call.faults .replace with
    | some error => some (d,.discarding job path error)
    | none => some ({d with files:=replace d.files (job.at (partPath call path)) (job.at path)},
        .stamping job ⟨path,lib.sha1 written,written.length⟩)
  | .discarding job path error =>
    let discarded := discardPart call d.files (job.at (partPath call path)) error
    some ({d with files:=discarded.2},.failing job discarded.1)
  | .moving job path staged content contentSha1 =>
    match call.faults .replace with
    | none => some ({d with files:=replace d.files (.staged staged) (job.at path)},
        .stamping job ⟨path,contentSha1,content.length⟩)
    | some error =>
      if isCrossDevice error then
        some ({d with files:=writeFile d.files (job.at path) []},.copying job path staged content contentSha1)
      else some (d,.failing job error)
  | .copying job path staged content contentSha1 =>
    match call.faults .copyStaged with
    | some error => some ({d with files:=writeFile d.files (job.at path) (content.take call.copied)},.failing job error)
    | none => some ({d with files:=writeFile d.files (job.at path) content},.copied job path staged content contentSha1)
  | .copied job path staged content contentSha1 =>
    match call.faults .unlinkStaged with
    | some error => some (d,.failing job error)
    | none => some ({d with files:=unlink d.files (.staged staged)},.stamping job ⟨path,contentSha1,content.length⟩)
  | .stamping job stored =>
    match utimeFault call job.metadata with
    | some error => some (d,.failing job error)
    | none => some (d,.recording job stored)
  | .failing job error =>
    let failed := failTransfer job.context call.currentTime (isDiskFullOsError error) (storeFailedResponse error)
      (d.cleaned call)
    some (failed.2,.finished failed.1)
  | .recording job stored =>
    some ({d with store:=upsertMobileAssetRecord d.store (storedRow job.metadata call.currentTime stored)},
      .counting job stored)
  | .counting job stored => some ({d with store:=countTransferred d.store job.metadata},.stored job stored)
  | .stored _ _ | .finished _ => none

-- A handler that checks in one statement and then writes, or answers, in a later one.
inductive Checked (Pending : Type) where
  | received
  | passed (pending : Pending)
  | finished (result : Except Raised Response)

def stepChecked {Pending : Type} (check : Store → Except (Except Raised Response) Pending)
    (write : Pending → Desktop → Except Raised Response × Desktop) (d : Desktop) :
    Checked Pending → Option (Desktop × Checked Pending)
  | .received =>
    match check d.store with
    | .error result => some (d,.finished result)
    | .ok pending => some (d,.passed pending)
  | .passed pending => some ((write pending d).2,.finished (write pending d).1)
  | .finished _ => none

abbrev SessionPending := MobileTransferSessionRequest × MobileTransferContext

inductive Activity where
  | upload (call : UploadCall) (stage : UploadStage)
  | start (payload : Fields) (currentTime : DateTime) (stage : Checked SessionPending)
  | existence (payload : Fields) (stage : Checked (MobileTransferAssetExistenceRequest × MobileTransferContext))
  | complete (payload : Fields) (currentTime : DateTime) (stage : Checked SessionPending)
  | streamError (metadataPayload : Option Fields) (error : OSError) (currentTime : DateTime)
      (stage : Checked MobileTransferContext)

def stepActivity (lib : Libraries) (d : Desktop) : Activity → Unit → Option (Desktop × Activity)
  | .upload call stage,_ => (stepUpload lib call d stage).map fun next => (next.1,.upload call next.2)
  | .start payload currentTime stage,_ =>
    (stepChecked (fun store => checkStart lib store payload)
      (fun pending => acceptStart pending.1 pending.2 currentTime) d stage).map fun next =>
      (next.1,.start payload currentTime next.2)
  | .existence payload stage,_ =>
    (stepChecked (fun store => checkExistence lib store payload)
      (fun pending d => (answerExistence pending.1 d,d)) d stage).map fun next => (next.1,.existence payload next.2)
  | .complete payload currentTime stage,_ =>
    (stepChecked (fun store => checkComplete lib store payload)
      (fun pending => finishTransfer payload pending.1 pending.2 currentTime) d stage).map fun next =>
      (next.1,.complete payload currentTime next.2)
  | .streamError metadataPayload error currentTime stage,_ =>
    (stepChecked (fun store => checkStreamError lib store metadataPayload error)
      (fun context => failTransfer context currentTime true (streamErrorResponse error)) d stage).map fun next =>
      (next.1,.streamError metadataPayload error currentTime next.2)

def transferPool (Index : Type) [DecidableEq Index] (lib : Libraries) :
    System (Pool Index Desktop Activity) (Move Index Unit Empty) :=
  pool (stepActivity lib) fun _ event => nomatch event

end ImageSearch.TransferThreads
