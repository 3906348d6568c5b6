import ImageSearch.PhoneUploads

namespace ImageSearch.PhoneRuns
open Payload Transitions Threads TransferClients PhoneUploads

inductive TransferPhase where
  | preparing | transferring | stopped | completed | failed
  deriving DecidableEq, Repr

structure Counts where
  transferred : Nat
  failed : Nat
  deriving DecidableEq, Repr

structure TransferSnapshot where
  transferredCount : Nat
  totalCount : Nat
  failedCount : Nat
  skippedCount : Nat
  transport : Transport
  phase : TransferPhase
  failureMessage : Option String
  deriving DecidableEq, Repr

def TransferSnapshot.counts (snapshot : TransferSnapshot) : Counts := ⟨snapshot.transferredCount,snapshot.failedCount⟩

def TransferSnapshot.empty (transport : Transport) : TransferSnapshot := ⟨0,0,0,0,transport,.preparing,none⟩

def makeProgressSnapshot (transport : Transport) (totalCount : Nat) (counts : Counts) (skippedCount : Nat) : TransferSnapshot :=
  ⟨counts.transferred,totalCount,counts.failed,skippedCount,transport,
    if min (counts.transferred + counts.failed) totalCount = 0 then .preparing else .transferring,none⟩

def TransferSnapshot.failing (snapshot : TransferSnapshot) (message : String) : TransferSnapshot :=
  {snapshot with failedCount:=max snapshot.failedCount 1,phase:=.failed,failureMessage:=some message}

def TransferSnapshot.completing (snapshot : TransferSnapshot) : TransferSnapshot :=
  {snapshot with phase:=.completed,failureMessage:=none}

inductive Body where
  | json (fields : Fields)
  | chunk (data : Bytes)

structure Request where
  operation : Operation
  body : Body

inductive Outgoing where
  | json (operation : Operation) (fields : Fields) (nonce : Bytes)
  | chunk (data nonce : Bytes)

def encodeRequest (phone : PhoneLibraries) (desktop : TrustedDesktopRecord) : Outgoing → Option Request
  | .json operation fields nonce => (encodeRequestBody phone desktop fields nonce).map fun body => ⟨operation,.json body⟩
  | .chunk data nonce => (chunkPayloadData phone desktop data nonce).map fun data => ⟨.asset,.chunk data⟩

def startRequestFields (desktop : TrustedDesktopRecord) (trustProof : String) (totalAssets : Nat) : Fields :=
  [("schema",.string TransferService.mobileTransferSchema),("session_id",.string desktop.lastSessionID),
    ("device_uuid",.string desktop.mobileDeviceUUID),("trust_proof",.string trustProof),("total_assets",.int totalAssets)]

def completeRequestFields (desktop : TrustedDesktopRecord) (trustProof : String) (counts : Counts)
    (interruptionReason : Option String) : Fields :=
  [("schema",.string TransferService.mobileTransferSchema),("session_id",.string desktop.lastSessionID),
    ("device_uuid",.string desktop.mobileDeviceUUID),("trust_proof",.string trustProof),
    ("transferred_count",.int counts.transferred),("failed_count",.int counts.failed)] ++
    interruptionReason.toList.map fun reason => ("interruption_reason",.string reason)

-- Ghost: the counts of a completion request, and those of the run when it was sent.
structure Report where
  reported : Counts
  run : Counts
  deriving DecidableEq, Repr

-- The service and the record store. `sent` are the requests of the LAN client; ghosts are
-- whether a run is under way, what it has counted, and the reports.
structure Service where
  stored : Option TrustedDesktopRecord
  stopRequested : Bool := false
  currentSnapshot : Option TransferSnapshot := none
  sent : List Request := []
  running : Bool := false
  runCounts : Counts := ⟨0,0⟩
  reports : List Report := []

def Service.send (w : Service) (phone : PhoneLibraries) (overLan : Bool) (desktop : TrustedDesktopRecord)
    (outgoing : Outgoing) : Service :=
  if overLan then {w with sent:=(encodeRequest phone desktop outgoing).toList ++ w.sent} else w

def Service.write (w : Service) (snapshot : TransferSnapshot) : Service := {w with currentSnapshot:=some snapshot}

-- How far one call is: each step goes from one await to the next. The run first, then
-- progressSnapshot, stopTransfer and completeTransfer with the snapshot they have copied.
inductive Task where
  | idle
  | loading
  | resetting (desktop : TrustedDesktopRecord)
  | fetching (desktop : TrustedDesktopRecord)
  | emptying (desktop : TrustedDesktopRecord)
  | negotiating (desktop : TrustedDesktopRecord) (totalCount : Nat)
  | saving (desktop : TrustedDesktopRecord) (totalCount : Nat)
  | starting (desktop : TrustedDesktopRecord) (totalCount : Nat)
  | started (desktop : TrustedDesktopRecord) (totalCount : Nat)
  | reportingStop (desktop : TrustedDesktopRecord) (totalCount : Nat)
  | opening (desktop : TrustedDesktopRecord) (totalCount : Nat)
  | transferring (desktop : TrustedDesktopRecord) (totalCount : Nat) (counts : Counts) (skippedCount : Nat)
  | recording (desktop : TrustedDesktopRecord) (totalCount : Nat) (counts : Counts) (skippedCount : Nat)
  | terminating (desktop : TrustedDesktopRecord) (totalCount : Nat) (counts : Counts) (skippedCount : Nat) (message : String)
  | draining (desktop : TrustedDesktopRecord)
  | pausing (totalCount : Nat) (counts : Counts) (skippedCount : Nat)
  | closing (totalCount : Nat) (counts : Counts) (skippedCount : Nat)
  | failing (message : String)
  | refreshing (snapshot : TransferSnapshot)
  | stopping (snapshot : TransferSnapshot)
  | stopLoaded (desktop : TrustedDesktopRecord) (snapshot : TransferSnapshot)
  | completing (snapshot : TransferSnapshot)
  | completeLoaded (desktop : TrustedDesktopRecord) (snapshot : TransferSnapshot)
  | completeSent (snapshot : TransferSnapshot)
  | concluding (snapshot : TransferSnapshot)

inductive Exchange where
  | unsupported
  | accepted (encryption : Bool)
  | failed

inductive Counted where
  | uploaded | skipped | failed
  | diskFull (message : String)

-- What follows a batch: the run sees the stop, its next fetch throws, or there is none.
inductive BatchEnd where
  | stopped
  | threw (message : String)
  | finished

inductive Input where
  | startTransfer | progressSnapshot | stopTransfer | completeTransfer
  | recordChunkTransferProgress (bytes : Nat)
  | resolved (transport : Transport)
  | fetched (totalCount : Except String Nat)
  | exchanged (answer : Exchange)
  | post (overLan : Bool) (trustProof : String) (nonce : Bytes)
  | transfer (overLan : Bool) (outgoing : Outgoing)
  | answered (error : Option String)
  | counted (outcome : Counted)
  | batchEnded (next : BatchEnd)

def strictSecurityTransferFailureMessage : String :=
  "The desktop does not support encrypted transport. Update the desktop app and try again."

-- The record to go on with, and whether it is saved before.
def negotiateTransferEncryptionCapabilityIfNeeded (desktop : TrustedDesktopRecord) :
    Exchange → Except String (TrustedDesktopRecord × Bool)
  | .unsupported =>
    if desktop.strictSecurityEnabled then .error strictSecurityTransferFailureMessage else .ok (desktop,false)
  | .accepted encryptionEnabled =>
    -- Thrown inside the do block, and thrown again by its catch.
    if desktop.strictSecurityEnabled && !encryptionEnabled then .error strictSecurityTransferFailureMessage
    else .ok ({desktop with encryptionEnabled},desktop.encryptionEnabled != encryptionEnabled)
  | .failed =>
    if desktop.strictSecurityEnabled then .error strictSecurityTransferFailureMessage
    else .ok ({desktop with encryptionEnabled:=false},desktop.encryptionEnabled)

def Counts.count (counts : Counts) : Counted → Counts
  | .uploaded | .skipped => {counts with transferred:=counts.transferred + 1}
  | .failed | .diskFull _ => {counts with failed:=counts.failed + 1}

def stepRun (phone : PhoneLibraries) (w : Service) : Task → Input → Option (Service × Task)
  | .loading,.resolved _ =>
    match w.stored with
    | none => some ({w.write {TransferSnapshot.empty .lan with
        phase:=.failed,failureMessage:=some "No paired desktop record is available for transfer."} with running:=false},.idle)
    | some desktop => some (w,.resetting desktop)
  | .resetting desktop,.resolved transport => some (w.write (.empty transport),.fetching desktop)
  | .fetching desktop,.fetched answer =>
    match answer with
    | .error message => some (w,.failing message)
    | .ok 0 => some (w,.emptying desktop)
    | .ok totalCount =>
      if w.stopRequested then some (w,.pausing totalCount ⟨0,0⟩ 0) else some (w,.negotiating desktop totalCount)
  | .emptying _,.resolved transport =>
    some ({w.write {TransferSnapshot.empty transport with phase:=.completed} with running:=false},.idle)
  | .negotiating desktop totalCount,.exchanged answer =>
    match negotiateTransferEncryptionCapabilityIfNeeded desktop answer with
    | .error message => some (w,.failing message)
    | .ok (updatedDesktop,saved) =>
      if saved then some (w,.saving updatedDesktop totalCount) else some (w,.starting updatedDesktop totalCount)
  | .saving desktop totalCount,.resolved _ => some ({w with stored:=some desktop},.starting desktop totalCount)
  | .starting desktop totalCount,.post overLan trustProof nonce =>
    some (w.send phone overLan desktop (.json .start (startRequestFields desktop trustProof totalCount) nonce),
      .started desktop totalCount)
  | .started desktop totalCount,.answered error =>
    match error with
    | some message => some (w,.failing message)
    | none => if w.stopRequested then some (w,.reportingStop desktop totalCount) else some (w,.opening desktop totalCount)
  | .reportingStop desktop totalCount,.post overLan trustProof nonce =>
    let sent := w.send phone overLan desktop
      (.json .complete (completeRequestFields desktop trustProof ⟨0,0⟩ (some "stopped_by_user")) nonce)
    some ({sent with reports:=⟨⟨0,0⟩,w.runCounts⟩ :: w.reports},.pausing totalCount ⟨0,0⟩ 0)
  | .opening desktop totalCount,.resolved transport =>
    some (w.write (makeProgressSnapshot transport totalCount ⟨0,0⟩ 0),.transferring desktop totalCount ⟨0,0⟩ 0)
  | .transferring desktop totalCount counts skippedCount,.transfer overLan outgoing =>
    some (w.send phone overLan desktop outgoing,.transferring desktop totalCount counts skippedCount)
  | .transferring desktop totalCount counts skippedCount,.counted outcome =>
    let w := {w with runCounts:=counts.count outcome}
    match outcome with
    | .uploaded | .failed => some (w,.recording desktop totalCount (counts.count outcome) skippedCount)
    | .skipped => some (w,.recording desktop totalCount (counts.count outcome) (skippedCount + 1))
    | .diskFull message => some (w,.terminating desktop totalCount (counts.count outcome) skippedCount message)
  | .transferring desktop totalCount counts skippedCount,.batchEnded next =>
    match next with
    | .stopped => if w.stopRequested then some (w,.pausing totalCount counts skippedCount) else none
    | .threw message => some (w,.failing message)
    | .finished => some (w,.closing totalCount counts skippedCount)
  | .recording desktop totalCount counts skippedCount,.transfer overLan outgoing =>
    some (w.send phone overLan desktop outgoing,.recording desktop totalCount counts skippedCount)
  | .recording desktop totalCount counts skippedCount,.resolved transport =>
    some (w.write (makeProgressSnapshot transport totalCount counts skippedCount),
      .transferring desktop totalCount counts skippedCount)
  | .terminating desktop totalCount counts skippedCount message,.transfer overLan outgoing =>
    some (w.send phone overLan desktop outgoing,.terminating desktop totalCount counts skippedCount message)
  | .terminating desktop totalCount counts skippedCount message,.resolved transport =>
    some ({w.write ⟨counts.transferred,totalCount,counts.failed,skippedCount,transport,.failed,some message⟩ with
      stopRequested:=true},.draining desktop)
  -- The tasks that were cancelled end.
  | .draining desktop,.transfer overLan outgoing => some (w.send phone overLan desktop outgoing,.draining desktop)
  | .draining _,.resolved _ => some ({w with running:=false},.idle)
  | .pausing totalCount counts skippedCount,.resolved transport =>
    some ({w.write ⟨counts.transferred,totalCount,counts.failed,skippedCount,transport,.stopped,none⟩ with running:=false},
      .idle)
  | .closing totalCount counts skippedCount,.resolved transport =>
    some ({w.write ⟨counts.transferred,totalCount,counts.failed,skippedCount,transport,.transferring,none⟩ with
      running:=false},.idle)
  | .failing message,.resolved transport =>
    some ({w.write ⟨0,0,1,0,transport,.failed,some message⟩ with running:=false,runCounts:=⟨0,1⟩},.idle)
  | _,_ => none

def enter (w : Service) : Input → Option (Service × Task)
  | .startTransfer =>
    if w.running then none else some ({w with running:=true,stopRequested:=false,runCounts:=⟨0,0⟩},.loading)
  | .progressSnapshot =>
    match w.currentSnapshot with
    | none => some (w,.idle)
    | some snapshot => some (w,.refreshing snapshot)
  | .stopTransfer => some ({w with stopRequested:=true},.stopping (w.currentSnapshot.getD (.empty .lan)))
  | .completeTransfer => some (w,.completing (w.currentSnapshot.getD (.empty .lan)))
  -- The speed and the estimate of the snapshot alone.
  | .recordChunkTransferProgress _ => some (w,.idle)
  | _ => none

def stepTask (phone : PhoneLibraries) (w : Service) (task : Task) (input : Input) : Option (Service × Task) :=
  match task,input with
  | .idle,input => enter w input
  | .refreshing snapshot,.resolved transport =>
    some (w.write (if w.stored.isSome then {snapshot with transport} else snapshot),.idle)
  | .stopping snapshot,.resolved _ =>
    match w.stored with
    | none => some (w,.idle)
    | some desktop => some (w,.stopLoaded desktop snapshot)
  | .stopLoaded desktop snapshot,.post overLan trustProof nonce =>
    let sent := w.send phone overLan desktop
      (.json .complete (completeRequestFields desktop trustProof snapshot.counts (some "stopped_by_user")) nonce)
    some ({sent with reports:=⟨snapshot.counts,w.runCounts⟩ :: w.reports},.idle)
  | .completing snapshot,.resolved _ =>
    match w.stored with
    | none => some (w.write (snapshot.failing
        "Backup finished on the phone, but the paired desktop record is no longer available."),.idle)
    | some desktop => some (w,.completeLoaded desktop snapshot)
  | .completeLoaded desktop snapshot,.post overLan trustProof nonce =>
    let sent := w.send phone overLan desktop
      (.json .complete (completeRequestFields desktop trustProof snapshot.counts none) nonce)
    some ({sent with reports:=⟨snapshot.counts,w.runCounts⟩ :: w.reports},.completeSent snapshot)
  | .completeSent snapshot,.answered error =>
    match error with
    | none => some (w,.concluding snapshot.completing)
    | some message => some (w,.concluding (snapshot.failing message))
  | .concluding snapshot,.resolved transport => some (w.write {snapshot with transport},.idle)
  | task,input => stepRun phone w task input

variable {Index : Type} [DecidableEq Index]

def service (phone : PhoneLibraries) : System (Pool Index Service Task) (Move Index Input Unit) :=
  pool (stepTask phone) fun _ _ => none

def launched (stored : Option TrustedDesktopRecord) : Pool Index Service Task := ⟨{stored},fun _ => .idle⟩

end ImageSearch.PhoneRuns
