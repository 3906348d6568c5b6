import Mathlib.Logic.Basic

namespace ImageSearch.BackupState

inductive MobileBackupState where
  | pendingPairing | pairingMismatched | pairingCompleted | pairingExpired | pairingStopped
  | transferInProgress | transferStopped | transferCompleted | transferFailed
  deriving DecidableEq, Repr

inductive MobileBackupEvent where
  | pairingAccepted | pairingMismatchDetected | pairingMismatchResolved | pairingExpired | pairingStopped
  | transferStarted | transferStopped | transferCompleted | transferFailed
  deriving DecidableEq, Repr

def MobileBackupState.value : MobileBackupState → String
  | .pendingPairing => "pending_pairing"
  | .pairingMismatched => "pairing_mismatched"
  | .pairingCompleted => "pairing_completed"
  | .pairingExpired => "pairing_expired"
  | .pairingStopped => "pairing_stopped"
  | .transferInProgress => "transfer_in_progress"
  | .transferStopped => "transfer_stopped"
  | .transferCompleted => "transfer_completed"
  | .transferFailed => "transfer_failed"

-- _STATE_TRANSITIONS; `none` is MobileBackupStateTransitionError.
def transition : MobileBackupState → MobileBackupEvent → Option MobileBackupState
  | .pendingPairing,.pairingAccepted => some .pairingCompleted
  | .pendingPairing,.pairingMismatchDetected => some .pairingMismatched
  | .pendingPairing,.pairingExpired => some .pairingExpired
  | .pendingPairing,.pairingStopped => some .pairingStopped
  | .pairingMismatched,.pairingMismatchDetected => some .pairingMismatched
  | .pairingMismatched,.pairingMismatchResolved => some .pairingCompleted
  | .pairingMismatched,.pairingExpired => some .pairingExpired
  | .pairingMismatched,.pairingStopped => some .pairingStopped
  | .pairingCompleted,.pairingAccepted => some .pairingCompleted
  | .pairingCompleted,.pairingStopped => some .pairingStopped
  | .pairingExpired,.pairingExpired => some .pairingExpired
  | .pairingExpired,.pairingAccepted => some .pairingCompleted
  | .pairingExpired,.pairingMismatchDetected => some .pairingMismatched
  | .pairingExpired,.pairingStopped => some .pairingStopped
  | .pairingStopped,.pairingStopped => some .pairingStopped
  | .pairingStopped,.pairingAccepted => some .pairingCompleted
  | .pairingStopped,.pairingMismatchDetected => some .pairingMismatched
  | .pairingCompleted,.transferStarted => some .transferInProgress
  | .transferInProgress,.transferStarted => some .transferInProgress
  | .transferInProgress,.transferStopped => some .transferStopped
  | .transferInProgress,.transferCompleted => some .transferCompleted
  | .transferInProgress,.transferFailed => some .transferFailed
  | .transferStopped,.transferStarted => some .transferInProgress
  | .transferCompleted,.transferStarted => some .transferInProgress
  | .transferFailed,.transferStarted => some .transferInProgress
  | _,_ => none

-- The texts of mobile_folders.transfer_state. No writer stores "disconnected"; the
-- reader knows it.
inductive FolderTransferState where
  | paired | transferring | completed | failed | disconnected
  deriving DecidableEq, Repr

inductive SessionStatus where
  | paired | transferring | completed | failed | stoppedByMobile
  deriving DecidableEq, Repr

def SessionStatus.Terminal : SessionStatus → Prop
  | .completed | .failed | .stoppedByMobile => True
  | .paired | .transferring => False

instance (status : SessionStatus) : Decidable status.Terminal := by
  cases status <;> unfold SessionStatus.Terminal <;> infer_instance

def backupStateFromFolderTransferState (folderTransferState : Option FolderTransferState)
    (defaultState : MobileBackupState) : MobileBackupState :=
  match folderTransferState with
  | some .transferring => .transferInProgress
  | some .completed => .transferCompleted
  | some .failed => .transferFailed
  | some .disconnected => .transferStopped
  | some .paired => .pairingCompleted
  | none => defaultState

def folderTransferStateFromBackupState : MobileBackupState → FolderTransferState
  | .transferInProgress => .transferring
  | .transferCompleted => .completed
  | .transferFailed => .failed
  | _ => .paired

-- An unsupported transition is retried from the fallback state, where it may raise.
def resolveNextBackupState (currentFolderTransferState : Option FolderTransferState) (event : MobileBackupEvent)
    (fallbackState : MobileBackupState) : Option MobileBackupState :=
  match transition (backupStateFromFolderTransferState currentFolderTransferState fallbackState) event with
  | some next => some next
  | none => transition fallbackState event

-- Each event is resolved against a fallback state that supports it, so no handler
-- ever raises a transition error, whatever the folder's column says.
theorem resolve_ended (current : Option FolderTransferState) {event : MobileBackupEvent} {target : MobileBackupState}
    (direct : transition .transferInProgress event = some target) (ended : target ≠ .transferInProgress) :
    resolveNextBackupState current event .transferInProgress = some target := by
  cases event <;> cases direct <;> first | exact absurd rfl ended | skip
  all_goals
    cases current with
    | none => rfl
    | some state => cases state <;> rfl

theorem resolve_started (current : Option FolderTransferState) :
    resolveNextBackupState current .transferStarted .pairingCompleted = some .transferInProgress := by
  cases current with
  | none => rfl
  | some state => cases state <;> rfl

end ImageSearch.BackupState
