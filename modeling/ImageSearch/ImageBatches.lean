import ImageSearch.ShareSessions

namespace ImageSearch.ImageBatches
open Transitions Threads Tables ShareSessions

-- The images are counted, not kept. Ghosts: the uploads that the limit check let through, the
-- increments, the transitions of the session and whether its cleanup timer has fired.
structure Receiver where
  registry : Registry
  paired : Bool
  written : Nat := 0
  passed : Nat := 0
  counted : Nat := 0
  transitions : List SessionState := []
  cleaned : Bool := false

-- Where _do_transfer_image stands; a handler of the orchestrator is in progress in three of
-- its stages. An error of the last two is logged and swallowed.
inductive UploadStage where
  | arrived
  | opening (handler : Handler)
  | checking
  | writing
  | receiving (handler : Handler)
  | delivering (handler : Handler)
  | delivered (completed : Bool) (swallowed : Option ErrorCode)
  | refused (error : ErrorCode)
  deriving DecidableEq, Repr

def UploadStage.isFinished : UploadStage → Bool
  | .delivered _ _ | .refused _ => true
  | _ => false

structure Upload where
  sessionId : String
  imageCount : Nat
  stage : UploadStage
  deriving DecidableEq, Repr

def announcedCount (imageCount : Nat) : Option Nat := if 0 < imageCount then some imageCount else none

def revisitConfig (sessionId : String) : ConnectionConfig := ⟨sessionId,.image,true⟩

def limitCheck (r : Registry) (sessionId : String) : Except ErrorCode Unit := do
  let session ← r.requireSession sessionId
  if session.payloadClass ≠ .image then throw .deliveryPathInvalid
  if 0 < session.imageCount ∧ session.imageCount ≤ session.receivedCount then throw .transferLimitExceeded

def Receiver.after (w : Receiver) (sessionId : String) (r : Registry) : Receiver :=
  let before := w.registry.getSession sessionId
  let later := r.getSession sessionId
  {w with
    registry:=r
    counted:=w.counted + (later.elim 0 InstantShareSession.receivedCount - before.elim 0 InstantShareSession.receivedCount)
    transitions:=match before,later with
      | some one,some two => if one.state = two.state then w.transitions else w.transitions ++ [two.state]
      | _,_ => w.transitions}

def stepUpload (w : Receiver) (upload : Upload) : Option (Receiver × Upload) :=
  match upload.stage with
  | .arrived => some (w,{upload with
      stage:=if w.paired then .checking
        else .opening (.revisiting (revisitConfig upload.sessionId) (announcedCount upload.imageCount))})
  | .opening handler => (stepHandler w.registry handler).map fun next =>
      (w.after upload.sessionId next.1,{upload with
        stage:=match next.2 with
          | .returned _ => .checking
          | .raised error => .refused error
          | later => .opening later})
  | .checking => some (match limitCheck w.registry upload.sessionId with
      | .ok _ => ({w with passed:=w.passed + 1},{upload with stage:=.writing})
      | .error error => (w,{upload with stage:=.refused error}))
  | .writing => some ({w with written:=w.written + 1},{upload with
      stage:=.receiving (.receiving upload.sessionId (announcedCount upload.imageCount))})
  | .receiving handler => (stepHandler w.registry handler).map fun next =>
      let w' := w.after upload.sessionId next.1
      match next.2 with
      | .returned true => (w',{upload with stage:=.delivering (.delivering upload.sessionId)})
      | .returned false => (w',{upload with stage:=.delivered false none})
      | .raised error => (w',{upload with stage:=.delivered false (some error)})
      | later => (w',{upload with stage:=.receiving later})
  | .delivering handler => (stepHandler w.registry handler).map fun next =>
      (w.after upload.sessionId next.1,{upload with
        stage:=match next.2 with
          | .returned _ => .delivered true none
          | .raised error => .delivered true (some error)
          | later => .delivering later})
  | .delivered _ _ | .refused _ => none

def timerEvent (sessionId : String) (w : Receiver) (timer : CleanupTimer) : Option Receiver :=
  if timer ∈ w.registry.timers then some {w with
    registry:=w.registry.cleanupSession timer
    cleaned:=w.cleaned || timer.sessionId = sessionId}
  else none

def uploadPool (Index : Type*) [DecidableEq Index] (sessionId : String) :
    System (Pool Index Receiver Upload) (Move Index Unit CleanupTimer) :=
  pool (fun w upload _ => stepUpload w upload) (timerEvent sessionId)

section Session
variable {r : Registry} {sessionId : String} {x : InstantShareSession} {nextState : SessionState}

theorem require_some (here : r.getSession sessionId = some x) : r.requireSession sessionId = .ok x := by
  unfold Registry.requireSession
  rw [here]

theorem session_replaced (change : InstantShareSession → InstantShareSession)
    (same : ∀ session, (change session).sessionId = session.sessionId) (here : r.getSession sessionId = some x) :
    (r.replaceSession sessionId change same).getSession sessionId = some (change x) := by
  unfold Registry.replaceSession Registry.getSession at *
  dsimp only
  rw [find_modify,here,Option.map_some,if_pos (decide_eq_true (find_mem here).2)]

theorem transition_some (here : r.getSession sessionId = some x) (allowed : nextState ∈ allowedTransitions x.state) :
    ∃ r', r.transition sessionId nextState = .ok (r',{x with state:=nextState}) ∧
      r'.getSession sessionId = some {x with state:=nextState} := by
  unfold Registry.transition
  simp only [require_some here,bind,Except.bind,if_pos allowed,pure,Except.pure]
  refine ⟨_,rfl,?_⟩
  split
  · exact session_replaced (fun session => {session with state:=nextState}) (fun _ => rfl) here
  · exact session_replaced (fun session => {session with state:=nextState}) (fun _ => rfl) here

theorem batch_some (imageCount : Nat) (here : r.getSession sessionId = some x) :
    ∃ r', r.setBatchMetadata sessionId imageCount = .ok r' ∧ r'.getSession sessionId = some {x with imageCount} := by
  unfold Registry.setBatchMetadata
  simp only [require_some here,bind,Except.bind,pure,Except.pure]
  exact ⟨_,rfl,session_replaced (fun session => {session with imageCount}) (fun _ => rfl) here⟩

theorem increment_some (here : r.getSession sessionId = some x) :
    ∃ r', r.incrementReceivedCount sessionId = .ok r' ∧
      r'.getSession sessionId = some {x with receivedCount:=x.receivedCount + 1} := by
  unfold Registry.incrementReceivedCount
  simp only [require_some here,bind,Except.bind,pure,Except.pure]
  exact ⟨_,rfl,session_replaced (fun session => {session with receivedCount:=session.receivedCount + 1}) (fun _ => rfl) here⟩

theorem bootstrap_new (config : ConnectionConfig) (absent : r.getSession config.sessionId = none)
    (room : r.activeCount < r.maxSessions) : ∃ r', r.bootstrap config = .ok (r',⟨config.sessionId,config.payloadClass,r.created,.bootstrapped,0,0⟩) ∧
      r'.getSession config.sessionId = some ⟨config.sessionId,config.payloadClass,r.created,.bootstrapped,0,0⟩ := by
  unfold Registry.bootstrap
  rw [absent]
  dsimp only
  rw [if_neg (Nat.not_le.mpr room)]
  refine ⟨_,rfl,?_⟩
  unfold Registry.getSession at *
  dsimp only
  rw [find_upsert,if_pos rfl,absent]
  rfl

theorem bootstrap_known {config : ConnectionConfig} (here : r.getSession config.sessionId = some x) :
    r.bootstrap config = .ok (r,x) := by
  unfold Registry.bootstrap
  rw [here]

end Session

end ImageSearch.ImageBatches
