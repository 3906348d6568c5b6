import ImageSearch.Payload
import Mathlib.Logic.Function.Basic

namespace ImageSearch.PhoneConnection
open Payload

inductive AoaTransportState where
  | idle
  | preparing
  | authenticating
  | connected
  | disconnected
  | failed
  deriving DecidableEq, Repr

def AoaTransportState.name : AoaTransportState → String
  | .idle => "IDLE"
  | .preparing => "PREPARING"
  | .authenticating => "AUTHENTICATING"
  | .connected => "CONNECTED"
  | .disconnected => "DISCONNECTED"
  | .failed => "FAILED"

-- Each throw site, with what its message quotes.
inductive AoaTransportError where
  | invalidBootstrap (suggestedPort : Int)
  | connectionUnavailable (state : AoaTransportState)
  | connectionLost
  | inactiveChunk (requestId : String)
  | inactiveFinish (requestId : String)
  | responseTimedOut (requestId : String) (timeoutMs : Nat)
  | finalResponseTimedOut (requestId : String) (timeoutMs : Nat)
  | missingRequestId
  deriving DecidableEq, Repr

def AoaTransportError.message : AoaTransportError → String
  | .invalidBootstrap suggestedPort => s!"suggestedPort must be in 1..65535, got {suggestedPort}"
  | .connectionUnavailable state => "AOA client is not connected (state=" ++ state.name ++ ")"
  | .connectionLost => "AOA connection lost"
  | .inactiveChunk requestId => "Cannot send binary chunk for inactive streaming request " ++ requestId
  | .inactiveFinish requestId => "Cannot finish inactive streaming request " ++ requestId
  | .responseTimedOut requestId timeoutMs =>
    "No response received for request " ++ requestId ++ s!" within {timeoutMs}ms"
  | .finalResponseTimedOut requestId timeoutMs =>
    "No final response received for streaming request " ++ requestId ++ s!" within {timeoutMs}ms"
  | .missingRequestId => "Envelope is missing request_id"

-- An envelope as JSON gives it to either side; an absent field is none.
structure Envelope where
  schema : String
  operation : Option String
  requestId : Option String
  bodySchema : Option String
  statusCode : Option Int
  body : Fields

inductive FramePayload where
  | text (envelope : Envelope)
  | binary (chunk : Bytes)

inductive ResponseResult where
  | success (payload : Envelope)
  | error (error : AoaTransportError)

abbrev Registry := List (String × Nat)

def Registry.get (registry : Registry) (requestId : String) : Option Nat := registry.lookup requestId
def Registry.remove (registry : Registry) (requestId : String) : Registry :=
  registry.filter fun entry => entry.1 != requestId
def Registry.put (registry : Registry) (requestId : String) (queue : Nat) : Registry :=
  (requestId,queue) :: registry.remove requestId

section Registry
variable {registry : Registry} {requestId other : String} {queue : Nat}

theorem get_mem (found : registry.get requestId = some queue) : (requestId,queue) ∈ registry := by
  induction registry with
  | nil => cases found
  | cons entry registry ih =>
      obtain ⟨key,value⟩ := entry
      simp only [Registry.get,List.lookup_cons] at found ih
      by_cases same : requestId = key
      · subst same
        simp only [beq_self_eq_true,Option.some.injEq] at found
        simp [← found]
      · simp only [beq_eq_false_iff_ne.mpr same] at found
        exact List.mem_cons_of_mem _ (ih found)

@[simp] theorem get_put (registry : Registry) (requestId : String) (queue : Nat) :
    (registry.put requestId queue).get requestId = some queue := by
  simp [Registry.get,Registry.put]

theorem get_remove_other (different : other ≠ requestId) : (registry.remove requestId).get other = registry.get other := by
  induction registry with
  | nil => rfl
  | cons entry registry ih =>
      obtain ⟨key,value⟩ := entry
      simp only [Registry.remove,Registry.get] at ih ⊢
      by_cases removed : key = requestId
      · subst removed
        simpa [List.lookup_cons,beq_eq_false_iff_ne.mpr different] using ih
      · simp only [List.filter_cons,bne_iff_ne,ne_eq,removed,not_false_eq_true,if_true,List.lookup_cons,ih]

theorem get_put_other (different : other ≠ requestId) : (registry.put requestId queue).get other = registry.get other := by
  simp only [Registry.get,Registry.put,List.lookup_cons,beq_eq_false_iff_ne.mpr different]
  exact get_remove_other different

end Registry

structure Bootstrap where
  sessionId : String
  oneTimePasscode : String
  suggestedPort : Int
  deriving DecidableEq, Repr

-- A frame in the queue; `seen` is the connection its producer found when it checked.
structure QueuedFrame where
  requestId : String
  payload : FramePayload
  seen : Nat

inductive Role where
  | reader (generation : Nat)
  | writer (generation : Nat)
  | watchdog
  deriving DecidableEq, Repr

-- A task of resyncExecutor: in its delay, about to probe, or past the probe.
inductive TaskPhase where
  | sleeping
  | probing
  | finishing
  deriving DecidableEq, Repr

def outgoingQueueCapacity : Nat := 16

-- `streams` is the generation whose streams are open, `starting` the threads that have
-- not run yet. `written` and `answered` record what was written to which streams and on
-- which of them a challenge was answered.
structure AoaClient where
  state : AoaTransportState
  bootstrap : Option Bootstrap
  stopped : Bool
  connectionGeneration : Nat
  streams : Option Nat
  outgoingQueue : List QueuedFrame
  pendingResponses : Registry
  pendingStreamingResponses : Registry
  mailboxes : Nat → Option ResponseResult
  nextQueue : Nat
  resyncInProgress : Bool
  executorShutdown : Bool
  queuedTasks : Nat
  runningTask : Option TaskPhase
  starting : List Role
  written : List (QueuedFrame × Nat)
  answered : List Nat

def AoaClient.new : AoaClient :=
  ⟨.idle,none,true,0,none,[],[],[],fun _ => none,0,false,false,0,none,[],[],[]⟩

def AoaClient.bootstrapPrepared (client : AoaClient) : Bool := client.bootstrap.isSome

def AoaClient.transitionTo (client : AoaClient) (newState : AoaTransportState) : AoaClient :=
  {client with state:=newState}

def AoaClient.wakeAll (client : AoaClient) : Nat → Option ResponseResult := fun queue =>
  if queue ∈ (client.pendingResponses ++ client.pendingStreamingResponses).map Prod.snd then
    (client.mailboxes queue).or (some (.error .connectionLost))
  else client.mailboxes queue

def AoaClient.closeConnection (client : AoaClient) : AoaClient :=
  {client with
    connectionGeneration:=client.connectionGeneration + 1
    streams:=none
    outgoingQueue:=[]
    mailboxes:=client.wakeAll
    pendingResponses:=[]
    pendingStreamingResponses:=[]
    state:=if client.stopped then client.state else .disconnected}

-- What AoaStreamOpener.open does: a SecurityException, null, or streams.
inductive OpenOutcome where
  | denied
  | missing
  | opened
  deriving DecidableEq, Repr

def AoaClient.openAccessory (client : AoaClient) (outcome : OpenOutcome) : AoaClient :=
  let closed := client.closeConnection
  match outcome with
  | .denied => closed.transitionTo .failed
  | .missing => closed
  | .opened =>
    let generation := closed.connectionGeneration + 1
    {closed with
      state:=.authenticating
      connectionGeneration:=generation
      streams:=some generation
      starting:=closed.starting ++ [.reader generation,.writer generation]}

def AoaClient.probeAttachedAccessories (client : AoaClient) (found : Option OpenOutcome) : AoaClient :=
  found.elim client client.openAccessory

def AoaClient.startInternal (client : AoaClient) : AoaClient :=
  if client.stopped then {client with stopped:=false,starting:=client.starting ++ [.watchdog]} else client

def AoaClient.prepareBootstrap (client : AoaClient) (prepared : Bootstrap) (found : Option OpenOutcome) :
    Except AoaTransportError AoaClient :=
  if prepared.suggestedPort < 1 ∨ 65535 < prepared.suggestedPort then
    .error (.invalidBootstrap prepared.suggestedPort)
  else
    let keeps := client.state = .connected ∧ client.bootstrap.map Bootstrap.sessionId = some prepared.sessionId ∧
      client.bootstrap.map Bootstrap.oneTimePasscode = some prepared.oneTimePasscode
    let client := {client with bootstrap:=some prepared}
    if keeps then .ok client
    else .ok (((client.transitionTo .preparing).startInternal).probeAttachedAccessories found)

-- shutdownNow drops what is queued and interrupts what sleeps: the task then ends.
def AoaClient.shutdownNow (client : AoaClient) : AoaClient :=
  {client with
    executorShutdown:=true
    queuedTasks:=0
    runningTask:=client.runningTask.map fun phase => if phase = .sleeping then .finishing else phase}

def AoaClient.stopInternal (client : AoaClient) : AoaClient :=
  if client.stopped then client else ({client with stopped:=true}.shutdownNow).closeConnection

def AoaClient.reset (client : AoaClient) : AoaClient :=
  {client.stopInternal with bootstrap:=none}.transitionTo .idle

def AoaClient.requireConnected (client : AoaClient) : Except AoaTransportError Unit :=
  if client.state = .connected then .ok () else .error (.connectionUnavailable client.state)

def AoaClient.registerPendingResponse (client : AoaClient) (requestId : String) : AoaClient × Nat :=
  ({client with
    pendingResponses:=client.pendingResponses.put requestId client.nextQueue
    nextQueue:=client.nextQueue + 1},client.nextQueue)

def AoaClient.registerPendingStreamingResponse (client : AoaClient) (requestId : String) : AoaClient × Nat :=
  ({client with
    pendingStreamingResponses:=client.pendingStreamingResponses.put requestId client.nextQueue
    nextQueue:=client.nextQueue + 1},client.nextQueue)

def AoaClient.enterSendRequest (client : AoaClient) (requestId : String) : Except AoaTransportError (AoaClient × Nat) := do
  client.requireConnected
  return client.registerPendingResponse requestId

def AoaClient.enterBeginStreaming (client : AoaClient) (requestId : String) : Except AoaTransportError (AoaClient × Nat) := do
  client.requireConnected
  return client.registerPendingStreamingResponse requestId

def AoaClient.enterSendChunk (client : AoaClient) (requestId : String) : Except AoaTransportError Nat := do
  client.requireConnected
  match client.pendingStreamingResponses.get requestId with
  | some queue => return queue
  | none => throw (.inactiveChunk requestId)

def AoaClient.enterFinishStreaming (client : AoaClient) (requestId : String) : Except AoaTransportError Nat :=
  if client.state ≠ .connected then .error .connectionLost
  else match client.pendingStreamingResponses.get requestId with
    | some queue => .ok queue
    | none => .error (.inactiveFinish requestId)

section Entering
variable {client : AoaClient} {requestId : String}

theorem enterSendRequest_connected (connected : client.state = .connected) :
    client.enterSendRequest requestId = .ok (client.registerPendingResponse requestId) := by
  simp [AoaClient.enterSendRequest,AoaClient.requireConnected,connected,bind,Except.bind,pure,Except.pure]

theorem enterSendRequest_apart (apart : client.state ≠ .connected) :
    client.enterSendRequest requestId = .error (.connectionUnavailable client.state) := by
  simp [AoaClient.enterSendRequest,AoaClient.requireConnected,apart,bind,Except.bind]

theorem enterBeginStreaming_connected (connected : client.state = .connected) :
    client.enterBeginStreaming requestId = .ok (client.registerPendingStreamingResponse requestId) := by
  simp [AoaClient.enterBeginStreaming,AoaClient.requireConnected,connected,bind,Except.bind,pure,Except.pure]

theorem enterBeginStreaming_apart (apart : client.state ≠ .connected) :
    client.enterBeginStreaming requestId = .error (.connectionUnavailable client.state) := by
  simp [AoaClient.enterBeginStreaming,AoaClient.requireConnected,apart,bind,Except.bind]

theorem enterSendChunk_registered {queue : Nat} (connected : client.state = .connected)
    (registered : client.pendingStreamingResponses.get requestId = some queue) : client.enterSendChunk requestId = .ok queue := by
  simp [AoaClient.enterSendChunk,AoaClient.requireConnected,connected,registered,bind,Except.bind,pure,Except.pure]

theorem enterFinishStreaming_registered {queue : Nat} (connected : client.state = .connected)
    (registered : client.pendingStreamingResponses.get requestId = some queue) :
    client.enterFinishStreaming requestId = .ok queue := by
  simp [AoaClient.enterFinishStreaming,connected,registered]

theorem enterFinishStreaming_found {queue : Nat} (found : client.enterFinishStreaming requestId = .ok queue) :
    client.state = .connected ∧ client.pendingStreamingResponses.get requestId = some queue := by
  unfold AoaClient.enterFinishStreaming at found
  split at found
  · cases found
  · rename_i connected
    split at found
    · rename_i registered
      cases found
      exact ⟨not_not.mp connected,registered⟩
    · cases found

end Entering

def aoaRequestIdLength : Nat := 36

def padRequestId (requestId : String) : String :=
  requestId ++ String.ofList (List.replicate (aoaRequestIdLength - requestId.length) ' ')

def AoaClient.enqueue (client : AoaClient) (frame : QueuedFrame) : AoaClient :=
  {client with outgoingQueue:=client.outgoingQueue ++ [frame]}

-- handleResponse: the map lookups, then the offer to the queue that was found.
def AoaClient.responseQueue (client : AoaClient) (requestId : String) : Option Nat :=
  (client.pendingResponses.get requestId).or (client.pendingStreamingResponses.get requestId)

def AoaClient.offer (client : AoaClient) (queue : Nat) (result : ResponseResult) : AoaClient :=
  {client with
    mailboxes:=Function.update client.mailboxes queue ((client.mailboxes queue).or (some result))}

def AoaClient.take (client : AoaClient) (queue : Nat) : AoaClient :=
  {client with mailboxes:=Function.update client.mailboxes queue none}

end ImageSearch.PhoneConnection
