import ImageSearch.PhoneConnection
import ImageSearch.Threads

namespace ImageSearch.ConnectionThreads
open Payload Transitions Threads PhoneConnection

-- What a frame from the desktop makes the reader do. What the auth responder says of
-- a challenge is part of the frame: no body, an error, or the answer to send.
inductive Verdict where
  | malformed
  | rejected
  | accepted (response : Envelope)

inductive Incoming where
  | ignored
  | challenge (frameRequestId : String) (verdict : Verdict)
  | response (requestId : String) (payload : Envelope)

inductive CallKind where
  | request
  | streaming
  deriving DecidableEq, Repr

-- Who runs resyncConnection: the end of a stream's thread, the reader on a challenge
-- that comes while connected, or the watchdog.
inductive ResyncCaller where
  | stream (role : Role)
  | handler (generation : Nat) (rest : List Incoming)
  | watchdog

inductive Ending where
  | notCurrent
  | submitted
  | inactive
  | underway (queuedTasks : Nat) (runningTask : Option TaskPhase)
  deriving DecidableEq, Repr

-- One constructor between any two accesses to what the threads share. A caller that is
-- past its synchronized section remembers the connection it saw there.
inductive Activity where
  | idle
  | sending (requestId : String) (payload : FramePayload) (seen : Nat)
  | requesting (kind : CallKind) (requestId : String) (queue : Nat) (payload : FramePayload) (seen : Nat)
  | waiting (kind : CallKind) (requestId : String) (queue : Nat) (seen : Nat)
  | removing (kind : CallKind) (requestId : String) (queue : Nat) (seen : Nat)
  | reading (generation : Nat)
  | receiving (generation : Nat)
  | handling (generation : Nat) (frames : List Incoming)
  | challenged (generation : Nat) (frameRequestId : String) (verdict : Verdict) (rest : List Incoming)
  | rejecting (generation : Nat) (rest : List Incoming)
  | answering (generation : Nat) (frameRequestId : String) (response : Envelope) (rest : List Incoming)
  | answered (generation : Nat) (rest : List Incoming)
  | offering (generation : Nat) (queue : Nat) (payload : Envelope) (rest : List Incoming)
  | writing (generation : Nat)
  | taking (generation : Nat)
  | holding (generation : Nat) (frame : QueuedFrame)
  | leaving (role : Role)
  | raising (caller : ResyncCaller)
  | checking (caller : ResyncCaller)
  | lowering (caller : ResyncCaller)
  | closing (caller : ResyncCaller)
  | submitting (caller : ResyncCaller)
  | watching
  | ended (how : Ending)
  | crashed (role : Role)

inductive Input where
  | start (role : Role)
  | sendRequest (requestId : String) (envelope : Envelope)
  | beginStreamingRequest (requestId : String) (envelope : Envelope)
  | sendBinaryChunk (requestId : String) (chunk : Bytes)
  | finishStreamingRequest (requestId : String) (completion : Envelope)
  | go
  | fail
  | timeout
  | frames (received : List Incoming)

inductive Event where
  | prepareBootstrap (bootstrap : Bootstrap) (found : Option OpenOutcome)
  | reset
  | openAccessory (outcome : OpenOutcome)
  | detached
  | taskStarts
  | taskWakes
  | taskProbes (found : Option OpenOutcome)
  | taskEnds
  deriving DecidableEq, Repr

def beginning : Role → Activity
  | .reader generation => .reading generation
  | .writer generation => .writing generation
  | .watchdog => .watching

-- The synchronized section a call starts with; one that throws leaves no trace.
def enter (client : AoaClient) : Input → Option (AoaClient × Activity)
  | .start role => if role ∈ client.starting then
      some ({client with starting:=client.starting.erase role},beginning role) else none
  | .sendRequest requestId envelope => some <| match client.enterSendRequest requestId with
    | .ok (client',queue) => (client',.requesting .request requestId queue (.text envelope) client.connectionGeneration)
    | .error _ => (client,.idle)
  | .beginStreamingRequest requestId envelope => some <| match client.enterBeginStreaming requestId with
    | .ok (client',_) => (client',.sending requestId (.text envelope) client.connectionGeneration)
    | .error _ => (client,.idle)
  | .sendBinaryChunk requestId chunk => some <| match client.enterSendChunk requestId with
    | .ok _ => (client,.sending requestId (.binary chunk) client.connectionGeneration)
    | .error _ => (client,.idle)
  | .finishStreamingRequest requestId completion => some <| match client.enterFinishStreaming requestId with
    | .ok queue => (client,.requesting .streaming requestId queue (.text completion) client.connectionGeneration)
    | .error _ => (client,.idle)
  | _ => none

def frameOf (requestId : String) (payload : FramePayload) (seen : Nat) : QueuedFrame :=
  ⟨padRequestId requestId,payload,seen⟩

def hasRoom (client : AoaClient) : Bool := client.outgoingQueue.length < outgoingQueueCapacity

def removePending (client : AoaClient) (kind : CallKind) (requestId : String) : AoaClient :=
  match kind with
  | .request => {client with pendingResponses:=client.pendingResponses.remove requestId}
  | .streaming => {client with pendingStreamingResponses:=client.pendingStreamingResponses.remove requestId}

def ResyncCaller.returns : ResyncCaller → Ending → Activity
  | .stream _,how => .ended how
  | .handler generation rest,_ => .handling generation rest
  | .watchdog,_ => .watching

-- A RejectedExecutionException: the reader's loop catches it around a handler only.
def ResyncCaller.throws : ResyncCaller → Activity
  | .stream role => .crashed role
  | .handler generation _ => .leaving (.reader generation)
  | .watchdog => .crashed .watchdog

-- closeConnection interrupts the threads of the connection it ends.
def interrupted (client : AoaClient) (generation : Nat) : Bool := client.connectionGeneration ≠ generation

theorem uninterrupted {client : AoaClient} {generation : Nat} (going : ¬ interrupted client generation = true) :
    generation = client.connectionGeneration := by
  simp only [interrupted,decide_eq_true_eq,ne_eq,not_not] at going
  exact going.symm

def isCurrent (client : AoaClient) : Role → Bool
  | .reader generation => client.connectionGeneration = generation
  | .writer generation => client.connectionGeneration = generation
  | .watchdog => false

def callStep (client : AoaClient) : Activity → Input → Option (AoaClient × Activity)
  | .sending requestId payload seen,.go =>
    if hasRoom client then some (client.enqueue (frameOf requestId payload seen),.idle) else none
  -- encodeFrame threw: a begun stream stays registered.
  | .sending _ _ _,.fail => some (client,.idle)
  | .requesting kind requestId queue payload seen,.go =>
    if hasRoom client then some (client.enqueue (frameOf requestId payload seen),.waiting kind requestId queue seen) else none
  | .requesting .request requestId queue _ seen,.fail => some (client,.removing .request requestId queue seen)
  | .requesting .streaming _ _ _ _,.fail => some (client,.idle)
  | .waiting kind requestId queue seen,.go =>
    if (client.mailboxes queue).isSome then some (client.take queue,.removing kind requestId queue seen) else none
  | .waiting kind requestId queue seen,.timeout =>
    if (client.mailboxes queue).isNone then some (client,.removing kind requestId queue seen) else none
  | .removing kind requestId _ _,.go => some (removePending client kind requestId,.idle)
  | _,_ => none

def readerStep (client : AoaClient) : Activity → Input → Option (AoaClient × Activity)
  | .reading generation,.go =>
    if client.stopped || interrupted client generation then some (client,.leaving (.reader generation))
    else some (client,.receiving generation)
  | .receiving generation,.frames received => some (client,.handling generation received)
  | .receiving generation,.fail => some (client,.leaving (.reader generation))
  | .handling generation [],.go => some (client,.reading generation)
  | .handling generation (.ignored :: rest),.go => some (client,.handling generation rest)
  | .handling generation (.challenge frameRequestId verdict :: rest),.go =>
    if client.bootstrapPrepared then some (client,.challenged generation frameRequestId verdict rest)
    else some (client,.handling generation rest)
  | .handling generation (.response requestId payload :: rest),.go =>
    match client.responseQueue requestId with
    | some queue => some (client,.offering generation queue payload rest)
    | none => some (client,.handling generation rest)
  | .challenged generation frameRequestId verdict rest,.go =>
    if client.state = .connected then some (client,.raising (.handler generation rest))
    else match verdict with
      | .malformed => some (client,.handling generation rest)
      | .rejected => some (client,.rejecting generation rest)
      | .accepted response => some (client,.answering generation frameRequestId response rest)
  | .rejecting generation rest,.go => some (client.transitionTo .failed,.handling generation rest)
  -- An interrupted put throws InterruptedException, which no clause of the reader catches.
  | .answering generation frameRequestId response rest,.go =>
    if interrupted client generation then some (client,.crashed (.reader generation))
    else if hasRoom client then
      some ({client.enqueue ⟨frameRequestId,.text response,generation⟩ with answered:=generation :: client.answered},
        .answered generation rest)
    else none
  | .answered generation rest,.go => some (client.transitionTo .connected,.handling generation rest)
  | .offering generation queue payload rest,.go => some (client.offer queue (.success payload),.handling generation rest)
  | _,_ => none

def writerStep (client : AoaClient) : Activity → Input → Option (AoaClient × Activity)
  | .writing generation,.go =>
    if client.stopped || interrupted client generation then some (client,.leaving (.writer generation))
    else some (client,.taking generation)
  | .taking generation,.go =>
    if interrupted client generation then some (client,.leaving (.writer generation))
    else match client.outgoingQueue with
      | frame :: rest => some ({client with outgoingQueue:=rest},.holding generation frame)
      | [] => none
  | .holding generation frame,.go =>
    if client.streams = some generation then
      some ({client with written:=(frame,generation) :: client.written},.writing generation)
    else some (client,.leaving (.writer generation))
  | .holding generation _,.fail => some (client,.leaving (.writer generation))
  | _,_ => none

def resyncStep (client : AoaClient) : Activity → Input → Option (AoaClient × Activity)
  | .leaving role,.go =>
    if isCurrent client role then some (client,.raising (.stream role)) else some (client,.ended .notCurrent)
  | .raising caller,.go =>
    if client.resyncInProgress then some (client,caller.returns (.underway client.queuedTasks client.runningTask))
    else some ({client with resyncInProgress:=true},.checking caller)
  | .checking caller,.go =>
    if client.stopped || !client.bootstrapPrepared then some (client,.lowering caller)
    else some (client,.closing caller)
  | .lowering caller,.go => some ({client with resyncInProgress:=false},caller.returns .inactive)
  | .closing caller,.go => some (client.closeConnection,.submitting caller)
  | .submitting caller,.go =>
    if client.executorShutdown then some (client,caller.throws)
    else some ({client with queuedTasks:=client.queuedTasks + 1},caller.returns .submitted)
  | _,_ => none

def watchdogStep (client : AoaClient) : Activity → Input → Option (AoaClient × Activity)
  | .watching,.go => if client.stopped then some (client,.ended .notCurrent) else some (client,.watching)
  | .watching,.timeout =>
    if (client.state = .connected ∨ client.state = .authenticating) ∧
        ¬ (client.pendingResponses.isEmpty ∧ client.pendingStreamingResponses.isEmpty) then
      some (client,.raising .watchdog)
    else none
  | _,_ => none

def activityStep (client : AoaClient) (activity : Activity) (input : Input) : Option (AoaClient × Activity) :=
  match activity with
  | .idle => enter client input
  | .sending _ _ _ | .requesting _ _ _ _ _ | .waiting _ _ _ _ | .removing _ _ _ _ => callStep client activity input
  | .reading _ | .receiving _ | .handling _ _ | .challenged _ _ _ _ | .rejecting _ _ | .answering _ _ _ _
  | .answered _ _ | .offering _ _ _ _ => readerStep client activity input
  | .writing _ | .taking _ | .holding _ _ => writerStep client activity input
  | .leaving _ | .raising _ | .checking _ | .lowering _ | .closing _ | .submitting _ => resyncStep client activity input
  | .watching => watchdogStep client activity input
  | .ended _ | .crashed _ => none

-- What the main thread, the broadcast receiver and the resync executor do, each in
-- the client's monitor where it touches the connection.
def eventStep (client : AoaClient) : Event → Option AoaClient
  | .prepareBootstrap bootstrap found => (client.prepareBootstrap bootstrap found).toOption
  | .reset => some client.reset
  | .openAccessory outcome => some (client.openAccessory outcome)
  | .detached => some client.closeConnection
  | .taskStarts => if 0 < client.queuedTasks ∧ client.runningTask = none then
      some {client with queuedTasks:=client.queuedTasks - 1,runningTask:=some .sleeping} else none
  | .taskWakes => if client.runningTask = some .sleeping then
      some {client with runningTask:=some (if !client.stopped && client.bootstrapPrepared then .probing else .finishing)}
    else none
  | .taskProbes found => if client.runningTask = some .probing then
      some {client.probeAttachedAccessories found with runningTask:=some .finishing} else none
  | .taskEnds => if client.runningTask = some .finishing then
      some {client with runningTask:=none,resyncInProgress:=false} else none

abbrev Phone (Index : Type*) := Pool Index AoaClient Activity

def system (Index : Type*) [DecidableEq Index] : System (Phone Index) (Move Index Input Event) :=
  pool activityStep eventStep

def initial (Index : Type*) : Phone Index := ⟨.new,fun _ => .idle⟩

end ImageSearch.ConnectionThreads
