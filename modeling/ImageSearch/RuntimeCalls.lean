import ImageSearch.Payload
import ImageSearch.Threads

namespace ImageSearch.RuntimeCalls
open Payload Transitions Threads

structure RuntimeResponse where
  statusCode : Int
  bodyData : Fields

inductive Resumption where
  | returning (response : RuntimeResponse)
  | connectionUnavailable
  | sendFailed
  | listenerStartFailed
  | responseTimedOut

structure Bootstrap where
  sessionID : String
  oneTimePasscode : String
  port : Int
  deriving DecidableEq

def transportSchema : String := "dtis.mobile-transport.v1"
def authChallengeOperation : String := "transport.auth.challenge"

def stringOf : Json → Option String
  | .string value => some value
  | _ => none

def fieldsOf : Json → Option Fields
  | .object fields => some fields
  | _ => none

-- The guards of handleDesktopAuthChallengeIfNeeded: the body of a challenge.
def desktopAuthChallenge (data : Json) : Option Fields :=
  (fieldsOf data).bind fun envelope =>
    if stringOf (get envelope "schema") ≠ some transportSchema then none
    else if stringOf (get envelope "operation") ≠ some authChallengeOperation then none
    else match stringOf (get envelope "request_id") with
      | none => none
      | some requestID => if requestID = "" then none else fieldsOf (get envelope "body")

def parseEnvelopeResponse (data : Json) : Option (String × RuntimeResponse) :=
  (fieldsOf data).bind fun envelope =>
    if stringOf (get envelope "schema") ≠ some transportSchema then none
    else match stringOf (get envelope "request_id"),get envelope "status_code" with
      | some requestID,.int statusCode =>
        if requestID = "" then none
        else match envelope.lookup "body" with
          | none => some (requestID,⟨statusCode,[]⟩)
          | some body => (fieldsOf body).map fun bodyData => (requestID,⟨statusCode,bodyData⟩)
      | _,_ => none

def evaluateDesktopAuthChallenge (bootstrap : Option Bootstrap) (body : Fields) : Bool :=
  match stringOf (get body "sid"),stringOf (get body "rand"),bootstrap with
  | some sid,some rand,some bootstrap => sid ≠ "" && rand ≠ "" && sid = bootstrap.sessionID
  | _,_,_ => false

-- USBWebSocketTransportRuntime. Connections, listeners and continuations are numbered as
-- they come. `handling` are the connections whose handler is suspended: their next
-- message is asked for when it ends. Ghosts are the texts and frames that were sent, with
-- their connection, and the continuations that were resumed.
structure Runtime where
  listener : Option Nat := none
  activeConnection : Option Nat := none
  isActiveConnectionReady : Bool := false
  isConnectionAuthenticated : Bool := false
  bootstrap : Option Bootstrap := none
  forcedRestart : Bool := false
  pendingResponses : List (String × Nat) := []
  activeStreamingRequestIDs : List String := []
  handling : List Nat := []
  nextListener : Nat := 0
  nextConnection : Nat := 0
  nextContinuation : Nat := 0
  sent : List (String × Nat) := []
  started : List (String × Nat) := []
  framed : List (String × Nat) := []
  resumed : List (Nat × Resumption) := []

inductive Call where
  | sendRequest
  | beginStreamingRequest
  | sendStreamingBinaryChunk (requestID : String)
  | finishStreamingRequest (requestID : String)
  deriving DecidableEq

-- One job of the actor between its suspension points: waitForReadyConnection, the
-- completion of a send, awaitResponse, and the answer to a challenge.
inductive Activity where
  | idle
  | waiting (call : Call)
  | sending (call : Call) (requestID : String) (connection : Nat)
  | awaiting (requestID : String) (continuation connection : Nat) (streaming : Bool)
  | answering (connection : Nat) (data : Json)

inductive ConnectionState where
  | ready | failed | cancelled | other
  deriving DecidableEq

inductive Input where
  | call (call : Call)
  | abortStreamingRequest (requestID : String)
  | prepareBootstrap (bootstrap : Bootstrap) (forceRestart recent binds : Bool)
  | reset
  | listenerState (listener : Nat) (failed : Bool)
  | acceptConnection (listener : Nat)
  | connectionState (state : ConnectionState) (connection : Nat)
  | received (connection : Nat) (data : Option Json)
  | receiveFailed (connection : Nat)
  | timeoutPendingResponse (requestID : String)
  | ready (requestID : String)
  | completed (success : Bool)
  | resumed

def Runtime.failAllPendingResponses (w : Runtime) (error : Resumption) : Runtime :=
  {w with pendingResponses:=[],resumed:=(w.pendingResponses.map fun entry => (entry.2,error)) ++ w.resumed}

-- pendingResponses.removeValue(forKey:) and what it is resumed with.
def Runtime.resume (w : Runtime) (requestID : String) (resumption : Resumption) : Runtime :=
  match w.pendingResponses.lookup requestID with
  | none => w
  | some continuation =>
    {w with
      pendingResponses:=w.pendingResponses.filter fun entry => entry.1 ≠ requestID
      resumed:=(continuation,resumption) :: w.resumed}

def Runtime.register (w : Runtime) (requestID : String) : Runtime :=
  {w with
    pendingResponses:=(requestID,w.nextContinuation) :: w.pendingResponses.filter fun entry => entry.1 ≠ requestID
    nextContinuation:=w.nextContinuation + 1}

def Runtime.loseConnection (w : Runtime) (error : Resumption) : Runtime :=
  {w with
    isActiveConnectionReady:=false
    isConnectionAuthenticated:=false
    activeConnection:=none
    activeStreamingRequestIDs:=[]}.failAllPendingResponses error

def Runtime.resetRuntimeState (w : Runtime) : Runtime :=
  {w.loseConnection .connectionUnavailable with listener:=none,bootstrap:=none}

def Runtime.startListener (w : Runtime) (binds : Bool) : Runtime :=
  if binds then {w with listener:=some w.nextListener,nextListener:=w.nextListener + 1} else w

-- `recent` is the cooldown of a forced restart, `binds` whether a candidate port binds.
def Runtime.prepareBootstrap (w : Runtime) (bootstrap : Bootstrap) (forceRestart recent binds : Bool) : Runtime :=
  if bootstrap.port < 1 ∨ 65535 < bootstrap.port then w
  else
    let hasMatchingBootstrap := w.bootstrap = some bootstrap
    if forceRestart ∧ hasMatchingBootstrap ∧ w.listener.isSome ∧ w.forcedRestart ∧ recent then w
    else if !forceRestart ∧ hasMatchingBootstrap ∧ w.listener.isSome then w
    else {w.resetRuntimeState with forcedRestart:=w.forcedRestart || forceRestart,bootstrap:=some bootstrap}.startListener binds

def Runtime.handleListenerState (w : Runtime) (listener : Nat) (failed : Bool) : Runtime :=
  if w.listener ≠ some listener then w
  else if failed then {w with listener:=none}.failAllPendingResponses .listenerStartFailed
  else {w with listener:=none}

def Runtime.acceptConnection (w : Runtime) (listener : Nat) : Runtime :=
  if w.listener ≠ some listener then w
  else {w with
    activeConnection:=some w.nextConnection
    nextConnection:=w.nextConnection + 1
    isActiveConnectionReady:=false
    isConnectionAuthenticated:=false}

def Runtime.handleConnectionState (w : Runtime) (state : ConnectionState) (connection : Nat) : Runtime :=
  if w.activeConnection ≠ some connection then w
  else match state with
    | .ready => {w with isActiveConnectionReady:=true}
    | .failed => w.loseConnection .sendFailed
    | .cancelled => w.loseConnection .connectionUnavailable
    | .other => w

def Runtime.deliver (w : Runtime) (data : Json) : Runtime :=
  match parseEnvelopeResponse data with
  | none => w
  | some (requestID,response) => w.resume requestID (.returning response)

-- handleReceivedMessage up to its end, or to the send of the answer to a challenge.
def Runtime.handleReceivedMessage (w : Runtime) (connection : Nat) (data : Option Json) : Runtime × Activity :=
  if w.activeConnection ≠ some connection then (w,.idle)
  else match data with
    | none => (w,.idle)
    | some data =>
      match desktopAuthChallenge data with
      | none => (w.deliver data,.idle)
      | some body =>
        let suspended := {w with handling:=connection :: w.handling}
        if evaluateDesktopAuthChallenge w.bootstrap body then
          ({suspended with isConnectionAuthenticated:=true},.answering connection data)
        else
          ({suspended with isConnectionAuthenticated:=false,activeStreamingRequestIDs:=[]}.failAllPendingResponses
            .connectionUnavailable,.answering connection data)

def Runtime.answered (w : Runtime) (connection : Nat) (data : Json) (success : Bool) : Runtime :=
  let w := {w with handling:=w.handling.erase connection}
  if success then w
  -- Whatever connection is active by now.
  else {w with isConnectionAuthenticated:=false,activeStreamingRequestIDs:=[]}.deliver data

def Runtime.readyConnection (w : Runtime) : Option Nat :=
  if w.isActiveConnectionReady && w.isConnectionAuthenticated then w.activeConnection else none

-- From waitForReadyConnection to the send: UUIDs are fresh.
def Runtime.send (w : Runtime) (call : Call) (uuid : String) (connection : Nat) : Option (Runtime × Activity) :=
  match call with
  | .sendRequest =>
    if uuid ∈ w.sent.map Prod.fst then none
    else some ({w with sent:=(uuid,connection) :: w.sent},.sending call uuid connection)
  | .beginStreamingRequest =>
    if uuid ∈ w.sent.map Prod.fst then none
    else some ({w with sent:=(uuid,connection) :: w.sent,started:=(uuid,connection) :: w.started},.sending call uuid connection)
  | .sendStreamingBinaryChunk requestID =>
    some ({w with framed:=(requestID,connection) :: w.framed},.sending call requestID connection)
  | .finishStreamingRequest requestID =>
    some ({w with sent:=(requestID,connection) :: w.sent,framed:=(requestID,connection) :: w.framed},
      .sending call requestID connection)

def Runtime.sentOff (w : Runtime) (call : Call) (requestID : String) (connection : Nat) : Runtime × Activity :=
  match call with
  | .sendRequest => (w.register requestID,.awaiting requestID w.nextContinuation connection false)
  | .beginStreamingRequest => ({w with activeStreamingRequestIDs:=w.activeStreamingRequestIDs.insert requestID},.idle)
  | .sendStreamingBinaryChunk _ => (w,.idle)
  | .finishStreamingRequest _ => (w.register requestID,.awaiting requestID w.nextContinuation connection true)

def Runtime.enters (w : Runtime) : Call → Bool
  | .sendStreamingBinaryChunk requestID | .finishStreamingRequest requestID => requestID ∈ w.activeStreamingRequestIDs
  | _ => true

def stepActivity (w : Runtime) : Activity → Input → Option (Runtime × Activity)
  | .idle,.call call => some (w,if w.enters call then .waiting call else .idle)
  | .idle,.abortStreamingRequest requestID =>
    some ({w with activeStreamingRequestIDs:=w.activeStreamingRequestIDs.erase requestID},.idle)
  | .idle,.prepareBootstrap bootstrap forceRestart recent binds =>
    some (w.prepareBootstrap bootstrap forceRestart recent binds,.idle)
  | .idle,.reset => some (w.resetRuntimeState,.idle)
  | .idle,.listenerState listener failed => some (w.handleListenerState listener failed,.idle)
  | .idle,.acceptConnection listener => some (w.acceptConnection listener,.idle)
  | .idle,.connectionState state connection => some (w.handleConnectionState state connection,.idle)
  | .idle,.received connection data =>
    if connection ∈ w.handling then none else some (w.handleReceivedMessage connection data)
  | .idle,.receiveFailed connection =>
    if connection ∈ w.handling then none
    else some (if w.activeConnection = some connection then w.loseConnection .sendFailed else w,.idle)
  | .idle,.timeoutPendingResponse requestID => some (w.resume requestID .responseTimedOut,.idle)
  | .waiting call,.ready uuid => w.readyConnection.bind fun connection => w.send call uuid connection
  -- The wait's own deadline.
  | .waiting _,.resumed => some (w,.idle)
  | .sending call requestID connection,.completed success =>
    some (if success then w.sentOff call requestID connection else (w,.idle))
  | .awaiting requestID continuation _ streaming,.resumed =>
    if continuation ∈ w.resumed.map Prod.fst then
      some (if streaming then {w with activeStreamingRequestIDs:=w.activeStreamingRequestIDs.erase requestID} else w,.idle)
    else none
  | .answering connection data,.completed success => some (w.answered connection data success,.idle)
  | _,_ => none

variable {Index : Type} [DecidableEq Index]

def runtimeCalls : System (Pool Index Runtime Activity) (Move Index Input Unit) := pool stepActivity fun _ _ => none

def launched : Pool Index Runtime Activity := ⟨{},fun _ => .idle⟩

end ImageSearch.RuntimeCalls
