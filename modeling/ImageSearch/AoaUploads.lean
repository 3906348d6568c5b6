import ImageSearch.ConnectionThreads
import ImageSearch.TransferPipeline

namespace ImageSearch.AoaUploads
open Payload Transitions Threads PhoneConnection ConnectionThreads

-- String.prototype.includes and toLowerCase: no letter outside ASCII becomes one of
-- the texts looked for here.
def includes (text searched : String) : Bool := decide (searched.toList <:+: text.toList)
def toLowerCase (text : String) : String := text.map Char.toLower

def isAoaConnectionError (message : String) : Bool :=
  includes (toLowerCase message) "not connected" || includes (toLowerCase message) "connection lost" ||
    includes (toLowerCase message) "connection unavailable" || includes (toLowerCase message) "response timed out"

def responseTimeoutMs : Nat := 10000

inductive GivenUp where
  | unclassified
  | exhausted
  | notReconnected
  deriving DecidableEq, Repr

-- upload_asset_with_connection_retry around upload_asset_chunked, with what each native
-- call is in the middle of; `attempt` counts the retries before this one.
inductive Upload where
  | starting (attempt : Nat)
  | sending (attempt : Nat) (payload : FramePayload) (seen : Nat)
  | between (attempt : Nat)
  | finishing (attempt : Nat) (queue : Nat) (payload : FramePayload) (seen : Nat)
  | waiting (attempt : Nat) (queue : Nat)
  | removing (attempt : Nat) (result : ResponseResult)
  | broken (attempt : Nat) (error : AoaTransportError)
  | reconnecting (attempt : Nat) (error : AoaTransportError)
  | answered (payload : Envelope)
  | failed (error : AoaTransportError) (givenUp : GivenUp)

inductive UploadInput where
  | start (envelope : Envelope)
  | chunk (content : Bytes)
  | finish (completion : Envelope)
  | go
  | timeout

def uploadStep (requestId : String) (client : AoaClient) : Upload → UploadInput → Option (AoaClient × Upload)
  | .starting attempt,.start envelope => some <| match client.enterBeginStreaming requestId with
    | .ok (client',_) => (client',.sending attempt (.text envelope) client.connectionGeneration)
    | .error error => (client,.broken attempt error)
  | .sending attempt payload seen,.go =>
    if hasRoom client then some (client.enqueue (frameOf requestId payload seen),.between attempt) else none
  | .between attempt,.chunk content => some <| match client.enterSendChunk requestId with
    | .ok _ => (client,.sending attempt (.binary content) client.connectionGeneration)
    | .error error => (client,.broken attempt error)
  | .between attempt,.finish completion => some <| match client.enterFinishStreaming requestId with
    | .ok queue => (client,.finishing attempt queue (.text completion) client.connectionGeneration)
    | .error error => (client,.broken attempt error)
  | .finishing attempt queue payload seen,.go =>
    if hasRoom client then some (client.enqueue (frameOf requestId payload seen),.waiting attempt queue) else none
  | .waiting attempt queue,.go => (client.mailboxes queue).map fun result => (client.take queue,.removing attempt result)
  | .waiting attempt queue,.timeout =>
    if (client.mailboxes queue).isNone then
      some (client,.removing attempt (.error (.finalResponseTimedOut requestId responseTimeoutMs)))
    else none
  | .removing attempt result,.go => some (removePending client .streaming requestId,match result with
    | .success payload => .answered payload
    | .error error => .broken attempt error)
  | .broken attempt error,.go =>
    if !isAoaConnectionError error.message then some (client,.failed error .unclassified)
    else if attempt < TransferPipeline.transferConnectionRetryLimit then some (client,.reconnecting (attempt + 1) error)
    else some (client,.failed error .exhausted)
  -- wait_for_reconnection polls isConnected, a last time when the wait is over.
  | .reconnecting attempt _,.go => if client.state = .connected then some (client,.starting attempt) else none
  | .reconnecting _ error,.timeout =>
    if client.state = .connected then none else some (client,.failed error .notReconnected)
  | _,_ => none

-- The uploads beside the threads of the client and its other callers.
inductive Party where
  | upload (requestId : String) (phase : Upload)
  | thread (activity : Activity)

inductive Turn where
  | upload (input : UploadInput)
  | thread (input : Input)

def partyStep (client : AoaClient) : Party → Turn → Option (AoaClient × Party)
  | .upload requestId phase,.upload input =>
    (uploadStep requestId client phase input).map fun next => (next.1,.upload requestId next.2)
  | .thread activity,.thread input => (activityStep client activity input).map fun next => (next.1,.thread next.2)
  | _,_ => none

abbrev Uploads (Index : Type*) := Pool Index AoaClient Party

def uploads (Index : Type*) [DecidableEq Index] : System (Uploads Index) (Move Index Turn Event) :=
  pool partyStep eventStep

structure Launched {Index : Type*} (s : Uploads Index) : Prop where
  world : s.world = .new
  parties : ∀ i, (∃ requestId, s.threads i = .upload requestId (.starting 0)) ∨ s.threads i = .thread .idle

end ImageSearch.AoaUploads
