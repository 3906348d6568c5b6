import ImageSearch.AoaStreams

namespace ImageSearch.UsbAdapters
open Payload Transitions Threads PhoneConnection AssetUploadStream AoaStreams

def usbAuthChallengeRequestId : String := "auth-challenge"
def aoaAuthChallengeRequestId : String := padRequestId usbAuthChallengeRequestId

inductive UsbTransportState where
  | stopped | configured | ready | connected
  deriving DecidableEq, Repr

structure UsbBootstrapConfig where
  sessionId : String
  oneTimePasscode : String
  suggestedPort : Nat
  fallbackPortWindow : Nat
  named : strip sessionId ≠ ""
  guarded : strip oneTimePasscode ≠ ""
  deriving DecidableEq

inductive Adapter where
  | usbWebSocket | aoa
  deriving DecidableEq, Repr

inductive Deed where
  | start (requestId : String)
  | append (requestId : String)
  | complete (requestId : String)
  | dispatch (operation : String)
  deriving DecidableEq, Repr

-- A deed, the connection its message came on, the configuration in force, and how many
-- had been replaced when the loop read its own and by now.
structure Acted where
  deed : Deed
  connection : Nat
  inForce : Option UsbBootstrapConfig
  captured : Nat
  current : Nat

structure Challenge where
  connection : Nat
  config : UsbBootstrapConfig
  rand : String
  deriving DecidableEq

-- The fields under the adapter's lock, its event and its thread objects, which are
-- numbered as `start` makes them: made, started, and not yet ended. The websocket with its
-- socket, or the pair of bulk streams, is one connection. Ghosts are the configurations
-- replaced, the workers that found the event set since, those made before the last stop,
-- those made before a stop that a start has followed, and the records.
structure UsbAdapter where
  state : UsbTransportState := .stopped
  stopEvent : Bool := false
  workerThread : Option Nat := none
  bootstrapConfig : Option UsbBootstrapConfig := none
  activeConnection : Option Nat := none
  assetUploadStream : TransferAssetUploadStream := .new
  made : List Nat := []
  started : List Nat := []
  alive : List Nat := []
  nextThread : Nat := 0
  nextConnection : Nat := 0
  generation : Nat := 0
  toldStopped : List Nat := []
  retired : Nat := 0
  superseded : Nat := 0
  challenges : List Challenge := []
  proofs : List (Nat × String) := []
  acted : List Acted := []

structure Attempt where
  thread : Nat
  config : UsbBootstrapConfig
  generation : Nat
  deriving DecidableEq

-- A frame or websocket message; a text is what json.loads makes of it.
inductive Message where
  | chunk (requestId : String) (payload : Bytes)
  | text (frameId : String) (value : Option Json)
  | broken

-- Where a worker is, between two sections of the lock.
inductive Worker where
  | unborn
  | checking (thread : Nat)
  | configuring (thread : Nat)
  | probing (attempt : Attempt)
  | opening (attempt : Attempt)
  | registering (attempt : Attempt)
  | challenging (attempt : Attempt) (connection : Nat)
  | answering (attempt : Attempt) (connection : Nat) (rand : String)
  | listening (attempt : Attempt) (connection : Nat) (rand : String)
  | verifying (attempt : Attempt) (connection : Nat) (rand proof : String)
  | accepted (attempt : Attempt) (connection : Nat)
  | polling (attempt : Attempt) (connection : Nat)
  | serving (attempt : Attempt) (connection : Nat)
  | handling (attempt : Attempt) (connection : Nat) (messages : List Message)
  | appending (attempt : Attempt) (connection : Nat) (requestId : String) (payload : Bytes) (messages : List Message)
  | dispatching (attempt : Attempt) (connection : Nat) (operation : String) (messages : List Message)
  | replying (attempt : Attempt) (connection : Nat) (messages : List Message)
  | leaving (thread : Nat) (dies : Bool)
  | readying (thread : Nat) (dies : Bool)
  | waiting (thread : Nat)
  | ended

-- `failed` is an exception of the step that comes next; one that no handler of the loop
-- names ends the thread.
inductive Input where
  | run (thread : Nat)
  | proceed
  | probed (found : Bool)
  | opened (success : Bool)
  | challenged (rand : String)
  | read (messages : List Message)
  | timedOut
  | failed (escapes : Bool)

inductive Event where
  | configureBootstrap (config : UsbBootstrapConfig)
  | start
  | launch (thread : Nat)
  | stop

inductive AuthAnswer where
  | ignored
  | refused
  | proof (digest : String)

def challengeProof (fields : Fields) : AuthAnswer :=
  match get fields "status_code",get fields "body" with
  | .int statusCode,.object body =>
    if 200 ≤ statusCode ∧ statusCode < 300 then
      match get body "proof" with
      | .string proof => if strip proof = "" then .refused else .proof (strip proof)
      | _ => .refused
    else .refused
  | _,_ => .refused

def isText (value : Json) (text : String) : Bool :=
  match value with
  | .string value => value = text
  | _ => false

def authAnswer (adapter : Adapter) : Message → AuthAnswer
  | .text frameId (some (.object fields)) => match adapter with
    | .usbWebSocket =>
      if isText (get fields "schema") mobileTransportEnvelopeSchema &&
          isText (get fields "request_id") usbAuthChallengeRequestId then challengeProof fields
      else .ignored
    | .aoa => if frameId = aoaAuthChallengeRequestId then challengeProof fields else .ignored
  | _ => .ignored

-- The first answer among the frames of a read; the frames after it are dropped.
def firstAnswer (adapter : Adapter) : List Message → AuthAnswer
  | [] => .ignored
  | message :: rest => match authAnswer adapter message with
    | .ignored => firstAnswer adapter rest
    | answer => answer

inductive Verified where
  | accepted | rejected | raised
  deriving DecidableEq, Repr

def verifyAuthDigest (sha256 : String → String) (config : UsbBootstrapConfig) (rand providedDigest : String) : Verified :=
  if providedDigest.toList.any fun c => 127 < c.toNat then .raised
  else if sha256 (config.oneTimePasscode ++ rand) = providedDigest then .accepted else .rejected

theorem accepted_proof {sha256 : String → String} {config : UsbBootstrapConfig} {rand proof : String}
    (accepted : verifyAuthDigest sha256 config rand proof = .accepted) :
    sha256 (config.oneTimePasscode ++ rand) = proof := by
  unfold verifyAuthDigest at accepted
  split at accepted
  · cases accepted
  · split at accepted
    · assumption
    · cases accepted

-- _parse_envelope and the request id's check: operation, request id and body.
def parseEnvelope : Option Json → Option (String × String × Json)
  | some (.object fields) =>
    if isText (get fields "schema") mobileTransportEnvelopeSchema then
      match get fields "operation",get fields "request_id" with
      | .string operation,.string requestId =>
        if strip operation = "" || strip requestId = "" then none
        else some (operation,strip requestId,get fields "body")
      | _,_ => none
    else none
  | _ => none

inductive Handled where
  | refused
  | started (requestId : String)
  | completed (requestId : String)
  | routed (operation : String)

def dispatchEnvelope (encryption : PayloadEncryption) (stream : TransferAssetUploadStream) (value : Option Json) :
    Handled × TransferAssetUploadStream :=
  match parseEnvelope value with
  | none => (.refused,stream)
  | some (operation,requestId,body) =>
    if operation = transferAssetOperation then
      match body with
      | .object body => match dispatchTransferAssetStreamPayload encryption stream requestId body with
        | (none,stream') => (.started requestId,stream')
        | (some (.error _),stream') => (.refused,stream')
        | (some (.ok _),stream') => (.completed requestId,stream')
      | _ => (.refused,stream)
    else match body with
      | .null | .object _ => (.routed operation,stream)
      | _ => (.refused,stream)

variable (adapter : Adapter) (sha256 : String → String) (encryption : PayloadEncryption) (w : UsbAdapter)

-- _detach_active_connection_locked. What is closed may still give what it has received.
def UsbAdapter.detach : UsbAdapter :=
  {w with
    activeConnection:=none
    assetUploadStream:=w.assetUploadStream.clear}

def UsbAdapter.setReadyState : UsbAdapter :=
  let w := {w with state:=if w.state = .stopped then .stopped else .ready}
  match adapter with
  | .usbWebSocket => w.detach
  | .aoa => w

def UsbAdapter.configureBootstrap (config : UsbBootstrapConfig) : UsbAdapter :=
  {w with
    bootstrapConfig:=some config
    state:=.configured
    generation:=if w.bootstrapConfig = some config then w.generation else w.generation + 1}.detach

def UsbAdapter.needsWorker : Bool := w.workerThread.all fun thread => thread ∉ w.alive

def UsbAdapter.start : UsbAdapter :=
  if w.bootstrapConfig = none then w
  else
    let w' := {w with
      state:=.ready
      stopEvent:=false
      toldStopped:=[]
      superseded:=w.retired}
    if w.needsWorker then {w' with
      workerThread:=some w.nextThread
      made:=w.nextThread :: w.made
      nextThread:=w.nextThread + 1}
    else w'

def UsbAdapter.stop : UsbAdapter :=
  {w with
    stopEvent:=true
    workerThread:=none
    state:=.stopped
    retired:=w.nextThread}.detach

def UsbAdapter.exit (thread : Nat) : UsbAdapter := {w with alive:=w.alive.erase thread}

def UsbAdapter.tell (thread : Nat) : UsbAdapter := {w with toldStopped:=thread :: w.toldStopped}

def UsbAdapter.register : UsbAdapter :=
  let w := {w with
    activeConnection:=some w.nextConnection
    nextConnection:=w.nextConnection + 1}
  match adapter with
  | .usbWebSocket => {w with state:=.ready}
  | .aoa => w

def UsbAdapter.act (attempt : Attempt) (connection : Nat) (deed : Deed) : UsbAdapter :=
  {w with acted:=⟨deed,connection,w.bootstrapConfig,attempt.generation,w.generation⟩ :: w.acted}

-- The finally of a session: the AOA adapter closes its streams in a section of their own.
def leave (thread : Nat) (dies : Bool) : Worker :=
  match adapter with
  | .usbWebSocket => .readying thread dies
  | .aoa => .leaving thread dies

def reads (messages : List Message) : Bool :=
  match adapter with
  | .usbWebSocket => messages.length = 1
  | .aoa => true

def appended (attempt : Attempt) (connection : Nat) (requestId : String) (payload : Bytes) (messages : List Message) :
    UsbAdapter × Worker :=
  match w.assetUploadStream.appendChunk payload (some requestId) with
  | (none,stream) =>
    let w' := {w with assetUploadStream:=stream}
    (if payload = [] then w' else w'.act attempt connection (.append requestId),.handling attempt connection messages)
  | (some _,stream) =>
    if payload ≠ [] ∧ (transferAssetStreamChunkSizeBytes < payload.length ∨ stream.activeRequestId ≠ none) then
      ({w with assetUploadStream:=stream},leave adapter attempt.thread false)
    else ({w with assetUploadStream:=stream},.handling attempt connection messages)

def handled (attempt : Attempt) (connection : Nat) (message : Message) (messages : List Message) : UsbAdapter × Worker :=
  match message with
  | .broken => (w,leave adapter attempt.thread false)
  | .chunk requestId payload =>
    match w.assetUploadStream.encryptionTrustKey (some requestId) with
    | none => (w,.appending attempt connection requestId payload messages)
    | some key => match encryption.openChunk key payload with
      | .ok opened => (w,.appending attempt connection requestId opened messages)
      | .error _ => (w,leave adapter attempt.thread false)
  | .text _ value =>
    match dispatchEnvelope encryption w.assetUploadStream value with
    | (.refused,stream) => ({w with assetUploadStream:=stream},.replying attempt connection messages)
    | (.started requestId,stream) =>
      ({w with assetUploadStream:=stream}.act attempt connection (.start requestId),.handling attempt connection messages)
    | (.completed requestId,stream) =>
      ({w with assetUploadStream:=stream}.act attempt connection (.complete requestId),
        .dispatching attempt connection transferAssetOperation messages)
    | (.routed operation,stream) =>
      ({w with assetUploadStream:=stream},.dispatching attempt connection operation messages)

def verified (attempt : Attempt) (connection : Nat) (rand proof : String) : Worker :=
  match w.bootstrapConfig with
  | none => leave adapter attempt.thread false
  | some config => match verifyAuthDigest sha256 config rand proof with
    | .accepted => .accepted attempt connection
    | .rejected => leave adapter attempt.thread false
    | .raised => leave adapter attempt.thread true

def stepWorker (w : UsbAdapter) : Worker → Input → Option (UsbAdapter × Worker)
  | .unborn,.run thread =>
    if thread ∈ w.started then some ({w with started:=w.started.erase thread},.checking thread) else none
  | .checking thread,.proceed =>
    some (if w.stopEvent then ((w.tell thread).exit thread,.ended) else (w,.configuring thread))
  | .configuring thread,.proceed => match w.bootstrapConfig,adapter with
    | some config,_ => some (w,.probing ⟨thread,config,w.generation⟩)
    | none,.usbWebSocket => some (w,.waiting thread)
    | none,.aoa => some (w.exit thread,.ended)
  | .probing attempt,.probed false => some (w,.readying attempt.thread false)
  -- The AOA adapter checks the event before it opens a stream.
  | .probing attempt,.probed true =>
    some (if adapter = .aoa ∧ w.stopEvent then (w.tell attempt.thread,.probing attempt) else (w,.opening attempt))
  | .opening attempt,.opened success => match success,adapter with
    | true,_ => some (w,.registering attempt)
    | false,.usbWebSocket => some (w,.readying attempt.thread false)
    | false,.aoa => some (w,.probing attempt)
  | .registering attempt,.proceed => some (w.register adapter,.challenging attempt w.nextConnection)
  | .challenging attempt connection,.challenged rand =>
    if rand ∈ w.challenges.map Challenge.rand then none
    else some ({w with challenges:=⟨connection,attempt.config,rand⟩ :: w.challenges},.answering attempt connection rand)
  | .answering attempt connection rand,.proceed =>
    some (if w.stopEvent then (w.tell attempt.thread,leave adapter attempt.thread false)
      else (w,.listening attempt connection rand))
  | .answering attempt _ _,.timedOut => some (w,leave adapter attempt.thread false)
  | .listening attempt connection rand,.timedOut => some (w,.answering attempt connection rand)
  | .listening attempt connection rand,.read messages =>
    if reads adapter messages then some (match firstAnswer adapter messages with
      | .ignored => (w,.answering attempt connection rand)
      | .refused => (w,leave adapter attempt.thread false)
      | .proof digest => ({w with proofs:=(connection,digest) :: w.proofs},.verifying attempt connection rand digest))
    else none
  | .verifying attempt connection rand proof,.proceed => some (w,verified adapter sha256 w attempt connection rand proof)
  | .accepted attempt connection,.proceed =>
    some ({w with state:=if w.state = .stopped then .stopped else .connected},.polling attempt connection)
  | .polling attempt connection,.proceed =>
    some (if w.stopEvent then (w.tell attempt.thread,leave adapter attempt.thread false) else (w,.serving attempt connection))
  | .serving attempt connection,.timedOut => some (w,.polling attempt connection)
  | .serving attempt connection,.read messages =>
    if reads adapter messages then some (w,.handling attempt connection messages) else none
  | .handling attempt connection messages,.proceed => match messages with
    | [] => some (w,.polling attempt connection)
    | message :: rest => some (handled adapter encryption w attempt connection message rest)
  | .appending attempt connection requestId payload messages,.proceed =>
    some (appended adapter w attempt connection requestId payload messages)
  | .dispatching attempt connection operation messages,.proceed =>
    some (w.act attempt connection (.dispatch operation),.replying attempt connection messages)
  | .dispatching attempt connection operation _,.failed escapes =>
    some (w.act attempt connection (.dispatch operation),leave adapter attempt.thread escapes)
  | .replying attempt connection messages,.proceed => some (w,.handling attempt connection messages)
  | .opening attempt,.failed escapes => some (w,.readying attempt.thread (escapes && adapter = .usbWebSocket))
  | .challenging attempt _,.failed escapes | .listening attempt _ _,.failed escapes
  | .serving attempt _,.failed escapes | .replying attempt _ _,.failed escapes => some (w,leave adapter attempt.thread escapes)
  | .leaving thread dies,.proceed => some (w.detach,.readying thread dies)
  | .readying thread dies,.proceed =>
    let w' := w.setReadyState adapter
    some (if dies then (w'.exit thread,.ended) else (w',.waiting thread))
  | .waiting thread,.proceed => some (w,.checking thread)
  | _,_ => none

def stepCaller (w : UsbAdapter) : Event → Option UsbAdapter
  | .configureBootstrap config => some (w.configureBootstrap config)
  | .start => some w.start
  | .launch thread =>
    if thread ∈ w.made then some {w with
      made:=w.made.erase thread
      started:=thread :: w.started
      alive:=thread :: w.alive}
    else none
  | .stop => some w.stop

variable {Index : Type} [DecidableEq Index]

def usbAdapter : System (Pool Index UsbAdapter Worker) (Move Index Input Event) :=
  pool (stepWorker adapter sha256 encryption) stepCaller

def created : Pool Index UsbAdapter Worker := ⟨{},fun _ => .unborn⟩

end ImageSearch.UsbAdapters
