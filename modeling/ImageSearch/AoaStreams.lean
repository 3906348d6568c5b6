import ImageSearch.AoaUploads
import ImageSearch.AssetUploadStream

namespace ImageSearch.AoaStreams
open Payload Transitions Threads PhoneConnection AoaUploads AssetUploadStream

def mobileTransferSchema : String := "dtis.mobile-transfer.v1"
def mobileTransportEnvelopeSchema : String := "dtis.mobile-transport.v1"
def transferAssetOperation : String := "transfer.asset"

def toAoaStreamRequestId (lib : Libraries) (requestId : String) : String :=
  if aoaRequestIdLength < requestId.length then
    String.ofList ((lib.sha1 requestId.toUTF8.data.toList).toList.take aoaRequestIdLength)
  else padRequestId requestId

-- The fields set after the spread of the (encrypted) metadata hide its own.
def startEnvelope (streamRequestId : String) (metadata : Fields) : Envelope where
  schema := mobileTransportEnvelopeSchema
  operation := some transferAssetOperation
  requestId := some streamRequestId
  bodySchema := some mobileTransferSchema
  statusCode := none
  body := [(transferAssetStreamStateField,.string transferAssetStreamStateStart),("request_id",.string streamRequestId),
    ("chunk_size",.int 262144)] ++ metadata

def completionEnvelope (streamRequestId : String) : Envelope where
  schema := mobileTransportEnvelopeSchema
  operation := some transferAssetOperation
  requestId := some streamRequestId
  bodySchema := some mobileTransferSchema
  statusCode := none
  body := [(transferAssetStreamStateField,.string transferAssetStreamStateComplete)]

-- What the payload encryption makes of metadata and chunks; `.error` is a refusal.
structure PayloadEncryption where
  openMetadata : Fields → Except String (Fields × Option String)
  openChunk : String → Bytes → Except String Bytes

structure MobileTransportResponse where
  statusCode : Int
  payload : Fields

def transportErrorResponse (message : String) : MobileTransportResponse :=
  ⟨400,[("schema",.string mobileTransportEnvelopeSchema),("status",.string "rejected"),("message",.string message)]⟩

def encodeResponseEnvelope (requestId : String) (response : MobileTransportResponse) : Envelope :=
  ⟨mobileTransportEnvelopeSchema,none,some requestId,none,some response.statusCode,response.payload⟩

def extractRequestId (envelope : Envelope) : Option String :=
  envelope.requestId.bind fun requestId => if strip requestId = "" then none else some (strip requestId)

section Desktop
variable (encryption : PayloadEncryption) (routed : MobileTransportResponse) (stream : TransferAssetUploadStream)

def dispatchTransferAssetStreamPayload (requestId : String) (body : Fields) :
    Option (Except MobileTransportResponse PendingTransferAssetUpload) × TransferAssetUploadStream :=
  match get body transferAssetStreamStateField with
  | .string state =>
    if state = transferAssetStreamStateStart then
      let metadata := body.filter fun field => field.1 != transferAssetStreamStateField && field.1 != "chunk_size"
      match encryption.openMetadata metadata with
      | .error message => (some (.error (transportErrorResponse message)),stream)
      | .ok (opened,key) => (none,stream.start requestId opened key false)
    else if state = transferAssetStreamStateComplete then
      match stream.complete requestId with
      | (.error message,stream') => (some (.error (transportErrorResponse message)),stream')
      | (.ok payload,stream') => (some (.ok payload),stream')
    else (some (.error (transportErrorResponse
      "Desktop rejected transfer asset stream message with an unsupported 'stream_state' value.")),stream)
  | _ => (some (.error (transportErrorResponse
      "Desktop rejected transfer asset stream message with an unsupported 'stream_state' value.")),stream)

-- The response's request id, the response, and the stream after it; `routed` is what
-- the router answers.
def dispatchEnvelopeRequest (envelope : Envelope) :
    (Option String × Option MobileTransportResponse) × TransferAssetUploadStream :=
  if envelope.schema ≠ mobileTransportEnvelopeSchema then
    ((extractRequestId envelope,some (transportErrorResponse "Desktop rejected an unsupported USB transport schema.")),stream)
  else match envelope.operation with
    | none => ((extractRequestId envelope,some (transportErrorResponse
        "Desktop rejected a USB transport message with a missing operation.")),stream)
    | some operation =>
      if strip operation = "" then ((extractRequestId envelope,some (transportErrorResponse
        "Desktop rejected a USB transport message with a missing operation.")),stream)
      else match extractRequestId envelope with
        | none => ((none,some (transportErrorResponse
            "Desktop rejected a USB transport message with a missing request id.")),stream)
        | some requestId =>
          if operation = transferAssetOperation then
            match dispatchTransferAssetStreamPayload encryption stream requestId envelope.body with
            | (none,stream') => ((some requestId,none),stream')
            | (some (.error refusal),stream') => ((some requestId,some refusal),stream')
            | (some (.ok _),stream') => ((some requestId,some routed),stream')
          else ((some requestId,some routed),stream)

-- _append_aoa_binary_chunk; an error leaves the session's loop.
def appendAoaBinaryChunk (requestId : String) (payload : Bytes) : Except String TransferAssetUploadStream :=
  let opened := match stream.encryptionTrustKey (some requestId) with
    | some key => encryption.openChunk key payload
    | none => .ok payload
  match opened with
  | .error message => .error message
  | .ok framePayload => match stream.appendChunk framePayload (some requestId) with
    | (none,stream') => .ok stream'
    | (some appendError,stream') =>
      if framePayload = [] then .ok stream'
      else if transferAssetStreamChunkSizeBytes < framePayload.length then .error appendError
      else if stream'.activeRequestId = none then .ok stream'
      else .error appendError

end Desktop

inductive Kind where
  | start
  | chunk
  | complete
  deriving DecidableEq, Repr

def envelopeKind (envelope : Envelope) : Option Kind :=
  match get envelope.body transferAssetStreamStateField with
  | .string state => if state = transferAssetStreamStateStart then some .start
    else if state = transferAssetStreamStateComplete then some .complete else none
  | _ => none

def kindOf : FramePayload → Option Kind
  | .binary _ => some .chunk
  | .text envelope => envelopeKind envelope

structure Resolution where
  frameId : String
  kind : Kind
  file : Option Nat

structure Wire where
  client : AoaClient
  sent : List QueuedFrame
  stream : TransferAssetUploadStream
  ended : Bool
  replies : List (String × Envelope)
  log : List Resolution

def resolution (before after : TransferAssetUploadStream) (frameId : String) (requestId : Option String) (kind : Kind) :
    Resolution :=
  ⟨frameId,kind,requestId.bind fun id => if kind = .start then after.fileOf id else before.fileOf id⟩

def receiveFrame (encryption : PayloadEncryption) (routed : MobileTransportResponse) (wire : Wire) (frame : QueuedFrame) : Wire :=
  match frame.payload with
  | .binary chunk =>
    let resolved := resolution wire.stream wire.stream frame.requestId (some frame.requestId) .chunk
    match appendAoaBinaryChunk encryption wire.stream frame.requestId chunk with
    | .ok stream => {wire with
        stream:=stream
        log:=resolved :: wire.log}
    | .error _ => {wire with
        ended:=true
        log:=resolved :: wire.log}
  | .text envelope =>
    let dispatched := dispatchEnvelopeRequest encryption routed wire.stream envelope
    {wire with
      stream:=dispatched.2
      log:=((envelopeKind envelope).map
        (resolution wire.stream dispatched.2 frame.requestId (extractRequestId envelope))).toList ++ wire.log
      replies:=wire.replies ++ match dispatched.1 with
        | (some requestId,some response) => [(frame.requestId,encodeResponseEnvelope requestId response)]
        | _ => []}

def deliver (client : AoaClient) (envelope : Envelope) : AoaClient :=
  match envelope.requestId.bind client.responseQueue with
  | some queue => client.offer queue (.success envelope)
  | none => client

inductive AssetInput where
  | start (metadata : Fields)
  | chunk (content : Bytes)
  | complete
  | go
  | timeout

def uploadInput (streamRequestId : String) : AssetInput → UploadInput
  | .start metadata => .start (startEnvelope streamRequestId metadata)
  | .chunk content => .chunk content
  | .complete => .finish (completionEnvelope streamRequestId)
  | .go => .go
  | .timeout => .timeout

structure Asset where
  assetId : String
  phase : Upload

def assetStep (lib : Libraries) (wire : Wire) (asset : Asset) (input : AssetInput) : Option (Wire × Asset) :=
  let streamRequestId := toAoaStreamRequestId lib asset.assetId
  match asset.phase with
  | .broken _ _ => none
  | phase => (uploadStep streamRequestId wire.client phase (uploadInput streamRequestId input)).map fun next =>
      ({wire with client:=next.1},{asset with phase:=next.2})

inductive WireEvent where
  | write
  | receive (routed : MobileTransportResponse)
  | deliver

def wireStep (encryption : PayloadEncryption) (wire : Wire) : WireEvent → Option Wire
  | .write => match wire.client.outgoingQueue with
    | frame :: rest => some {wire with
        client:={wire.client with outgoingQueue:=rest}
        sent:=wire.sent ++ [frame]}
    | [] => none
  | .receive routed => if wire.ended then none else match wire.sent with
    | frame :: rest => some (receiveFrame encryption routed {wire with sent:=rest} frame)
    | [] => none
  | .deliver => match wire.replies with
    | reply :: rest => some {wire with
        client:=deliver wire.client reply.2
        replies:=rest}
    | [] => none

abbrev Streams (Index : Type*) := Pool Index Wire Asset

def streams (Index : Type*) [DecidableEq Index] (lib : Libraries) (encryption : PayloadEncryption) :
    System (Streams Index) (Move Index AssetInput WireEvent) := pool (assetStep lib) (wireStep encryption)

def connected : AoaClient :=
  {AoaClient.new with
    state:=.connected
    stopped:=false
    connectionGeneration:=2
    streams:=some 2
    answered:=[2]}

def launched {Index : Type*} (ids : Index → String) : Streams Index :=
  ⟨⟨connected,[],.new,false,[],[]⟩,fun i => ⟨ids i,.starting 0⟩⟩

end ImageSearch.AoaStreams
