import ImageSearch.AoaStreams

namespace ImageSearch.StreamCorrelation
open Payload Transitions Threads PhoneConnection ConnectionThreads AoaUploads AssetUploadStream AoaStreams

section Ids
variable {lib : Libraries} {requestId : String}

theorem streamId_length (lib : Libraries) (requestId : String) :
    (toAoaStreamRequestId lib requestId).length = aoaRequestIdLength := by
  unfold toAoaStreamRequestId
  split
  · rw [String.length_ofList,List.length_take,lib.sha1Length]
    rfl
  · rename_i short
    rw [padRequestId,String.length_append,String.length_ofList,List.length_replicate]
    omega

theorem pad_whole (whole : requestId.length = aoaRequestIdLength) : padRequestId requestId = requestId := by
  simp [padRequestId,whole]

-- An id whose stream id has nothing to strip: too long to be padded, or of the very
-- length and without spaces at its ends.
def Correlatable (requestId : String) : Prop :=
  aoaRequestIdLength < requestId.length ∨ (requestId.length = aoaRequestIdLength ∧ strip requestId = requestId)

theorem strip_stream (fits : Correlatable requestId) :
    strip (toAoaStreamRequestId lib requestId) = toAoaStreamRequestId lib requestId := by
  unfold toAoaStreamRequestId
  rcases fits with long | ⟨whole,stripped⟩
  · rw [if_pos long,strip,String.toList_ofList]
    refine congrArg String.ofList (stripChars_self fun c inside => ?_)
    exact (lib.sha1Digits _ c (List.mem_of_mem_take inside)).1
  · rw [if_neg (by omega),pad_whole whole,stripped]

theorem stripChars_last {drop : Char → Bool} {text : List Char} {c : Char}
    (last : (stripChars drop text).getLast? = some c) : drop c = false := by
  rw [stripChars,List.getLast?_reverse] at last
  have kept := List.head?_dropWhile_not drop (text.dropWhile drop).reverse
  rw [last] at kept
  simpa using kept

theorem strip_padded (short : requestId.length < aoaRequestIdLength) : strip (padRequestId requestId) ≠ padRequestId requestId := by
  intro stripped
  have last : (padRequestId requestId).toList.getLast? = some ' ' := by
    rw [padRequestId,String.toList_append,String.toList_ofList,List.getLast?_append,List.getLast?_replicate,if_neg (by omega)]
    rfl
  rw [← stripped,strip,String.toList_ofList] at last
  exact absurd (stripChars_last last) (by decide)

theorem strip_stream_iff :
    strip (toAoaStreamRequestId lib requestId) = toAoaStreamRequestId lib requestId ↔ Correlatable requestId := by
  refine ⟨fun stripped => ?_,strip_stream⟩
  unfold toAoaStreamRequestId at stripped
  split at stripped
  · rename_i long
    exact .inl long
  · by_cases whole : requestId.length = aoaRequestIdLength
    · rw [pad_whole whole] at stripped
      exact .inr ⟨whole,stripped⟩
    · exact absurd stripped (strip_padded (by omega))

theorem streamId_nonempty (lib : Libraries) (requestId : String) : toAoaStreamRequestId lib requestId ≠ "" := by
  intro empty
  have length := streamId_length lib requestId
  rw [empty] at length
  cases length

end Ids

inductive Stage where
  | fresh
  | opened
  | closed
  deriving DecidableEq, Repr

def advance : Stage → Kind → Option Stage
  | .fresh,.start => some .opened
  | .opened,.chunk => some .opened
  | .opened,.complete => some .closed
  | _,_ => none

theorem advance_start {before after : Stage} (moved : advance before .start = some after) : before = .fresh := by
  cases before <;> cases moved
  rfl

theorem advance_opened {before after : Stage} {kind : Kind} (moved : advance before kind = some after)
    (later : kind ≠ .start) : before = .opened := by
  cases before <;> cases kind <;> first | rfl | exact absurd rfl later | cases moved

theorem advance_complete {before after : Stage} (moved : advance before .complete = some after) : after = .closed := by
  cases before <;> cases moved
  rfl

def stage (log : List Resolution) (key : String) : Stage :=
  if log.any fun entry => entry.frameId = key && entry.kind = .complete then .closed
  else if log.any fun entry => entry.frameId = key then .opened
  else .fresh

variable {log : List Resolution} {entry : Resolution} {key other : String} {after : Stage}

theorem stage_other (different : entry.frameId ≠ key) : stage (entry :: log) key = stage log key := by
  simp [stage,different]

theorem stage_fresh (fresh : stage log key = .fresh) : ∀ entry ∈ log, entry.frameId ≠ key := by
  intro entry inside same
  unfold stage at fresh
  split at fresh
  · cases fresh
  · split at fresh
    · cases fresh
    · rename_i none
      exact none (List.any_eq_true.mpr ⟨entry,inside,by simpa using same⟩)

theorem stage_next (moved : advance (stage log entry.frameId) entry.kind = some after) :
    stage (entry :: log) entry.frameId = after := by
  obtain ⟨frameId,kind,file⟩ := entry
  simp only at moved ⊢
  cases before : stage log frameId with
  | fresh =>
      have none := stage_fresh before
      cases kind <;> rw [before] at moved <;> cases moved
      have open' : ¬ log.any (fun entry => entry.frameId = frameId && entry.kind = .complete) = true := by
        intro found
        obtain ⟨entry,inside,same⟩ := List.any_eq_true.mp found
        simp only [Bool.and_eq_true,decide_eq_true_eq] at same
        exact none entry inside same.1
      simp [stage]
      simpa using open'
  | opened =>
      have unclosed : ¬ log.any (fun entry => entry.frameId = frameId && entry.kind = .complete) = true := by
        intro found
        simp [stage,found] at before
      cases kind <;> rw [before] at moved <;> cases moved
      · simp [stage]
        simpa using unclosed
      · simp [stage]
  | closed =>
      rw [before] at moved
      cases kind <;> cases moved

section Phone
variable {client client' : AoaClient} {phase phase' : Upload} {input : AssetInput} {queue : Nat} {id : String}

structure ClientFits (client : AoaClient) : Prop where
  connected : client.state = .connected
  requests : client.pendingResponses = []
  issued : ∀ id queue, client.pendingStreamingResponses.get id = some queue → queue < client.nextQueue
  once : ∀ id id' queue, client.pendingStreamingResponses.get id = some queue →
    client.pendingStreamingResponses.get id' = some queue → id = id'
  mail : ∀ id queue result, client.pendingStreamingResponses.get id = some queue → client.mailboxes queue = some result →
    ∃ reply, result = .success reply ∧ reply.requestId = some id
  unused : ∀ queue, client.nextQueue ≤ queue → client.mailboxes queue = none

def Registered (client : AoaClient) (key : String) : Prop := ∃ queue, client.pendingStreamingResponses.get key = some queue

def PhaseFits (client : AoaClient) (key : String) : Upload → Prop
  | .sending _ (.text envelope) _ => (∃ metadata, envelope = startEnvelope key metadata) ∧ Registered client key
  | .sending _ (.binary _) _ => Registered client key
  | .between _ => Registered client key
  | .finishing _ queue payload _ => payload = .text (completionEnvelope key) ∧
      client.pendingStreamingResponses.get key = some queue
  | .waiting _ queue => client.pendingStreamingResponses.get key = some queue
  | .removing _ result => ∀ reply, result = .success reply → reply.requestId = some key
  | .answered reply => reply.requestId = some key
  | .reconnecting _ _ => False
  | _ => True

def phaseStage : Upload → Stage
  | .starting _ => .fresh
  | .sending _ (.text _) _ => .fresh
  | .sending _ (.binary _) _ | .between _ | .finishing _ _ _ _ => .opened
  | _ => .closed

inductive Produced (key : String) : FramePayload → Prop where
  | start (metadata : Fields) : Produced key (.text (startEnvelope key metadata))
  | chunk (content : Bytes) : Produced key (.binary content)
  | complete : Produced key (.text (completionEnvelope key))

@[simp] theorem kind_start (key : String) (metadata : Fields) : kindOf (.text (startEnvelope key metadata)) = some .start := by
  simp [kindOf,envelopeKind,startEnvelope,Payload.get,transferAssetStreamStateField]
@[simp] theorem kind_complete (key : String) : kindOf (.text (completionEnvelope key)) = some .complete := by
  simp [kindOf,envelopeKind,completionEnvelope,Payload.get,transferAssetStreamStateField,transferAssetStreamStateStart,
    transferAssetStreamStateComplete]
@[simp] theorem kind_chunk (content : Bytes) : kindOf (.binary content) = some .chunk := rfl

inductive Adds (key : String) (phase phase' : Upload) : List QueuedFrame → Prop where
  | nothing (same : phaseStage phase' = phaseStage phase) : Adds key phase phase' []
  | frame (frame : QueuedFrame) (kind : Kind) (own : frame.requestId = key) (produced : Produced key frame.payload)
      (known : kindOf frame.payload = some kind) (moved : advance (phaseStage phase) kind = some (phaseStage phase')) :
      Adds key phase phase' [frame]

structure Sends (client : AoaClient) (key : String) (phase : Upload) (client' : AoaClient) (phase' : Upload) : Prop where
  added : ∃ frames, client'.outgoingQueue = client.outgoingQueue ++ frames ∧ Adds key phase phase' frames
  fits : ClientFits client'
  ready : PhaseFits client' key phase'
  others : ∀ other, other ≠ key → client'.pendingStreamingResponses.get other = client.pendingStreamingResponses.get other

theorem get_remove_self (registry : Registry) (id : String) : (registry.remove id).get id = none := by
  induction registry with
  | nil => rfl
  | cons entry registry ih =>
      obtain ⟨key,value⟩ := entry
      simp only [Registry.remove,Registry.get] at ih ⊢
      by_cases removed : key = id
      · simpa [removed] using ih
      · simp only [List.filter_cons,bne_iff_ne,ne_eq,removed,not_false_eq_true,if_true,List.lookup_cons]
        rw [beq_eq_false_iff_ne.mpr (Ne.symm removed)]
        exact ih

theorem get_removed {registry : Registry} (found : (registry.remove key).get id = some queue) : registry.get id = some queue := by
  by_cases same : id = key
  · subst same
    rw [get_remove_self] at found
    cases found
  · rwa [get_remove_other same] at found

theorem client_kept (fits : ClientFits client) (state : client'.state = client.state)
    (requests : client'.pendingResponses = client.pendingResponses)
    (streaming : client'.pendingStreamingResponses = client.pendingStreamingResponses)
    (issued : client'.nextQueue = client.nextQueue) (mail : client'.mailboxes = client.mailboxes) : ClientFits client' :=
  ⟨state.trans fits.connected,requests.trans fits.requests,by rw [streaming,issued]; exact fits.issued,
    by rw [streaming]; exact fits.once,by rw [streaming,mail]; exact fits.mail,by rw [issued,mail]; exact fits.unused⟩

theorem client_begins (fits : ClientFits client) (key : String) :
    ClientFits (client.registerPendingStreamingResponse key).1 := by
  refine ⟨fits.connected,fits.requests,fun id queue found => ?_,fun id id' queue one two => ?_,
    fun id queue result found held => ?_,fun queue later => fits.unused queue (Nat.le_of_succ_le later)⟩
  · by_cases same : id = key
    · subst same
      rw [AoaClient.registerPendingStreamingResponse,get_put] at found
      cases found
      exact Nat.lt_succ_self _
    · rw [AoaClient.registerPendingStreamingResponse,get_put_other same] at found
      exact Nat.lt_succ_of_lt (fits.issued id queue found)
  · simp only [AoaClient.registerPendingStreamingResponse] at one two
    by_cases first : id = key <;> by_cases second : id' = key
    · exact first.trans second.symm
    · subst first
      rw [get_put,Option.some.injEq] at one
      rw [get_put_other second] at two
      exact absurd (fits.issued id' queue two) (by omega)
    · subst second
      rw [get_put,Option.some.injEq] at two
      rw [get_put_other first] at one
      exact absurd (fits.issued id queue one) (by omega)
    · rw [get_put_other first] at one
      rw [get_put_other second] at two
      exact fits.once id id' queue one two
  · simp only [AoaClient.registerPendingStreamingResponse] at found held
    by_cases same : id = key
    · subst same
      rw [get_put,Option.some.injEq] at found
      rw [fits.unused queue found.le] at held
      cases held
    · rw [get_put_other same] at found
      exact fits.mail id queue result found held

theorem client_removes (fits : ClientFits client) (key : String) : ClientFits (removePending client .streaming key) :=
  ⟨fits.connected,fits.requests,fun id queue found => fits.issued id queue (get_removed found),
    fun id id' queue one two => fits.once id id' queue (get_removed one) (get_removed two),
    fun id queue result found held => fits.mail id queue result (get_removed found) held,fits.unused⟩

theorem client_takes (fits : ClientFits client) (queue : Nat) : ClientFits (client.take queue) := by
  refine ⟨fits.connected,fits.requests,fits.issued,fits.once,fun id other result found held => ?_,fun other later => ?_⟩
  · by_cases same : other = queue
    · simp [AoaClient.take,same] at held
    · exact fits.mail id other result found (by simpa [AoaClient.take,same] using held)
  · by_cases same : other = queue
    · simp [AoaClient.take,same]
    · simpa [AoaClient.take,same] using fits.unused other later

theorem client_delivers (fits : ClientFits client) (reply : Envelope) : ClientFits (deliver client reply) := by
  unfold deliver
  split
  · rename_i queue registered
    obtain ⟨id,named,found⟩ := Option.bind_eq_some_iff.mp registered
    rw [AoaClient.responseQueue,fits.requests] at found
    refine ⟨fits.connected,fits.requests,fits.issued,fits.once,fun other box result present held => ?_,fun box later => ?_⟩
    · by_cases same : box = queue
      · subst same
        cases fits.once other id box present found
        simp only [AoaClient.offer,Function.update_self] at held
        cases before : client.mailboxes box with
        | none =>
            rw [before] at held
            cases held
            exact ⟨reply,rfl,named⟩
        | some earlier =>
            rw [before] at held
            cases held
            exact fits.mail id box result found before
      · exact fits.mail other box result present (by simpa [AoaClient.offer,same] using held)
    · have issued : queue < client.nextQueue := fits.issued id queue found
      have different : box ≠ queue := (issued.trans_le later).ne'
      simpa [AoaClient.offer,different] using fits.unused box later
  · exact fits

theorem sends_still (fits : ClientFits client) (ready : PhaseFits client key phase')
    (same : phaseStage phase' = phaseStage phase) : Sends client key phase client phase' :=
  ⟨⟨[],(List.append_nil _).symm,.nothing same⟩,fits,ready,fun _ _ => rfl⟩

theorem sends_frame {payload : FramePayload} {seen : Nat} {kind : Kind} (fits : ClientFits client)
    (whole : key.length = aoaRequestIdLength) (produced : Produced key payload) (known : kindOf payload = some kind)
    (moved : advance (phaseStage phase) kind = some (phaseStage phase')) (ready : PhaseFits client key phase') :
    Sends client key phase (client.enqueue (frameOf key payload seen)) phase' := by
  refine ⟨⟨[frameOf key payload seen],rfl,.frame _ kind (pad_whole whole) produced known moved⟩,
    client_kept fits rfl rfl rfl rfl rfl,?_,fun _ _ => rfl⟩
  cases phase' with
  | sending attempt payload seen => cases payload <;> exact ready
  | _ => exact ready

theorem upload_sends (fits : ClientFits client) (ready : PhaseFits client key phase) (whole : key.length = aoaRequestIdLength)
    (single : ∀ attempt error, phase ≠ .broken attempt error)
    (taken : uploadStep key client phase (uploadInput key input) = some (client',phase')) :
    Sends client key phase client' phase' := by
  cases phase with
  | starting attempt =>
      cases input with
      | start metadata =>
          simp only [uploadInput,uploadStep,enterBeginStreaming_connected fits.connected] at taken
          cases taken
          refine ⟨⟨[],(List.append_nil _).symm,.nothing rfl⟩,client_begins fits key,
            ⟨⟨metadata,rfl⟩,client.nextQueue,get_put _ _ _⟩,fun other different => get_put_other different⟩
      | _ => cases taken
  | sending attempt payload seen =>
      cases input with
      | go =>
          simp only [uploadInput,uploadStep] at taken
          split at taken <;> cases taken
          cases payload with
          | text envelope =>
              obtain ⟨⟨metadata,rfl⟩,registered⟩ := ready
              exact sends_frame fits whole (.start metadata) (kind_start key metadata) rfl registered
          | binary content => exact sends_frame fits whole (.chunk content) rfl rfl ready
      | _ => cases taken
  | between attempt =>
      obtain ⟨queue,registered⟩ := ready
      cases input with
      | chunk content =>
          have entered : client.enterSendChunk key = .ok queue := enterSendChunk_registered fits.connected registered
          simp only [uploadInput,uploadStep,entered] at taken
          cases taken
          exact sends_still fits ⟨queue,registered⟩ rfl
      | complete =>
          have entered : client.enterFinishStreaming key = .ok queue := enterFinishStreaming_registered fits.connected registered
          simp only [uploadInput,uploadStep,entered] at taken
          cases taken
          exact sends_still fits ⟨rfl,registered⟩ rfl
      | _ => cases taken
  | finishing attempt queue payload seen =>
      obtain ⟨rfl,registered⟩ := ready
      cases input with
      | go =>
          simp only [uploadInput,uploadStep] at taken
          split at taken <;> cases taken
          exact sends_frame fits whole .complete (kind_complete key) rfl registered
      | _ => cases taken
  | waiting attempt queue =>
      cases input with
      | go =>
          obtain ⟨result,held,moved⟩ := Option.map_eq_some_iff.mp taken
          cases moved
          refine ⟨⟨[],(List.append_nil _).symm,.nothing rfl⟩,client_takes fits queue,fun reply same => ?_,fun _ _ => rfl⟩
          obtain ⟨reply',same',named⟩ := fits.mail key queue result ready held
          cases same.symm.trans same'
          exact named
      | timeout =>
          simp only [uploadInput,uploadStep] at taken
          split at taken <;> cases taken
          exact sends_still fits (fun _ => nofun) rfl
      | _ => cases taken
  | removing attempt result =>
      cases input with
      | go =>
          cases taken
          refine ⟨⟨[],(List.append_nil _).symm,.nothing ?_⟩,client_removes fits key,?_,
            fun other different => get_remove_other different⟩
          · cases result <;> rfl
          · cases result with
            | success reply => exact ready reply rfl
            | error error => trivial
      | _ => cases taken
  | broken attempt error => exact absurd rfl (single attempt error)
  | reconnecting attempt error => exact ready.elim
  | answered payload => cases input <;> cases taken
  | failed error givenUp => cases input <;> cases taken

end Phone

section Desktop
variable {encryption : PayloadEncryption} {routed : MobileTransportResponse} {wire : Wire} {frame : QueuedFrame}
  {stream : TransferAssetUploadStream}

theorem extract_start (stripped : strip key = key) (nonempty : key ≠ "") (metadata : Fields) :
    extractRequestId (startEnvelope key metadata) = some key := by
  simp [extractRequestId,startEnvelope,stripped,nonempty]

theorem extract_complete (stripped : strip key = key) (nonempty : key ≠ "") :
    extractRequestId (completionEnvelope key) = some key := by
  simp [extractRequestId,completionEnvelope,stripped,nonempty]

theorem operation_kept : strip transferAssetOperation ≠ "" := by decide

def sentMetadata (key : String) (metadata : Fields) : Fields :=
  (startEnvelope key metadata).body.filter fun field => field.1 != transferAssetStreamStateField && field.1 != "chunk_size"

theorem dispatch_start {id : String} {metadata : Fields} (named : extractRequestId (startEnvelope key metadata) = some id) :
    dispatchEnvelopeRequest encryption routed stream (startEnvelope key metadata) =
      match encryption.openMetadata (sentMetadata key metadata) with
      | .error message => ((some id,some (transportErrorResponse message)),stream)
      | .ok (opened,trustKey) => ((some id,none),stream.start id opened trustKey false) := by
  unfold dispatchEnvelopeRequest
  rw [named]
  have field : Payload.get (startEnvelope key metadata).body transferAssetStreamStateField = .string transferAssetStreamStateStart := rfl
  have schema : (startEnvelope key metadata).schema = mobileTransportEnvelopeSchema := rfl
  have operation : (startEnvelope key metadata).operation = some transferAssetOperation := rfl
  simp only [schema,operation,operation_kept,ne_eq,not_true_eq_false,if_false,if_true]
  unfold dispatchTransferAssetStreamPayload
  simp only [field,if_true]
  rw [← sentMetadata]
  cases encryption.openMetadata (sentMetadata key metadata) <;> rfl

theorem dispatch_complete (stripped : strip key = key) (nonempty : key ≠ "") :
    dispatchEnvelopeRequest encryption routed stream (completionEnvelope key) =
      ((some key,some (match (stream.complete key).1 with
        | .error message => transportErrorResponse message
        | .ok _ => routed)),(stream.complete key).2) := by
  unfold dispatchEnvelopeRequest
  rw [extract_complete stripped nonempty]
  have field : Payload.get (completionEnvelope key).body transferAssetStreamStateField = .string transferAssetStreamStateComplete := rfl
  have schema : (completionEnvelope key).schema = mobileTransportEnvelopeSchema := rfl
  have operation : (completionEnvelope key).operation = some transferAssetOperation := rfl
  have other : transferAssetStreamStateComplete ≠ transferAssetStreamStateStart := by decide
  simp only [schema,operation,operation_kept,ne_eq,not_true_eq_false,if_false,if_true]
  unfold dispatchTransferAssetStreamPayload
  simp only [field,other,if_true,if_false]
  rcases stream.complete key with ⟨_ | _,_⟩ <;> rfl

def Readable (encryption : PayloadEncryption) : Prop := ∀ metadata, ∃ opened, encryption.openMetadata metadata = .ok opened

structure Received (encryption : PayloadEncryption) (key : String) (wire wire' : Wire) (entry : Resolution) : Prop where
  own : entry.frameId = key
  log : wire'.log = entry :: wire.log
  phone : wire'.client = wire.client ∧ wire'.sent = wire.sent
  found : entry.kind ≠ .start → entry.file = wire.stream.fileOf key
  kept : entry.kind ≠ .complete → entry.file = wire'.stream.fileOf key
  readable : Readable encryption → entry.kind = .start → entry.file.isSome
  fresh : ∀ file, wire'.stream.fileOf key = some file → wire.stream.fileOf key = some file ∨
    (file = wire.stream.nextFile ∧ wire'.stream.nextFile = wire.stream.nextFile + 1)
  grows : wire.stream.nextFile ≤ wire'.stream.nextFile
  others : ∀ other, other ≠ key → wire'.stream.fileOf other = wire.stream.fileOf other
  answers : ∃ answers, wire'.replies = wire.replies ++ answers ∧
    ∀ reply ∈ answers, reply.1 = key ∧ reply.2.requestId = some key

theorem append_received {stream' : TransferAssetUploadStream} {requestId : String} {payload : Bytes}
    (appended : appendAoaBinaryChunk encryption stream requestId payload = .ok stream') :
    (∀ other, stream'.fileOf other = stream.fileOf other) ∧ stream'.nextFile = stream.nextFile := by
  unfold appendAoaBinaryChunk at appended
  dsimp only at appended
  split at appended
  · cases appended
  · rename_i framePayload _
    have files : ∀ other, (stream.appendChunk framePayload (some requestId)).2.fileOf other = stream.fileOf other := append_file
    have numbers : (stream.appendChunk framePayload (some requestId)).2.nextFile = stream.nextFile := append_nextFile
    generalize stream.appendChunk framePayload (some requestId) = result at appended files numbers
    obtain ⟨error,after⟩ := result
    cases error with
    | none =>
        cases appended
        exact ⟨files,numbers⟩
    | some error =>
        dsimp only at appended
        split at appended
        · cases appended
          exact ⟨files,numbers⟩
        · split at appended
          · cases appended
          · split at appended
            · cases appended
              exact ⟨files,numbers⟩
            · cases appended

theorem receive_chunk {content : Bytes} (chunk : frame.payload = .binary content) (own : frame.requestId = key) :
    Received encryption key wire (receiveFrame encryption routed wire frame) ⟨key,.chunk,wire.stream.fileOf key⟩ := by
  subst own
  simp only [receiveFrame,chunk]
  split
  · rename_i stream' appended
    obtain ⟨files,numbers⟩ := append_received appended
    exact ⟨rfl,rfl,⟨rfl,rfl⟩,fun _ => rfl,fun _ => (files _).symm,fun _ => nofun,fun file found => .inl (files _ ▸ found),
      numbers.ge,fun other _ => files other,⟨[],(List.append_nil _).symm,nofun⟩⟩
  · exact ⟨rfl,rfl,⟨rfl,rfl⟩,fun _ => rfl,fun _ => rfl,fun _ => nofun,fun file found => .inl found,le_rfl,fun _ _ => rfl,
      ⟨[],(List.append_nil _).symm,nofun⟩⟩

theorem receive_start {metadata : Fields} (start : frame.payload = .text (startEnvelope key metadata))
    (own : frame.requestId = key) (stripped : strip key = key) (nonempty : key ≠ "") :
    Received encryption key wire (receiveFrame encryption routed wire frame)
      ⟨key,.start,(receiveFrame encryption routed wire frame).stream.fileOf key⟩ := by
  have kind : envelopeKind (startEnvelope key metadata) = some .start := kind_start key metadata
  have answered : ∀ response : MobileTransportResponse, ∀ reply ∈ [(key,encodeResponseEnvelope key response)],
      reply.1 = key ∧ reply.2.requestId = some key := by
    intro response reply inside
    cases List.mem_singleton.mp inside
    exact ⟨rfl,rfl⟩
  have named := extract_start stripped nonempty metadata
  simp only [receiveFrame,start,dispatch_start named,kind,named,own]
  cases readable : encryption.openMetadata (sentMetadata key metadata) with
  | error message =>
      refine ⟨rfl,rfl,⟨rfl,rfl⟩,fun not => absurd rfl not,fun _ => rfl,fun all => ?_,fun file found => .inl found,le_rfl,
        fun _ _ => rfl,⟨_,rfl,answered _⟩⟩
      obtain ⟨opened,ok⟩ := all (sentMetadata key metadata)
      cases readable.symm.trans ok
  | ok opened =>
      refine ⟨rfl,rfl,⟨rfl,rfl⟩,fun not => absurd rfl not,fun _ => rfl,fun _ _ => ?_,fun file found => .inr ?_,
        Nat.le_succ _,fun other different => start_other different,⟨[],rfl,nofun⟩⟩
      · simp
      · rw [start_file,Option.some.injEq] at found
        exact ⟨found.symm,rfl⟩

theorem receive_complete (complete : frame.payload = .text (completionEnvelope key)) (own : frame.requestId = key)
    (stripped : strip key = key) (nonempty : key ≠ "") :
    Received encryption key wire (receiveFrame encryption routed wire frame) ⟨key,.complete,wire.stream.fileOf key⟩ := by
  have kind : envelopeKind (completionEnvelope key) = some .complete := kind_complete key
  simp only [receiveFrame,complete,dispatch_complete stripped nonempty,kind,extract_complete stripped nonempty,own]
  refine ⟨rfl,rfl,⟨rfl,rfl⟩,fun _ => rfl,fun not => absurd rfl not,fun _ => nofun,fun file found => .inl ?_,
    complete_nextFile.ge,fun other different => complete_other different,⟨_,rfl,fun reply inside => ?_⟩⟩
  · rw [complete_self] at found
    cases found
  · cases List.mem_singleton.mp inside
    exact ⟨rfl,rfl⟩

theorem receive_produced {κ : Kind} (produced : Produced key frame.payload) (known : kindOf frame.payload = some κ)
    (own : frame.requestId = key) (stripped : strip key = key) (nonempty : key ≠ "") :
    ∃ entry, entry.kind = κ ∧ Received encryption key wire (receiveFrame encryption routed wire frame) entry := by
  generalize payload : frame.payload = sent at produced known
  cases produced with
  | start metadata =>
      rw [kind_start] at known
      cases known
      exact ⟨_,rfl,receive_start payload own stripped nonempty⟩
  | chunk content =>
      cases known
      exact ⟨_,rfl,receive_chunk payload own⟩
  | complete =>
      rw [kind_complete] at known
      cases known
      exact ⟨_,rfl,receive_complete payload own stripped nonempty⟩

-- The log in terms of what the desktop holds: one file for each id, and for each file
-- one id.
structure Filed (encryption : PayloadEncryption) (wire : Wire) : Prop where
  same : ∀ entry ∈ wire.log, ∀ entry' ∈ wire.log, entry.frameId = entry'.frameId → entry.file = entry'.file
  current : ∀ entry ∈ wire.log, stage wire.log entry.frameId ≠ .closed → entry.file = wire.stream.fileOf entry.frameId
  owned : ∃ owner : Nat → String, (∀ key file, wire.stream.fileOf key = some file → file < wire.stream.nextFile ∧ owner file = key) ∧
    ∀ entry ∈ wire.log, ∀ file, entry.file = some file → file < wire.stream.nextFile ∧ owner file = entry.frameId
  readable : Readable encryption → ∀ entry ∈ wire.log, entry.file.isSome

theorem filed_kept {wire' : Wire} (old : Filed encryption wire) (log : wire'.log = wire.log) (stream : wire'.stream = wire.stream) :
    Filed encryption wire' :=
  ⟨log ▸ old.same,log ▸ stream ▸ old.current,log ▸ stream ▸ old.owned,log ▸ old.readable⟩

theorem stage_opened (opened : stage log key = .opened) : ∃ entry ∈ log, entry.frameId = key := by
  unfold stage at opened
  split at opened
  · cases opened
  · split at opened
    · rename_i found
      simpa using found
    · cases opened

theorem filed_received {wire' : Wire} {entry : Resolution} (old : Filed encryption wire)
    (received : Received encryption key wire wire' entry) (moved : advance (stage wire.log key) entry.kind = some after) :
    Filed encryption wire' := by
  obtain ⟨rfl,log,phone,found,kept,readable,fresh,grows,others,answers⟩ := received
  -- What the frame resolved to is what the earlier frames of its id did.
  have agrees : ∀ earlier ∈ wire.log, earlier.frameId = entry.frameId → earlier.file = entry.file := by
    intro earlier inside same
    have later : entry.kind ≠ .start := by
      intro start
      rw [start] at moved
      exact stage_fresh (advance_start moved) earlier inside same
    rw [found later,← same]
    refine old.current earlier inside ?_
    rw [same,advance_opened moved later]
    nofun
  refine ⟨?_,?_,?_,?_⟩
  · rw [log]
    intro one first two second same
    rcases List.mem_cons.mp first with rfl | one_old <;> rcases List.mem_cons.mp second with rfl | two_old
    · rfl
    · exact (agrees two two_old same.symm).symm
    · exact agrees one one_old same
    · exact old.same one one_old two two_old same
  · rw [log]
    intro one inside unclosed
    by_cases own : one.frameId = entry.frameId
    · have file : one.file = entry.file := by
        rcases List.mem_cons.mp inside with rfl | earlier
        · rfl
        · exact agrees one earlier own
      rw [own] at unclosed ⊢
      rw [file]
      refine kept fun complete => ?_
      rw [stage_next moved] at unclosed
      rw [complete] at moved
      exact unclosed (advance_complete moved)
    · have earlier : one ∈ wire.log := (List.mem_cons.mp inside).resolve_left fun same => own (congrArg Resolution.frameId same)
      rw [stage_other (Ne.symm own)] at unclosed
      rw [others _ own]
      exact old.current one earlier unclosed
  · obtain ⟨owner,held,logged⟩ := old.owned
    have below : ∀ file, file < wire.stream.nextFile → Function.update owner wire.stream.nextFile entry.frameId file = owner file :=
      fun file small => Function.update_of_ne (by omega) _ _
    have heldNow : ∀ key file, wire'.stream.fileOf key = some file → file < wire'.stream.nextFile ∧
        Function.update owner wire.stream.nextFile entry.frameId file = key := by
      intro key file found'
      by_cases own : key = entry.frameId
      · subst own
        rcases fresh file found' with before | ⟨rfl,number⟩
        · obtain ⟨small,owns⟩ := held _ file before
          exact ⟨by omega,by rw [below file small,owns]⟩
        · exact ⟨by omega,Function.update_self _ _ _⟩
      · rw [others key own] at found'
        obtain ⟨small,owns⟩ := held key file found'
        exact ⟨by omega,by rw [below file small,owns]⟩
    refine ⟨_,heldNow,?_⟩
    rw [log]
    intro one inside file has
    rcases List.mem_cons.mp inside with rfl | earlier
    · by_cases complete : one.kind = .complete
      · rw [found (by simp [complete])] at has
        obtain ⟨small,owns⟩ := held _ file has
        exact ⟨by omega,by rw [below file small,owns]⟩
      · exact heldNow _ file (kept complete ▸ has)
    · obtain ⟨small,owns⟩ := logged one earlier file has
      exact ⟨by omega,by rw [below file small,owns]⟩
  · rw [log]
    intro all one inside
    rcases List.mem_cons.mp inside with rfl | earlier
    · by_cases start : one.kind = .start
      · exact readable all start
      · obtain ⟨earlier,before,same⟩ := stage_opened (advance_opened moved start)
        rw [← agrees earlier before same]
        exact old.readable all earlier before
    · exact old.readable all one earlier

end Desktop

section Flying
variable {wire : Wire} {frames frames' : List QueuedFrame}

def kindsOf (frames : List QueuedFrame) (key : String) : List Kind :=
  (frames.filter fun frame => frame.requestId = key).filterMap fun frame => kindOf frame.payload

@[simp] theorem kinds_append (frames frames' : List QueuedFrame) (key : String) :
    kindsOf (frames ++ frames') key = kindsOf frames key ++ kindsOf frames' key := by
  simp [kindsOf]

theorem kinds_own {frame : QueuedFrame} {kind : Kind} (own : frame.requestId = key) (known : kindOf frame.payload = some kind) :
    kindsOf [frame] key = [kind] := by
  simp [kindsOf,own,known]

theorem kinds_other {frame : QueuedFrame} (different : frame.requestId ≠ key) : kindsOf [frame] key = [] := by
  simp [kindsOf,different]

def onTheWay (wire : Wire) : List QueuedFrame := wire.sent ++ wire.client.outgoingQueue

end Flying

section Runs
variable {Index : Type*} {lib : Libraries} {encryption : PayloadEncryption} {ids : Index → String}
  {s s' : Streams Index}

def keyOf (lib : Libraries) (ids : Index → String) (i : Index) : String := toAoaStreamRequestId lib (ids i)

theorem frame_own (i : Index) (payload : FramePayload) (seen : Nat) :
    (frameOf (keyOf lib ids i) payload seen).requestId = keyOf lib ids i := pad_whole (streamId_length lib (ids i))

-- What the desktop has read of an upload and what is on the way to it make up what the
-- upload has sent.
structure Streaming (lib : Libraries) (encryption : PayloadEncryption) (ids : Index → String) (s : Streams Index) : Prop where
  assets : ∀ i, (s.threads i).assetId = ids i
  client : ClientFits s.world.client
  phases : ∀ i, PhaseFits s.world.client (keyOf lib ids i) (s.threads i).phase
  frames : ∀ frame ∈ onTheWay s.world, ∃ i kind, frame.requestId = keyOf lib ids i ∧
    Produced (keyOf lib ids i) frame.payload ∧ kindOf frame.payload = some kind
  order : ∀ i, (kindsOf (onTheWay s.world) (keyOf lib ids i)).foldlM advance (stage s.world.log (keyOf lib ids i)) =
    some (phaseStage (s.threads i).phase)
  filed : Filed encryption s.world
  replies : ∀ reply ∈ s.world.replies, ∃ i, reply.1 = keyOf lib ids i ∧ reply.2.requestId = some (keyOf lib ids i)

theorem launched_streaming : Streaming lib encryption ids (launched ids) := by
  refine ⟨fun _ => rfl,⟨rfl,rfl,fun _ _ => nofun,fun _ _ _ => nofun,fun _ _ _ => nofun,
    fun _ _ => rfl⟩,fun _ => trivial,nofun,fun _ => rfl,⟨nofun,nofun,
    ⟨fun _ => "",?_,nofun⟩,fun _ => nofun⟩,nofun⟩
  intro key file found
  simp [launched,TransferAssetUploadStream.new,TransferAssetUploadStream.fileOf] at found

theorem phase_kept {client client' : AoaClient} {phase : Upload}
    (same : client'.pendingStreamingResponses.get key = client.pendingStreamingResponses.get key)
    (ready : PhaseFits client key phase) : PhaseFits client' key phase := by
  cases phase with
  | sending attempt payload seen =>
      cases payload with
      | text envelope => exact ⟨ready.1,by rw [Registered,same]; exact ready.2⟩
      | binary content => rw [PhaseFits,Registered,same]; exact ready
  | between attempt => rw [PhaseFits,Registered,same]; exact ready
  | finishing attempt queue payload seen => exact ⟨ready.1,same.trans ready.2⟩
  | waiting attempt queue => exact same.trans ready
  | removing attempt result => exact ready
  | answered reply => exact ready
  | reconnecting attempt error => exact ready
  | _ => trivial

theorem order_added {i j : Index} {phase phase' : Upload} {wire : Wire} {added : List QueuedFrame}
    (distinct : Function.Injective (keyOf lib ids)) (adds : Adds (keyOf lib ids i) phase phase' added)
    (order : (kindsOf (onTheWay wire) (keyOf lib ids i)).foldlM advance (stage wire.log (keyOf lib ids i)) = some (phaseStage phase)) :
    (kindsOf (onTheWay wire ++ added) (keyOf lib ids i)).foldlM advance (stage wire.log (keyOf lib ids i)) =
        some (phaseStage phase') ∧
      (j ≠ i → kindsOf (onTheWay wire ++ added) (keyOf lib ids j) = kindsOf (onTheWay wire) (keyOf lib ids j)) := by
  cases adds with
  | nothing same => exact ⟨by rw [List.append_nil,order,same],fun _ => by rw [List.append_nil]⟩
  | frame frame kind own produced known moved =>
      refine ⟨?_,fun different => ?_⟩
      · rw [kinds_append,kinds_own own known,List.foldlM_append,order]
        simpa using moved
      · have apart : frame.requestId ≠ keyOf lib ids j := fun same => different (distinct (same.symm.trans own))
        rw [kinds_append,kinds_other apart,List.append_nil]

theorem write_streaming {frame : QueuedFrame} {rest : List QueuedFrame} (old : Streaming lib encryption ids s)
    (queue : s.world.client.outgoingQueue = frame :: rest) :
    Streaming lib encryption ids {s with world:={s.world with
      client:={s.world.client with outgoingQueue:=rest}
      sent:=s.world.sent ++ [frame]}} := by
  have way : s.world.sent ++ [frame] ++ rest = onTheWay s.world := by
    rw [onTheWay,queue,List.append_assoc]
    rfl
  refine ⟨old.assets,client_kept old.client rfl rfl rfl rfl rfl,fun i => phase_kept rfl (old.phases i),?_,fun i => ?_,
    filed_kept old.filed rfl rfl,old.replies⟩
  · simp only [onTheWay,way]
    exact old.frames
  · simp only [onTheWay,way]
    exact old.order i

theorem deliver_phone (client : AoaClient) (reply : Envelope) :
    (deliver client reply).pendingStreamingResponses = client.pendingStreamingResponses ∧
      (deliver client reply).outgoingQueue = client.outgoingQueue := by
  unfold deliver
  split <;> exact ⟨rfl,rfl⟩

theorem deliver_streaming {reply : String × Envelope} {rest : List (String × Envelope)} (old : Streaming lib encryption ids s)
    (replies : s.world.replies = reply :: rest) :
    Streaming lib encryption ids {s with world:={s.world with
      client:=deliver s.world.client reply.2
      replies:=rest}} := by
  obtain ⟨streaming,queue⟩ := deliver_phone s.world.client reply.2
  have way : s.world.sent ++ (deliver s.world.client reply.2).outgoingQueue = onTheWay s.world := by rw [queue,onTheWay]
  refine ⟨old.assets,client_delivers old.client reply.2,fun i => phase_kept (by rw [streaming]) (old.phases i),?_,fun i => ?_,
    filed_kept old.filed rfl rfl,fun other inside => ?_⟩
  · simp only [onTheWay,way]
    exact old.frames
  · simp only [onTheWay,way]
    exact old.order i
  · refine old.replies other ?_
    rw [replies]
    exact List.mem_cons_of_mem _ inside

theorem receive_streaming {frame : QueuedFrame} {rest : List QueuedFrame} {routed : MobileTransportResponse}
    (distinct : Function.Injective (keyOf lib ids)) (stable : ∀ i, Correlatable (ids i))
    (old : Streaming lib encryption ids s) (sent : s.world.sent = frame :: rest) :
    Streaming lib encryption ids {s with world:=receiveFrame encryption routed {s.world with sent:=rest} frame} := by
  have way : onTheWay s.world = frame :: onTheWay {s.world with sent:=rest} := by
    rw [onTheWay,sent]
    rfl
  obtain ⟨i,kind,own,produced,known⟩ := old.frames frame (by rw [way]; exact List.mem_cons_self)
  obtain ⟨entry,kindSame,received⟩ : ∃ entry, entry.kind = kind ∧ Received encryption (keyOf lib ids i)
      {s.world with sent:=rest} (receiveFrame encryption routed {s.world with sent:=rest} frame) entry :=
    receive_produced produced known own (strip_stream (stable i)) (streamId_nonempty lib (ids i))
  have onward : ∀ wire' : Wire, wire'.client = s.world.client → wire'.sent = rest →
      onTheWay wire' = onTheWay {s.world with sent:=rest} := fun wire' client left => by rw [onTheWay,client,left]; rfl
  have order := old.order i
  rw [way,← List.singleton_append,kinds_append,kinds_own own known,List.singleton_append,List.foldlM_cons] at order
  obtain ⟨after,moved,order⟩ := Option.bind_eq_some_iff.mp order
  have movedAt : advance (stage s.world.log (keyOf lib ids i)) entry.kind = some after := by rw [kindSame]; exact moved
  have movedHere : advance (stage s.world.log entry.frameId) entry.kind = some after := by rw [received.own]; exact movedAt
  generalize receiveFrame encryption routed {s.world with sent:=rest} frame = wire' at received
  have same := onward wire' received.phone.1 received.phone.2
  refine ⟨old.assets,received.phone.1 ▸ old.client,received.phone.1 ▸ old.phases,?_,fun j => ?_,?_,?_⟩
  · rw [same]
    intro other inside
    exact old.frames other (by rw [way]; exact List.mem_cons_of_mem _ inside)
  · rw [same,received.log]
    by_cases here : j = i
    · subst j
      have reached := stage_next movedHere
      rw [received.own] at reached
      rw [reached]
      exact order
    · have apart : frame.requestId ≠ keyOf lib ids j := fun equal => here (distinct (equal.symm.trans own))
      have others := old.order j
      rw [way,← List.singleton_append,kinds_append,kinds_other apart,List.nil_append] at others
      rw [stage_other (by rw [received.own]; exact fun equal => here (distinct equal.symm))]
      exact others
  · have before : Filed encryption {s.world with sent:=rest} := filed_kept old.filed rfl rfl
    exact filed_received before received movedAt
  · obtain ⟨answers,appended,answered⟩ := received.answers
    intro reply inside
    rw [appended] at inside
    rcases List.mem_append.mp inside with before | fresh
    · exact old.replies reply before
    · exact ⟨i,answered reply fresh⟩

-- The frames of an asset come to one upload and those of another asset to another; its
-- response finds the caller that waits for it, and no other.
structure Correlates (lib : Libraries) (encryption : PayloadEncryption) (ids : Index → String) (s : Streams Index) : Prop where
  together : ∀ i, ∀ entry ∈ s.world.log, ∀ entry' ∈ s.world.log, entry.frameId = keyOf lib ids i →
    entry'.frameId = keyOf lib ids i → entry.file = entry'.file
  apart : ∀ i j, i ≠ j → ∀ entry ∈ s.world.log, ∀ entry' ∈ s.world.log, entry.frameId = keyOf lib ids i →
    entry'.frameId = keyOf lib ids j → ∀ file, entry.file = some file → entry'.file ≠ some file
  resolved : Readable encryption → ∀ entry ∈ s.world.log, entry.file.isSome
  delivered : ∀ reply ∈ s.world.replies, ∃ i, reply.1 = keyOf lib ids i ∧ ∀ j attempt queue,
    (s.threads j).phase = .waiting attempt queue →
      (reply.2.requestId.bind s.world.client.responseQueue = some queue ↔ j = i)
  answered : ∀ i reply, (s.threads i).phase = .answered reply → reply.requestId = some (keyOf lib ids i)

theorem streaming_correlates (distinct : Function.Injective (keyOf lib ids)) (streaming : Streaming lib encryption ids s) :
    Correlates lib encryption ids s := by
  refine ⟨fun i entry first entry' second own own' => ?_,fun i j different entry first entry' second own own' file has has' => ?_,
    streaming.filed.readable,fun reply inside => ?_,fun i reply answered => ?_⟩
  · exact streaming.filed.same entry first entry' second (own.trans own'.symm)
  · obtain ⟨owner,_,logged⟩ := streaming.filed.owned
    have one := (logged entry first file has).2
    have two := (logged entry' second file has').2
    exact different (distinct (own.symm.trans (one.symm.trans (two.trans own'))))
  · obtain ⟨i,sent,named⟩ := streaming.replies reply inside
    refine ⟨i,sent,fun j attempt queue waiting => ?_⟩
    have registered : s.world.client.pendingStreamingResponses.get (keyOf lib ids j) = some queue := by
      have ready := streaming.phases j
      rwa [waiting] at ready
    have found : reply.2.requestId.bind s.world.client.responseQueue =
        s.world.client.pendingStreamingResponses.get (keyOf lib ids i) := by
      rw [named,Option.bind_some,AoaClient.responseQueue,streaming.client.requests]
      rfl
    rw [found]
    constructor
    · intro other
      exact distinct (streaming.client.once _ _ queue registered other)
    · rintro rfl
      exact registered
  · have ready := streaming.phases i
    rwa [answered] at ready

theorem keys_distinct (distinct : Function.Injective ids) (stable : ∀ i, Correlatable (ids i))
    (collisionFree : ∀ i j, i ≠ j → aoaRequestIdLength < (ids i).length →
      toAoaStreamRequestId lib (ids i) ≠ toAoaStreamRequestId lib (ids j)) : Function.Injective (keyOf lib ids) := by
  intro i j same
  by_contra different
  rcases stable i with long | ⟨whole,_⟩
  · exact collisionFree i j different long same
  · rcases stable j with long | ⟨whole',_⟩
    · exact collisionFree j i (Ne.symm different) long same.symm
    · simp only [keyOf,toAoaStreamRequestId] at same
      rw [if_neg (by omega),if_neg (by omega),pad_whole whole,pad_whole whole'] at same
      exact different (distinct same)

variable [DecidableEq Index]

theorem asset_streaming {i : Index} {input : AssetInput} (distinct : Function.Injective (keyOf lib ids))
    (old : Streaming lib encryption ids s) (taken : (streams Index lib encryption).step s (.thread i input) = some s') :
    Streaming lib encryption ids s' := by
  obtain ⟨wire',asset',moved,rfl⟩ := thread_parts taken
  unfold assetStep at moved
  dsimp only at moved
  split at moved
  · cases moved
  · rename_i single
    obtain ⟨⟨client',phase'⟩,stepped,same⟩ := Option.map_eq_some_iff.mp moved
    cases same
    rw [old.assets i] at stepped
    have sends := upload_sends old.client (old.phases i) (streamId_length lib (ids i)) single stepped
    obtain ⟨added,queue,adds⟩ := sends.added
    have way : onTheWay {s.world with client:=client'} = onTheWay s.world ++ added := by
      simp only [onTheWay,queue,List.append_assoc]
    refine ⟨fun j => ?_,sends.fits,fun j => ?_,?_,fun j => ?_,filed_kept old.filed rfl rfl,old.replies⟩
    · by_cases here : j = i
      · subst j
        simpa using old.assets i
      · simpa [here] using old.assets j
    · by_cases here : j = i
      · subst j
        simpa using sends.ready
      · simp only [Function.update_of_ne here]
        exact phase_kept (sends.others _ fun same => here (distinct same)) (old.phases j)
    · rw [way]
      intro frame inside
      rcases List.mem_append.mp inside with before | fresh
      · exact old.frames frame before
      · cases adds with
        | nothing same => cases fresh
        | frame frame' kind own produced known moved =>
            cases List.mem_singleton.mp fresh
            exact ⟨i,kind,own,produced,known⟩
    · rw [way]
      obtain ⟨own,rest⟩ := order_added (j := j) distinct adds (old.order i)
      by_cases here : j = i
      · subst j
        simpa using own
      · simp only [Function.update_of_ne here,rest here]
        exact old.order j

theorem wire_streaming {event : WireEvent} (distinct : Function.Injective (keyOf lib ids)) (stable : ∀ i, Correlatable (ids i))
    (old : Streaming lib encryption ids s) (taken : (streams Index lib encryption).step s (.environment event) = some s') :
    Streaming lib encryption ids s' := by
  obtain ⟨wire',moved,rfl⟩ := environment_parts taken
  cases event with
  | write =>
      simp only [wireStep] at moved
      split at moved
      · rename_i frame rest queue
        cases moved
        exact write_streaming old queue
      · cases moved
  | receive routed =>
      simp only [wireStep] at moved
      split at moved
      · cases moved
      · split at moved
        · rename_i frame rest sent
          cases moved
          exact receive_streaming distinct stable old sent
        · cases moved
  | deliver =>
      simp only [wireStep] at moved
      split at moved
      · rename_i reply rest replies
        cases moved
        exact deliver_streaming old replies
      · cases moved

theorem streaming_kept (distinct : Function.Injective (keyOf lib ids)) (stable : ∀ i, Correlatable (ids i))
    (path : Reachable (streams Index lib encryption) (launched ids) s) : Streaming lib encryption ids s := by
  refine reaches_preserves (fun s move s' old _ taken => ?_) launched_streaming path
  cases move with
  | thread i input => exact asset_streaming distinct old taken
  | environment event => exact wire_streaming distinct stable old taken

structure Drained (wire : Wire) : Prop where
  queue : wire.client.outgoingQueue = []
  sent : wire.sent = []
  ended : wire.ended = false

theorem frame_arrives {payload : FramePayload} {seen : Nat} (routed : MobileTransportResponse) (drained : Drained s.world)
    (phase : s.threads i = ⟨ids i,.sending 0 payload seen⟩) :
    Reachable (streams Index lib encryption) s ⟨receiveFrame encryption routed s.world (frameOf (keyOf lib ids i) payload seen),
      Function.update s.threads i ⟨ids i,.between 0⟩⟩ := by
  obtain ⟨⟨client,sent,stream,ended,replies,log⟩,threads⟩ := s
  obtain ⟨queue,none,open'⟩ := drained
  simp only at queue none open' phase
  subst none open'
  have room : hasRoom client = true := by simp [hasRoom,queue,outgoingQueueCapacity]
  have same : {client with outgoingQueue:=[]} = client := by rw [← queue]
  let frame := frameOf (keyOf lib ids i) payload seen
  let sentBy := Function.update threads i ⟨ids i,.between 0⟩
  have queued : (streams Index lib encryption).step ⟨⟨client,[],stream,false,replies,log⟩,threads⟩ (.thread i .go) =
      some ⟨⟨client.enqueue frame,[],stream,false,replies,log⟩,sentBy⟩ := by
    simp [streams,pool,assetStep,phase,uploadInput,uploadStep,room,frame,sentBy,keyOf]
  have written : (streams Index lib encryption).step ⟨⟨client.enqueue frame,[],stream,false,replies,log⟩,sentBy⟩
      (.environment .write) = some ⟨⟨client,[frame],stream,false,replies,log⟩,sentBy⟩ := by
    simp [streams,pool,wireStep,AoaClient.enqueue,queue,same]
  have received : (streams Index lib encryption).step ⟨⟨client,[frame],stream,false,replies,log⟩,sentBy⟩
      (.environment (.receive routed)) =
        some ⟨receiveFrame encryption routed ⟨client,[],stream,false,replies,log⟩ frame,sentBy⟩ := by
    simp [streams,pool,wireStep]
  exact reaches_step (reaches_step (reaches_step reaches_refl trivial queued) trivial written) trivial received

theorem turn_arrives {wire : Wire} {threads : Index → Asset} {payload : FramePayload} {seen : Nat}
    {move : Move Index AssetInput WireEvent} (routed : MobileTransportResponse)
    (taken : (streams Index lib encryption).step s move =
      some ⟨wire,Function.update threads i ⟨ids i,.sending 0 payload seen⟩⟩) (drained : Drained wire) :
    Reachable (streams Index lib encryption) s ⟨receiveFrame encryption routed wire (frameOf (keyOf lib ids i) payload seen),
      Function.update threads i ⟨ids i,.between 0⟩⟩ := by
  have arrives : Reachable (streams Index lib encryption) ⟨wire,Function.update threads i ⟨ids i,.sending 0 payload seen⟩⟩ _ :=
    frame_arrives routed drained (Function.update_self i _ _)
  rw [Function.update_idem] at arrives
  exact (reaches_step reaches_refl trivial taken).trans arrives

theorem text_kept {wire : Wire} {frame : QueuedFrame} {envelope : Envelope} {routed : MobileTransportResponse}
    (text : frame.payload = .text envelope) :
    (receiveFrame encryption routed wire frame).client = wire.client ∧
      (receiveFrame encryption routed wire frame).sent = wire.sent ∧
      (receiveFrame encryption routed wire frame).ended = wire.ended := by
  simp [receiveFrame,text]

theorem chunk_begins {wire : Wire} {threads : Index → Asset} {content : Bytes} {queue : Nat}
    (connected : wire.client.state = .connected)
    (registered : wire.client.pendingStreamingResponses.get (keyOf lib ids i) = some queue) :
    (streams Index lib encryption).step ⟨wire,Function.update threads i ⟨ids i,.between 0⟩⟩ (.thread i (.chunk content)) =
      some ⟨wire,Function.update threads i ⟨ids i,.sending 0 (.binary content) wire.client.connectionGeneration⟩⟩ := by
  have entered : wire.client.enterSendChunk (toAoaStreamRequestId lib (ids i)) = .ok queue :=
    enterSendChunk_registered connected registered
  simp [streams,pool,assetStep,uploadInput,uploadStep,entered]

theorem first_frames (lib : Libraries) (encryption : PayloadEncryption) (ids : Index → String) (i : Index)
    (routed : MobileTransportResponse) :
    ∃ s start client seen, Reachable (streams Index lib encryption) (launched ids) s ∧
      start = receiveFrame encryption routed ⟨client,[],.new,false,[],[]⟩
        (frameOf (keyOf lib ids i) (.text (startEnvelope (keyOf lib ids i) [])) 2) ∧
      s.world = receiveFrame encryption routed start (frameOf (keyOf lib ids i) (.binary [1]) seen) := by
  obtain ⟨client,made⟩ : ∃ client, client = (connected.registerPendingStreamingResponse (keyOf lib ids i)).1 := ⟨_,rfl⟩
  have registered : client.pendingStreamingResponses.get (keyOf lib ids i) = some connected.nextQueue := by
    rw [made]
    exact get_put _ _ _
  have begun : (streams Index lib encryption).step (launched ids) (.thread i (.start [])) =
      some ⟨⟨client,[],.new,false,[],[]⟩,Function.update (launched ids).threads i
        ⟨ids i,.sending 0 (.text (startEnvelope (keyOf lib ids i) [])) 2⟩⟩ := by
    rw [made]
    rfl
  have started := turn_arrives routed begun ⟨by rw [made]; rfl,rfl,rfl⟩
  obtain ⟨start,opened⟩ : ∃ start, start = receiveFrame encryption routed ⟨client,[],.new,false,[],[]⟩
    (frameOf (keyOf lib ids i) (.text (startEnvelope (keyOf lib ids i) [])) 2) := ⟨_,rfl⟩
  rw [← opened] at started
  obtain ⟨phone,sent,open'⟩ : start.client = client ∧ start.sent = [] ∧ start.ended = false := by
    rw [opened]
    exact text_kept rfl
  have chunk : (streams Index lib encryption).step ⟨start,Function.update (launched ids).threads i ⟨ids i,.between 0⟩⟩
      (.thread i (.chunk [1])) = some ⟨start,Function.update (launched ids).threads i
        ⟨ids i,.sending 0 (.binary [1]) start.client.connectionGeneration⟩⟩ :=
    chunk_begins (by rw [phone,made]; rfl) (by rw [phone]; exact registered)
  have drained : Drained start := ⟨by rw [phone,made]; rfl,sent,open'⟩
  exact ⟨_,start,client,_,started.trans (turn_arrives routed chunk drained),opened,rfl⟩

section Misplaced
variable {wire : Wire} {frame : QueuedFrame} {routed : MobileTransportResponse} {metadata : Fields}

theorem start_unnamed (start : frame.payload = .text (startEnvelope key metadata)) (own : frame.requestId = key)
    (blank : strip key = "") : ⟨key,.start,none⟩ ∈ (receiveFrame encryption routed wire frame).log := by
  have kind : envelopeKind (startEnvelope key metadata) = some .start := kind_start key metadata
  have unnamed : extractRequestId (startEnvelope key metadata) = none := by simp [extractRequestId,startEnvelope,blank]
  simp [receiveFrame,start,kind,unnamed,resolution,own]

theorem start_stripped (start : frame.payload = .text (startEnvelope key metadata)) (own : frame.requestId = key)
    (named : strip key ≠ "") (readable : Readable encryption) :
    ⟨key,.start,some wire.stream.nextFile⟩ ∈ (receiveFrame encryption routed wire frame).log ∧
      ∀ other, other ≠ strip key →
        (receiveFrame encryption routed wire frame).stream.fileOf other = wire.stream.fileOf other := by
  have kind : envelopeKind (startEnvelope key metadata) = some .start := kind_start key metadata
  have name : extractRequestId (startEnvelope key metadata) = some (strip key) := by
    simp [extractRequestId,startEnvelope,named]
  obtain ⟨opened,read⟩ := readable (sentMetadata key metadata)
  simp only [receiveFrame,start,dispatch_start name,read,kind,name,own]
  exact ⟨by simp [resolution],fun other different => start_other different⟩

-- The envelopes name the stripped id, the chunks the padded one.
theorem stripped_apart (readable : Readable encryption) (unstripped : strip (keyOf lib ids i) ≠ keyOf lib ids i) :
    ∃ s, Reachable (streams Index lib encryption) (launched ids) s ∧ ¬ Correlates lib encryption ids s := by
  obtain ⟨s,start,client,seen,path,opened,chunked⟩ := first_frames lib encryption ids i ⟨200,[]⟩
  have log : s.world.log = ⟨keyOf lib ids i,.chunk,start.stream.fileOf (keyOf lib ids i)⟩ :: start.log := by
    rw [chunked]
    exact (receive_chunk rfl (frame_own i _ seen)).log
  refine ⟨s,path,fun correlates => ?_⟩
  by_cases blank : strip (keyOf lib ids i) = ""
  · have unnamed : ⟨keyOf lib ids i,.start,none⟩ ∈ start.log := by
      rw [opened]
      exact start_unnamed rfl (frame_own i _ 2) blank
    have resolved := correlates.resolved readable _ (log ▸ List.mem_cons_of_mem _ unnamed)
    cases resolved
  · obtain ⟨named,others⟩ : ⟨keyOf lib ids i,.start,some 0⟩ ∈ start.log ∧
        ∀ other, other ≠ strip (keyOf lib ids i) → start.stream.fileOf other = none := by
      rw [opened]
      exact start_stripped rfl (frame_own i _ 2) blank readable
    rw [others _ (Ne.symm unstripped)] at log
    have same := correlates.together i _ (log ▸ List.mem_cons_self) _ (log ▸ List.mem_cons_of_mem _ named) rfl rfl
    cases same

end Misplaced

-- An id with something to strip is the only way for the ends to disagree.
theorem streams_correlate (distinct : Function.Injective ids)
    (collisionFree : ∀ i j, i ≠ j → aoaRequestIdLength < (ids i).length →
      toAoaStreamRequestId lib (ids i) ≠ toAoaStreamRequestId lib (ids j)) :
    ((∀ i, Correlatable (ids i)) →
        ∀ s, Reachable (streams Index lib encryption) (launched ids) s → Correlates lib encryption ids s) ∧
      (Readable encryption →
        (∀ s, Reachable (streams Index lib encryption) (launched ids) s → Correlates lib encryption ids s) →
        ∀ i, Correlatable (ids i)) := by
  refine ⟨fun stable s path => ?_,fun readable correlates i => ?_⟩
  · have keys := keys_distinct distinct stable collisionFree
    exact streaming_correlates keys (streaming_kept keys stable path)
  · by_contra unstable
    obtain ⟨s,path,apart⟩ := stripped_apart readable fun stripped => unstable (strip_stream_iff.mp stripped)
    exact apart (correlates s path)

end Runs

section Samples
open UploadOutcomes

def plainPayloads : PayloadEncryption := ⟨fun metadata => .ok (metadata,none),fun _ content => .ok content⟩

theorem plain_readable : Readable plainPayloads := fun metadata => ⟨(metadata,none),rfl⟩

-- A short id, as the bare number of an asset.
theorem short_id_apart : ¬ ∀ ids : Unit → String, Function.Injective ids →
    ∀ s, Reachable (streams Unit sampleLibraries plainPayloads) (launched ids) s →
      Correlates sampleLibraries plainPayloads ids s := by
  intro all
  have unstripped : strip (keyOf sampleLibraries (fun _ : Unit => "1") ()) ≠ keyOf sampleLibraries (fun _ => "1") () := by
    decide
  obtain ⟨s,path,apart⟩ := stripped_apart plain_readable unstripped
  exact apart (all _ (fun _ _ _ => rfl) s path)

def twoIds : Fin 2 → String
  | 0 => "0f8fad5b-d9cb-469f-a165-70867728950e"
  | 1 => "content://media/external/images/media/1000000042"

theorem twoIds_correlatable (i : Fin 2) : Correlatable (twoIds i) := by
  match i with
  | 0 => exact .inr ⟨by decide,by decide⟩
  | 1 => exact .inl (by decide)

theorem twoIds_distinct : Function.Injective twoIds := by decide

theorem twoIds_collisionFree : ∀ i j : Fin 2, i ≠ j → aoaRequestIdLength < (twoIds i).length →
    toAoaStreamRequestId sampleLibraries (twoIds i) ≠ toAoaStreamRequestId sampleLibraries (twoIds j) := by decide +kernel

def both (input : AssetInput) : List (Move (Fin 2) AssetInput WireEvent) := [.thread 1 input,.thread 0 input]

def twice (event : WireEvent) : List (Move (Fin 2) AssetInput WireEvent) := [.environment event,.environment event]

-- Each of the frames of one upload comes between those of the other.
def interleaved : List (Move (Fin 2) AssetInput WireEvent) :=
  [.start [],.chunk [1],.complete].flatMap (fun input =>
      both input ++ both .go ++ twice .write ++ twice (.receive ⟨200,[]⟩)) ++
    twice .deliver ++ both .go ++ both .go

def bothAnswered (s : Streams (Fin 2)) : Bool := (List.finRange 2).all fun i => match (s.threads i).phase with
  | .answered _ => true
  | _ => false

theorem two_assets_correlate : ∃ s : Streams (Fin 2),
    Reachable (streams (Fin 2) sampleLibraries plainPayloads) (launched twoIds) s ∧ s.world.log.length = 6 ∧
      (∀ i, ∃ reply, (s.threads i).phase = .answered reply) ∧ Correlates sampleLibraries plainPayloads twoIds s := by
  obtain ⟨s,path,seen⟩ := checkedRun_exhibits (streams (Fin 2) sampleLibraries plainPayloads) (fun _ _ => True) (launched twoIds)
    interleaved (fun s => s.world.log.length = 6 && bothAnswered s) (by decide +kernel)
  simp only [Bool.and_eq_true,decide_eq_true_eq] at seen
  refine ⟨s,path,seen.1,fun i => ?_,(streams_correlate twoIds_distinct twoIds_collisionFree).1 twoIds_correlatable s path⟩
  have answered := List.all_eq_true.mp seen.2 i (List.mem_finRange i)
  split at answered
  · exact ⟨_,‹_›⟩
  · cases answered

end Samples

end ImageSearch.StreamCorrelation
