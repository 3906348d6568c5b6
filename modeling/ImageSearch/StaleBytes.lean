import ImageSearch.CorruptFrames
import ImageSearch.UsbAdapters

namespace ImageSearch.StaleBytes
open FrameStreams Payload AoaFrameCodec CorruptFrames UsbAdapters

-- json.loads of a payload decoded as UTF-8; none where either raises.
variable (loads : Bytes → Option Json) (sha256 : String → String) (config : UsbBootstrapConfig) (rand : String)

def frameMessage (frame : AoaFrame) : Message :=
  if frame.flags = aoaFrameFlagText then .text (String.ofList frame.requestId) (loads frame.payload)
  else .chunk (String.ofList frame.requestId) frame.payload

inductive Handshake where
  | waiting (decoder : AoaFrameDecoder)
  | returned
  | raised
  deriving DecidableEq

def concluded (answer : AuthAnswer) (decoder : AoaFrameDecoder) : Handshake :=
  match answer with
  | .ignored => .waiting decoder
  | .refused => .raised
  | .proof digest => if verifyAuthDigest sha256 config rand digest = .accepted then .returned else .raised

-- One turn of the loop of _auth_challenge: a read that times out or is empty changes nothing.
def receiveChunk (decoder : AoaFrameDecoder) (chunk : Bytes) : Handshake :=
  if chunk = [] then .waiting decoder
  else match decoder.feed chunk with
    | (.error _,_) => .waiting .new
    | (.ok frames,decoder) => concluded sha256 config rand (firstAnswer .aoa (frames.map (frameMessage loads))) decoder

def authChallenge : AoaFrameDecoder → List Bytes → Handshake
  | decoder,[] => .waiting decoder
  | decoder,chunk :: chunks => match receiveChunk loads sha256 config rand decoder chunk with
    | .waiting decoder => authChallenge decoder chunks
    | ended => ended

def decodedFrames : AoaFrameDecoder → List Bytes → List AoaFrame × AoaFrameDecoder
  | decoder,[] => ([],decoder)
  | decoder,chunk :: chunks =>
    if chunk = [] then decodedFrames decoder chunks
    else match decoder.feed chunk with
      | (.error _,_) => decodedFrames .new chunks
      | (.ok frames,decoder) => (frames ++ (decodedFrames decoder chunks).1,(decodedFrames decoder chunks).2)

variable {loads sha256 config rand}

theorem first_append (front back : List Message) : firstAnswer .aoa (front ++ back) =
    match firstAnswer .aoa front with
    | .ignored => firstAnswer .aoa back
    | answer => answer := by
  induction front with
  | nil => rfl
  | cons message front ih =>
    simp only [List.cons_append,firstAnswer]
    cases authAnswer .aoa message with
    | ignored => exact ih
    | refused => rfl
    | proof digest => rfl

-- The handshake follows the frames of the decoder, up to the first answer.
theorem challenge_decoded (decoder : AoaFrameDecoder) (chunks : List Bytes) :
    authChallenge loads sha256 config rand decoder chunks = concluded sha256 config rand
      (firstAnswer .aoa ((decodedFrames decoder chunks).1.map (frameMessage loads))) (decodedFrames decoder chunks).2 := by
  induction chunks generalizing decoder with
  | nil => rfl
  | cons chunk chunks ih =>
    by_cases empty : chunk = []
    · simp only [authChallenge,receiveChunk,decodedFrames,if_pos empty]
      exact ih decoder
    · simp only [authChallenge,receiveChunk,decodedFrames,if_neg empty]
      cases fed : decoder.feed chunk with
      | mk result later =>
        cases result with
        | error _ => exact ih _
        | ok frames =>
          dsimp only
          rw [List.map_append,first_append]
          cases firstAnswer .aoa (frames.map (frameMessage loads)) with
          | ignored => exact ih later
          | refused => rfl
          | proof digest =>
            simp only [concluded]
            by_cases accepted : verifyAuthDigest sha256 config rand digest = .accepted
            · simp only [if_pos accepted]
            · simp only [if_neg accepted]

section Bytes
variable {frame : AoaFrame} (valid : frame.Valid)
include valid

theorem id_byte {k : Nat} (first : 1 ≤ k) (last : k ≤ 36) :
    ∃ c ∈ frame.requestId, frame.wire[k]? = some (UInt8.ofNat c.toNat) := by
  have length := valid.idLength
  simp only [aoaRequestIdLength] at length
  obtain ⟨k,rfl⟩ := Nat.exists_eq_add_of_le' first
  have inside : k < frame.requestId.length := by omega
  refine ⟨frame.requestId[k],List.getElem_mem inside,?_⟩
  simp only [AoaFrame.wire,AoaFrame.header,List.cons_append,List.getElem?_cons_succ,List.append_assoc]
  rw [List.getElem?_append_left (by simpa [asciiBytes] using inside),asciiBytes,List.getElem?_map,
    List.getElem?_eq_getElem inside]
  rfl

theorem after_id (k : Nat) : frame.wire[37 + k]? =
    (toBytes 4 frame.payload.length ++ ([UInt8.ofNat frame.flags.toNat] ++ frame.payload))[k]? := by
  have length : (asciiBytes frame.requestId).length = 36 := by simp [asciiBytes,valid.idLength,aoaRequestIdLength]
  have place : 37 + k = (36 + k) + 1 := by omega
  simp only [AoaFrame.wire,AoaFrame.header,List.cons_append,List.append_assoc]
  rw [place,List.getElem?_cons_succ,List.getElem?_append_right (by omega),length,Nat.add_sub_cancel_left]

theorem length_byte : frame.wire[37]? = some (UInt8.ofNat (frame.payload.length / 256 ^ 3)) := by
  rw [after_id valid 0]
  rfl

theorem flag_byte : frame.wire[41]? = some (UInt8.ofNat frame.flags.toNat) := by
  rw [after_id valid 4]
  rfl

theorem payload_byte (k : Nat) : frame.wire[42 + k]? = frame.payload[k]? := by
  have place : 42 + k = 37 + (5 + k) := by omega
  rw [place,after_id valid,← List.append_assoc,List.getElem?_append_right (by simp)]
  simp

end Bytes

-- The phone's answer: a JSON text of printable characters, with the proof.
structure ChallengeResponse (loads : Bytes → Option Json) (sha256 : String → String) (config : UsbBootstrapConfig)
    (rand : String) where
  payload : Bytes
  fields : Fields
  digest : String
  parsed : loads payload = some (.object fields)
  proof : challengeProof fields = .proof digest
  accepted : verifyAuthDigest sha256 config rand digest = .accepted
  printable : ∀ b ∈ payload, 32 ≤ b.toNat
  small : payload.length < 2 ^ 29

def ChallengeResponse.frame (response : ChallengeResponse loads sha256 config rand) : AoaFrame :=
  ⟨aoaAuthChallengeRequestId.toList,aoaFrameFlagText,response.payload⟩

theorem response_valid (response : ChallengeResponse loads sha256 config rand) : response.frame.Valid where
  ascii := by change AsciiText aoaAuthChallengeRequestId.toList; decide +kernel
  idLength := by change aoaAuthChallengeRequestId.toList.length = 36; decide +kernel
  flag := .inl rfl
  fits := Nat.lt_trans response.small (by decide)

theorem id_printable : ∀ c ∈ aoaAuthChallengeRequestId.toList, 32 ≤ c.toNat ∧ c.toNat < 128 := by
  have checked : (aoaAuthChallengeRequestId.toList.all fun c => 32 ≤ c.toNat && c.toNat < 128) = true := by decide +kernel
  intro c member
  simpa using List.all_eq_true.mp checked c member

section Absorbed
variable {response : ChallengeResponse loads sha256 config rand} {buffer : Bytes} {frame : AoaFrame} {size : Nat}

theorem response_id {k : Nat} (first : 1 ≤ k) (last : k ≤ 36) : ∃ b, response.frame.wire[k]? = some b ∧ 32 ≤ b.toNat := by
  obtain ⟨c,member,here⟩ := id_byte (response_valid response) first last
  obtain ⟨printable,ascii⟩ := id_printable c member
  exact ⟨_,here,by rwa [small_byte ascii]⟩

-- After its first byte the answer looks like the start of a frame only within its length field.
theorem later_version {k : Nat} (later : 1 ≤ k) (one : response.frame.wire[k]? = some 1) : 37 ≤ k ∧ k ≤ 40 := by
  have valid := response_valid response
  by_cases id : k ≤ 36
  · obtain ⟨b,here,printable⟩ := @response_id _ _ _ _ response _ later id
    rw [here] at one
    cases one
    exact absurd printable (by decide)
  · by_cases flag : k = 41
    · subst flag
      rw [flag_byte valid] at one
      exact absurd one (by change ¬ some (UInt8.ofNat (0 : Int).toNat) = some 1; decide)
    · by_cases payload : 42 ≤ k
      · obtain ⟨k,rfl⟩ := Nat.exists_eq_add_of_le payload
        rw [payload_byte valid] at one
        have member := List.mem_of_getElem? one
        exact absurd (response.printable 1 member) (by decide)
      · omega

theorem cut_wire_parts {bytes : Bytes} (cut : AoaFrameCodec.cutFrame bytes = .frame frame size) :
    frame.Valid ∧ bytes.take size = frame.wire ∧ size = frame.wire.length := by
  obtain ⟨-,within⟩ := cutFrame_consumes cut
  unfold AoaFrameCodec.cutFrame at cut
  split at cut
  · cases cut
  · split at cut
    · cases cut
    · dsimp only at cut
      split at cut
      · cases cut
      · split at cut
        · cases cut
        · rename_i decoded
          cases cut
          obtain ⟨valid,wire⟩ := wire_decode decoded
          exact ⟨valid,wire,by rw [← wire,List.length_take_of_le within]⟩

theorem no_later_frame {k : Nat} (later : 1 ≤ k) :
    AoaFrameCodec.cutFrame (response.frame.wire.drop k) ≠ .frame frame size := by
  intro cut
  obtain ⟨valid,wire,length⟩ := cut_wire_parts cut
  have whole := response_valid response
  have total := wire_length whole
  have enough := wire_length valid
  have shorter : size ≤ response.frame.wire.length - k := by
    have taken := congrArg List.length wire
    rw [List.length_take,List.length_drop] at taken
    omega
  have reads : ∀ i, i < size → frame.wire[i]? = response.frame.wire[k + i]? := by
    intro i inside
    rw [← wire,List.getElem?_take_of_lt inside,List.getElem?_drop]
  simp only [aoaFrameHeaderSize] at total enough
  have starts : response.frame.wire[k]? = some 1 := by
    rw [← Nat.add_zero k,← reads 0 (by omega)]
    rfl
  obtain ⟨low,high⟩ := later_version later starts
  -- Its length field would lie in the answer's text.
  have declared := reads 37 (by omega)
  rw [length_byte valid,show k + 37 = 42 + (k - 5) by omega,payload_byte whole] at declared
  have printable := response.printable _ (List.mem_of_getElem? declared.symm)
  have fits := valid.fits
  have small := response.small
  have payload : response.frame.payload.length = response.payload.length := rfl
  simp only [UInt8.toNat_ofNat',Nat.reducePow] at printable
  omega

theorem no_frames {bytes : Bytes} (none_ : ∀ frame size, AoaFrameCodec.cutFrame bytes ≠ .frame frame size) :
    (frames.drain bytes).frames = [] := by
  cases cut : AoaFrameCodec.cutFrame bytes with
  | more => rw [@drain_more _ _ _ frames _ cut]
  | refuse error => rw [@drain_refuse _ _ _ frames _ _ cut]
  | frame frame size => exact absurd cut (none_ frame size)

theorem ignored_chunk (binary : frame.flags ≠ aoaFrameFlagText) : authAnswer .aoa (frameMessage loads frame) = .ignored := by
  rw [frameMessage,if_neg binary]
  rfl

theorem ignored_id (other : frame.requestId ≠ aoaAuthChallengeRequestId.toList) :
    authAnswer .aoa (frameMessage loads frame) = .ignored := by
  by_cases text : frame.flags = aoaFrameFlagText
  · have differs : String.ofList frame.requestId ≠ aoaAuthChallengeRequestId := by
      intro same
      apply other
      rw [← same,String.toList_ofList]
    rw [frameMessage,if_pos text]
    unfold authAnswer
    split
    · rename_i frameId fields same
      injection same with id
      rw [← id]
      exact if_neg differs
    · rfl
  · exact ignored_chunk text

theorem ignored_unread (unread : loads frame.payload = none) : authAnswer .aoa (frameMessage loads frame) = .ignored := by
  by_cases text : frame.flags = aoaFrameFlagText
  · rw [frameMessage,if_pos text,unread]
    rfl
  · exact ignored_chunk text

-- A frame that begins in the stale bytes and takes some of the answer is no answer itself.
theorem straddling_ignored (strict : ∀ bytes, (1 : UInt8) ∈ bytes → loads bytes = none) (some_ : 1 ≤ buffer.length)
    (cut : AoaFrameCodec.cutFrame (buffer ++ response.frame.wire) = .frame frame size) (straddles : buffer.length < size) :
    authAnswer .aoa (frameMessage loads frame) = .ignored := by
  obtain ⟨valid,wire,length⟩ := cut_wire_parts cut
  have whole := response_valid response
  have reads : ∀ i, buffer.length + i < size → frame.wire[buffer.length + i]? = response.frame.wire[i]? := by
    intro i inside
    rw [← wire,List.getElem?_take_of_lt inside,List.getElem?_append_right (by omega),Nat.add_sub_cancel_left]
  have enough := wire_length valid
  simp only [aoaFrameHeaderSize] at enough
  have one : frame.wire[buffer.length]? = some 1 := by
    rw [← Nat.add_zero buffer.length,reads 0 (by omega)]
    rfl
  by_cases id : buffer.length ≤ 36
  · obtain ⟨c,member,here⟩ := id_byte valid some_ id
    rw [one] at here
    have control : c.toNat = 1 := by
      have back := small_byte (valid.ascii c member)
      rw [← Option.some.inj here] at back
      exact back.symm
    refine ignored_id fun same => ?_
    rw [same] at member
    have printable := (id_printable c member).1
    omega
  · by_cases flag : buffer.length ≤ 41
    · by_cases last : buffer.length = 41
      · refine ignored_chunk fun text => ?_
        rw [last,flag_byte valid,text] at one
        exact absurd one (by decide)
      · -- The flag would be a letter of the answer's request id.
        obtain ⟨b,here,printable⟩ := @response_id _ _ _ _ response (41 - buffer.length) (by omega) (by omega)
        have read := reads (41 - buffer.length) (by omega)
        rw [show buffer.length + (41 - buffer.length) = 41 by omega,flag_byte valid,here] at read
        have letter := Option.some.inj read
        rcases valid.flag with text | binary
        · rw [text] at letter
          rw [← letter] at printable
          exact absurd printable (by decide)
        · rw [binary] at letter
          rw [← letter] at printable
          exact absurd printable (by decide)
    · obtain ⟨k,place⟩ := Nat.exists_eq_add_of_le (Nat.lt_of_not_le flag)
      rw [place,show Nat.succ 41 + k = 42 + k from rfl,payload_byte valid] at one
      exact ignored_unread (strict _ (List.mem_of_getElem? one))

theorem absorbed (strict : ∀ bytes, (1 : UInt8) ∈ bytes → loads bytes = none) (held : AoaFrameCodec.cutFrame buffer = .more)
    (some_ : buffer ≠ []) : ∀ frame ∈ (frames.drain (buffer ++ response.frame.wire)).frames,
      authAnswer .aoa (frameMessage loads frame) = .ignored := by
  cases cut : AoaFrameCodec.cutFrame (buffer ++ response.frame.wire) with
  | more => rw [@drain_more _ _ _ frames _ cut]; exact fun _ member => (nomatch member)
  | refuse error => rw [@drain_refuse _ _ _ frames _ _ cut]; exact fun _ member => (nomatch member)
  | frame first size =>
    have straddles : buffer.length < size := by
      by_contra inside
      obtain ⟨valid,wire,length⟩ := cut_wire_parts cut
      rw [List.take_append_of_le_length (Nat.le_of_not_lt inside)] at wire
      have split := List.take_append_drop size buffer
      rw [wire] at split
      rw [← split,cut_wire valid] at held
      cases held
    have rest : (buffer ++ response.frame.wire).drop size = response.frame.wire.drop (size - buffer.length) := by
      rw [List.drop_append,List.drop_eq_nil_of_le straddles.le,List.nil_append]
    have nothing : (frames.drain (response.frame.wire.drop (size - buffer.length))).frames = [] :=
      no_frames fun frame size => no_later_frame (by omega)
    rw [@drain_frame _ _ _ frames _ _ _ cut,rest,after_frames,nothing]
    intro frame member
    cases List.mem_singleton.mp member
    exact straddling_ignored strict (List.length_pos_iff.mpr some_) cut straddles

end Absorbed

-- The stale chunks end in no cut-off frame and hold no answer, unless an accepted one.
def Harmless (loads : Bytes → Option Json) (sha256 : String → String) (config : UsbBootstrapConfig) (rand : String)
    (stale : List Bytes) : Prop :=
  match firstAnswer .aoa ((decodedFrames .new stale).1.map (frameMessage loads)) with
  | .ignored => (decodedFrames .new stale).2.buffer = []
  | .refused => False
  | .proof digest => verifyAuthDigest sha256 config rand digest = .accepted

-- A frame that answers the challenge with this passcode and this random value.
def Answers (loads : Bytes → Option Json) (sha256 : String → String) (config : UsbBootstrapConfig) (rand : String)
    (frame : AoaFrame) : Prop :=
  frame.flags = aoaFrameFlagText ∧ frame.requestId = aoaAuthChallengeRequestId.toList ∧
    ∃ fields statusCode body proof, loads frame.payload = some (.object fields) ∧
      get fields "status_code" = .int statusCode ∧ 200 ≤ statusCode ∧ statusCode < 300 ∧ get fields "body" = .object body ∧
        get body "proof" = .string proof ∧ strip proof = sha256 (config.oneTimePasscode ++ rand)

theorem decoded_append (decoder : AoaFrameDecoder) (front back : List Bytes) : decodedFrames decoder (front ++ back) =
    ((decodedFrames decoder front).1 ++ (decodedFrames (decodedFrames decoder front).2 back).1,
      (decodedFrames (decodedFrames decoder front).2 back).2) := by
  induction front generalizing decoder with
  | nil => rfl
  | cons chunk front ih =>
    simp only [List.cons_append,decodedFrames]
    split
    · exact ih decoder
    · split
      · exact ih _
      · rename_i later _
        rw [ih later,List.append_assoc]

theorem decoded_held {decoder : AoaFrameDecoder} (held : AoaFrameCodec.cutFrame decoder.buffer = .more) (chunks : List Bytes) :
    AoaFrameCodec.cutFrame (decodedFrames decoder chunks).2.buffer = .more := by
  induction chunks generalizing decoder with
  | nil => exact held
  | cons chunk chunks ih =>
    simp only [decodedFrames]
    split
    · exact ih held
    · cases ended : (frames.drain (decoder.buffer ++ chunk)).error with
      | none =>
        obtain ⟨later,fed,rest⟩ := AoaFrameCodec.feed_reads.fine decoder chunk held ended
        rw [fed]
        exact ih (rest ▸ drained_settled ended)
      | some error =>
        obtain ⟨later,fed⟩ := AoaFrameCodec.feed_reads.raised decoder chunk error held ended
        rw [fed]
        exact ih frames.empty

theorem first_ignored {messages : List Message} (all : ∀ message ∈ messages, authAnswer .aoa message = .ignored) :
    firstAnswer .aoa messages = .ignored := by
  induction messages with
  | nil => rfl
  | cons message messages ih =>
    rw [firstAnswer,all message List.mem_cons_self]
    exact ih fun other member => all other (List.mem_cons_of_mem message member)

theorem response_answer (response : ChallengeResponse loads sha256 config rand) :
    authAnswer .aoa (frameMessage loads response.frame) = .proof response.digest := by
  have message : frameMessage loads response.frame = .text aoaAuthChallengeRequestId (some (.object response.fields)) := by
    rw [frameMessage,if_pos (show response.frame.flags = aoaFrameFlagText from rfl)]
    rw [show loads response.frame.payload = some (.object response.fields) from response.parsed]
    rw [show response.frame.requestId = aoaAuthChallengeRequestId.toList from rfl,String.ofList_toList]
  rw [message]
  unfold authAnswer
  dsimp only
  rw [if_pos rfl]
  exact response.proof

theorem first_proof {messages : List Message} {digest : String} (answer : firstAnswer .aoa messages = .proof digest) :
    ∃ message ∈ messages, authAnswer .aoa message = .proof digest := by
  induction messages with
  | nil => cases answer
  | cons message messages ih =>
    rw [firstAnswer] at answer
    split at answer
    · obtain ⟨other,member,here⟩ := ih answer
      exact ⟨other,List.mem_cons_of_mem message member,here⟩
    · exact ⟨message,List.mem_cons_self,answer⟩

theorem proof_parts {fields : Fields} {digest : String} (proof : challengeProof fields = .proof digest) :
    ∃ statusCode body proof, get fields "status_code" = .int statusCode ∧ 200 ≤ statusCode ∧ statusCode < 300 ∧
      get fields "body" = .object body ∧ get body "proof" = .string proof ∧ strip proof = digest := by
  unfold challengeProof at proof
  split at proof
  · rename_i statusCode body code inner
    split at proof
    · rename_i range
      split at proof
      · rename_i text sent
        split at proof
        · cases proof
        · cases proof
          exact ⟨statusCode,body,text,code,range.1,range.2,inner,sent,rfl⟩
      · cases proof
    · cases proof
  · cases proof

theorem frame_answers {frame : AoaFrame} {digest : String}
    (answer : authAnswer .aoa (frameMessage loads frame) = .proof digest)
    (accepted : verifyAuthDigest sha256 config rand digest = .accepted) : Answers loads sha256 config rand frame := by
  by_cases text : frame.flags = aoaFrameFlagText
  · by_cases id : frame.requestId = aoaAuthChallengeRequestId.toList
    · refine ⟨text,id,?_⟩
      rw [frameMessage,if_pos text,id,String.ofList_toList] at answer
      unfold authAnswer at answer
      split at answer
      · rename_i frameId fields same
        injection same with named value
        rw [← named] at answer
        dsimp only at answer
        rw [if_pos rfl] at answer
        obtain ⟨statusCode,body,proof,code,low,high,inner,sent,rfl⟩ := proof_parts answer
        exact ⟨fields,statusCode,body,proof,value,code,low,high,inner,sent,(accepted_proof accepted).symm⟩
      · cases answer
    · rw [ignored_id id] at answer
      cases answer
  · rw [ignored_chunk text] at answer
    cases answer

theorem concluded_returned {answer : AuthAnswer} {decoder : AoaFrameDecoder}
    (returned : concluded sha256 config rand answer decoder = .returned) :
    ∃ digest, answer = .proof digest ∧ verifyAuthDigest sha256 config rand digest = .accepted := by
  cases answer with
  | ignored => cases returned
  | refused => cases returned
  | proof digest =>
    refine ⟨digest,rfl,?_⟩
    by_contra wrong
    rw [concluded,if_neg wrong] at returned
    cases returned

theorem answer_last (strict : ∀ bytes, (1 : UInt8) ∈ bytes → loads bytes = none)
    (response : ChallengeResponse loads sha256 config rand) {decoder : AoaFrameDecoder}
    (held : AoaFrameCodec.cutFrame decoder.buffer = .more) :
    concluded sha256 config rand (firstAnswer .aoa ((decodedFrames decoder [response.frame.wire]).1.map (frameMessage loads)))
      (decodedFrames decoder [response.frame.wire]).2 = .returned ↔ decoder.buffer = [] := by
  have valid := response_valid response
  have some_ : response.frame.wire ≠ [] := List.cons_ne_nil _ _
  simp only [decodedFrames,if_neg some_]
  by_cases clear : decoder.buffer = []
  · have drained : frames.drain (decoder.buffer ++ response.frame.wire) = ⟨[response.frame],[],none⟩ := by
      have one := @drain_good [response.frame] (by simpa using valid) []
      rw [drain_more frames.empty] at one
      simpa [good,clear,Drained.after] using one
    have fed : decoder.feed response.frame.wire = (.ok [response.frame],⟨[]⟩) := by
      unfold AoaFrameDecoder.feed
      rw [drained]
      rfl
    rw [fed]
    simp only [List.append_nil,List.map_cons,List.map_nil,firstAnswer,response_answer]
    rw [concluded,if_pos response.accepted]
    exact ⟨fun _ => clear,fun _ => rfl⟩
  · refine ⟨fun returned => ?_,fun empty => absurd empty clear⟩
    have quiet := @absorbed _ _ _ _ response _ strict held clear
    exfalso
    cases ended : (frames.drain (decoder.buffer ++ response.frame.wire)).error with
    | none =>
      obtain ⟨later,fed,-⟩ := AoaFrameCodec.feed_reads.fine decoder response.frame.wire held ended
      rw [fed] at returned
      have ignored : firstAnswer .aoa (((frames.drain (decoder.buffer ++ response.frame.wire)).frames ++ []).map
          (frameMessage loads)) = .ignored := by
        apply first_ignored
        intro message member
        obtain ⟨frame,inside,rfl⟩ := List.mem_map.mp member
        rw [List.append_nil] at inside
        exact quiet frame inside
      dsimp only at returned
      rw [ignored] at returned
      cases returned
    | some error =>
      obtain ⟨later,fed⟩ := AoaFrameCodec.feed_reads.raised decoder response.frame.wire error held ended
      rw [fed] at returned
      cases returned

theorem session_named : strip "session" ≠ "" := by decide +kernel

theorem passcode_guarded : strip "passcode" ≠ "" := by decide +kernel

def sampleConfig : UsbBootstrapConfig := ⟨"session","passcode",5000,20,session_named,passcode_guarded⟩

def sampleLoads (bytes : Bytes) : Option Json :=
  if bytes = [109] then some (.object [("status_code",.int 200),("body",.object [("proof",.string "passcoderand")])]) else none

def sampleResponse : ChallengeResponse sampleLoads id sampleConfig "rand" where
  payload := [109]
  fields := [("status_code",.int 200),("body",.object [("proof",.string "passcoderand")])]
  digest := "passcoderand"
  parsed := rfl
  proof := by
    have stripped : strip "passcoderand" = "passcoderand" := by decide +kernel
    have some_ : strip "passcoderand" ≠ "" := by decide +kernel
    change (if strip "passcoderand" = "" then AuthAnswer.refused else .proof (strip "passcoderand")) = _
    rw [if_neg some_,stripped]
  accepted := by decide +kernel
  printable := List.forall_mem_singleton.mpr (by decide)
  small := by decide

end ImageSearch.StaleBytes
