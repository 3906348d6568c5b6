import ImageSearch.FrameStreams
import ImageSearch.Payload
import Mathlib.Tactic.Ring

namespace ImageSearch.AoaFrameCodec
open FrameStreams Payload

def aoaFrameVersion : UInt8 := 1
def aoaRequestIdLength : Nat := 36
def aoaFrameHeaderSize : Nat := 42
def aoaFrameFlagText : Int := 0
def aoaFrameFlagBinary : Int := 1

inductive AoaFrameError where
  | requestIdNotAscii
  | requestIdSize (got : Nat)
  | unsupportedFlags (flags : Int)
  | payloadTooLong
  | tooShort (length : Nat)
  | unsupportedVersion (version : Nat)
  | requestIdInvalid
  | lengthMismatch (declared actual : Nat)
  deriving DecidableEq, Repr

def AoaFrameError.message : AoaFrameError → String
  | .requestIdNotAscii => "AOA frame request_id is not valid ASCII."
  | .requestIdSize got => s!"AOA frame request_id must be {aoaRequestIdLength} ASCII bytes, got {got}."
  | .unsupportedFlags flags => s!"Unsupported AOA frame flags value: {flags}."
  | .payloadTooLong => "AOA frame payload exceeds 4 GB limit."
  | .tooShort length => s!"AOA frame is too short for header ({length} < {aoaFrameHeaderSize})."
  | .unsupportedVersion version => s!"Unsupported AOA frame version: {version}."
  | .requestIdInvalid => "AOA frame request_id length is invalid."
  | .lengthMismatch declared actual => s!"AOA frame payload length mismatch: declared {declared}, actual {actual}."

structure AoaFrame where
  requestId : List Char
  flags : Int
  payload : Bytes
  deriving DecidableEq, Repr

-- str.encode("ascii") and bytes.decode("ascii"); none where they raise.
def encodeAscii (text : List Char) : Option Bytes :=
  if text.all fun c => c.toNat < 128 then some (text.map fun c => UInt8.ofNat c.toNat) else none

def decodeAscii (bytes : Bytes) : Option (List Char) :=
  if bytes.all fun b => b.toNat < 128 then some (bytes.map fun b => Char.ofNat b.toNat) else none

def toBytes : Nat → Nat → Bytes
  | 0,_ => []
  | size + 1,n => UInt8.ofNat (n / 256 ^ size) :: toBytes size n

def fromBytes (bytes : Bytes) : Nat := bytes.foldl (fun n b => n * 256 + b.toNat) 0

def encodeAoaFrame (requestId : List Char) (payload : Bytes) (flags : Int) : Except AoaFrameError Bytes :=
  match encodeAscii requestId with
  | none => .error .requestIdNotAscii
  | some encodedId =>
    if encodedId.length ≠ aoaRequestIdLength then .error (.requestIdSize encodedId.length)
    else if flags ≠ aoaFrameFlagText ∧ flags ≠ aoaFrameFlagBinary then .error (.unsupportedFlags flags)
    else if payload.length > 0xFFFFFFFF then .error .payloadTooLong
    else .ok ([aoaFrameVersion] ++ encodedId ++ toBytes 4 payload.length ++ [UInt8.ofNat flags.toNat] ++ payload)

-- The fields of a header, where both codecs look for them.
def version (data : Bytes) : UInt8 := data.headD 0
def requestIdBytes (data : Bytes) : Bytes := (data.drop 1).take aoaRequestIdLength
def declaredLength (data : Bytes) : Nat := fromBytes ((data.drop (1 + aoaRequestIdLength)).take 4)
def flagsByte (data : Bytes) : UInt8 := data.getD (1 + aoaRequestIdLength + 4) 0

def decodeAoaFrame (data : Bytes) : Except AoaFrameError AoaFrame :=
  if data.length < aoaFrameHeaderSize then .error (.tooShort data.length)
  else if version data ≠ aoaFrameVersion then .error (.unsupportedVersion (version data).toNat)
  else match decodeAscii (requestIdBytes data) with
    | none => .error .requestIdNotAscii
    | some requestId =>
      if requestId.length ≠ aoaRequestIdLength then .error .requestIdInvalid
      else
        let flags : Int := (flagsByte data).toNat
        if flags ≠ aoaFrameFlagText ∧ flags ≠ aoaFrameFlagBinary then .error (.unsupportedFlags flags)
        else
          let payload := data.drop aoaFrameHeaderSize
          if payload.length ≠ declaredLength data then
            .error (.lengthMismatch (declaredLength data) payload.length)
          else .ok ⟨requestId,flags,payload⟩

def cutFrame (buffer : Bytes) : Cut AoaFrame AoaFrameError :=
  if buffer.length < aoaFrameHeaderSize then .more
  else if version buffer ≠ aoaFrameVersion then .refuse (.unsupportedVersion (version buffer).toNat)
  else
    let totalFrameSize := aoaFrameHeaderSize + declaredLength buffer
    if buffer.length < totalFrameSize then .more
    else match decodeAoaFrame (buffer.take totalFrameSize) with
      | .error error => .refuse error
      | .ok frame => .frame frame totalFrameSize

section Fields
variable {data later : Bytes} (long : aoaFrameHeaderSize ≤ data.length)
include long

theorem version_append : version (data ++ later) = version data := by
  cases data with
  | nil => simp [aoaFrameHeaderSize] at long
  | cons byte rest => rfl

theorem requestIdBytes_append : requestIdBytes (data ++ later) = requestIdBytes data := by
  simp only [aoaFrameHeaderSize] at long
  simp only [requestIdBytes,aoaRequestIdLength]
  rw [List.drop_append_of_le_length (by omega),List.take_append_of_le_length (by simp; omega)]

theorem declaredLength_append : declaredLength (data ++ later) = declaredLength data := by
  simp only [aoaFrameHeaderSize] at long
  simp only [declaredLength,aoaRequestIdLength]
  rw [List.drop_append_of_le_length (by omega),List.take_append_of_le_length (by simp; omega)]

theorem flagsByte_append : flagsByte (data ++ later) = flagsByte data := by
  simp only [aoaFrameHeaderSize] at long
  simp only [flagsByte,aoaRequestIdLength,List.getD]
  rw [List.getElem?_append_left (by omega)]

end Fields

theorem cutFrame_consumes {buffer : Bytes} {frame : AoaFrame} {size : Nat} (found : cutFrame buffer = .frame frame size) :
    0 < size ∧ size ≤ buffer.length := by
  unfold cutFrame at found
  split at found
  · cases found
  · split at found
    · cases found
    · simp only at found
      split at found
      · cases found
      · rename_i enough
        split at found
        · cases found
        · cases found
          exact ⟨by simp [aoaFrameHeaderSize],by omega⟩

theorem cutFrame_stable (buffer later : Bytes) (given : cutFrame buffer ≠ .more) :
    cutFrame (buffer ++ later) = cutFrame buffer := by
  by_cases short : buffer.length < aoaFrameHeaderSize
  · simp [cutFrame,short] at given
  · have long : aoaFrameHeaderSize ≤ buffer.length := by omega
    have longer : ¬ (buffer ++ later).length < aoaFrameHeaderSize := by simp; omega
    by_cases part : buffer.length < aoaFrameHeaderSize + declaredLength buffer
    · by_cases right : version buffer = aoaFrameVersion
      · simp [cutFrame,short,right,part] at given
      · have shorter : ¬ (buffer.length + later.length < aoaFrameHeaderSize) := by omega
        simp [cutFrame,short,shorter,version_append long,right]
    · have whole : ¬ (buffer ++ later).length < aoaFrameHeaderSize + declaredLength buffer := by simp; omega
      simp only [cutFrame,short,longer,if_false,version_append long,declaredLength_append long,part,whole]
      rw [List.take_append_of_le_length (by omega)]

def frames : Splitter UInt8 AoaFrame AoaFrameError where
  cut := cutFrame
  empty := rfl
  consumes := cutFrame_consumes
  stable := cutFrame_stable

structure AoaFrameDecoder where
  buffer : Bytes
  deriving DecidableEq, Repr

def AoaFrameDecoder.new : AoaFrameDecoder := ⟨[]⟩

-- The frames of a call that raises are lost; what follows them stays in the buffer.
def AoaFrameDecoder.feed (decoder : AoaFrameDecoder) (data : Bytes) :
    Except AoaFrameError (List AoaFrame) × AoaFrameDecoder :=
  let drained := frames.drain (decoder.buffer ++ data)
  (drained.error.elim (.ok drained.frames) .error,⟨drained.rest⟩)

theorem feed_reads : Reads frames AoaFrameDecoder.buffer AoaFrameDecoder.feed where
  fine decoder chunk _ ended := ⟨⟨_⟩,by simp only [AoaFrameDecoder.feed,ended,Option.elim_none],rfl⟩
  raised decoder chunk error _ ended := ⟨_,by simp only [AoaFrameDecoder.feed,ended,Option.elim_some]; rfl⟩

@[simp] theorem toBytes_length (size n : Nat) : (toBytes size n).length = size := by
  induction size with
  | zero => rfl
  | succ size ih => simp [toBytes,ih]

theorem fromBytes_step (size n acc : Nat) :
    (toBytes size n).foldl (fun n b => n * 256 + b.toNat) acc = acc * 256 ^ size + n % 256 ^ size := by
  induction size generalizing acc with
  | zero => simp [toBytes,Nat.mod_one]
  | succ size ih =>
      have digit : n % 256 ^ (size + 1) = n % 256 ^ size + 256 ^ size * (n / 256 ^ size % 256) := Nat.mod_pow_succ
      simp only [toBytes,List.foldl_cons,ih,UInt8.toNat_ofNat',digit,Nat.reducePow]
      ring

theorem from_toBytes (size n : Nat) (small : n < 256 ^ size) : fromBytes (toBytes size n) = n := by
  simp [fromBytes,fromBytes_step,Nat.mod_eq_of_lt small]

theorem fromBytes_small (bytes : Bytes) : fromBytes bytes < 256 ^ bytes.length := by
  have step : ∀ acc, bytes.foldl (fun n b => n * 256 + b.toNat) acc < (acc + 1) * 256 ^ bytes.length := by
    induction bytes with
    | nil => simp
    | cons b bytes ih =>
        intro acc
        have bound := b.toNat_lt
        have tail := ih (acc * 256 + b.toNat)
        have grown : (acc * 256 + b.toNat + 1) * 256 ^ bytes.length ≤ ((acc + 1) * 256) * 256 ^ bytes.length :=
          Nat.mul_le_mul_right _ (by omega)
        simp only [List.foldl_cons,List.length_cons,pow_succ]
        calc _ < (acc * 256 + b.toNat + 1) * 256 ^ bytes.length := tail
          _ ≤ ((acc + 1) * 256) * 256 ^ bytes.length := grown
          _ = (acc + 1) * (256 ^ bytes.length * 256) := by ring
  simpa [fromBytes] using step 0

-- to_bytes of what from_bytes reads; the accumulator is what was read before.
theorem to_fromBytes (bytes : Bytes) : toBytes bytes.length (fromBytes bytes) = bytes := by
  have step : ∀ acc, toBytes bytes.length (bytes.foldl (fun n b => n * 256 + b.toNat) acc) = bytes := by
    induction bytes with
    | nil => exact fun _ => rfl
    | cons b rest ih =>
        intro acc
        have shifted : rest.foldl (fun n b => n * 256 + b.toNat) (acc * 256 + b.toNat) =
            (acc * 256 + b.toNat) * 256 ^ rest.length + fromBytes rest := by
          have whole := fromBytes_step rest.length (fromBytes rest) (acc * 256 + b.toNat)
          have tail := ih (acc * 256 + b.toNat)
          have zero := ih 0
          rw [Nat.mod_eq_of_lt (fromBytes_small rest)] at whole
          rwa [show toBytes rest.length (fromBytes rest) = rest from zero] at whole
        have lead : ((acc * 256 + b.toNat) * 256 ^ rest.length + fromBytes rest) / 256 ^ rest.length =
            acc * 256 + b.toNat := by
          rw [Nat.mul_comm,Nat.mul_add_div (Nat.pow_pos (by decide)),Nat.div_eq_of_lt (fromBytes_small rest),Nat.add_zero]
        have digit : UInt8.ofNat (acc * 256 + b.toNat) = b := by
          apply UInt8.toNat_inj.mp
          have bound := b.toNat_lt
          simp only [UInt8.toNat_ofNat',Nat.reducePow]
          omega
        rw [List.foldl_cons,List.length_cons,toBytes,ih,shifted,lead,digit]
  exact step 0

def AsciiText (text : List Char) : Prop := ∀ c ∈ text, c.toNat < 128

instance (text : List Char) : Decidable (AsciiText text) := List.decidableBAll (fun c : Char => c.toNat < 128) text

def asciiBytes (text : List Char) : Bytes := text.map fun c => UInt8.ofNat c.toNat

theorem encode_ascii (text : List Char) :
    encodeAscii text = if AsciiText text then some (asciiBytes text) else none := by
  by_cases ascii : AsciiText text
  · rw [if_pos ascii,encodeAscii,if_pos (by simpa [AsciiText] using ascii)]
    rfl
  · rw [if_neg ascii,encodeAscii,if_neg (by simpa [AsciiText] using ascii)]

theorem small_byte {c : Char} (ascii : c.toNat < 128) : (UInt8.ofNat c.toNat).toNat = c.toNat := by
  simp only [UInt8.toNat_ofNat',Nat.reducePow]
  omega

theorem ascii_back {text : List Char} (ascii : AsciiText text) :
    (asciiBytes text).map (fun b => Char.ofNat b.toNat) = text := by
  induction text with
  | nil => rfl
  | cons c text ih =>
      have tail := ih fun other member => ascii other (by simp [member])
      have head := ascii c (by simp)
      simp only [asciiBytes,List.map_cons,small_byte head,Char.ofNat_toNat] at tail ⊢
      rw [tail]

theorem decode_ascii {text : List Char} (ascii : AsciiText text) : decodeAscii (asciiBytes text) = some text := by
  have small : ∀ b ∈ asciiBytes text, b.toNat < 128 := by
    intro b member
    obtain ⟨c,inside,rfl⟩ := List.mem_map.mp member
    rw [small_byte (ascii c inside)]
    exact ascii c inside
  rw [decodeAscii,if_pos (by simpa using small),ascii_back ascii]

structure AoaFrame.Valid (frame : AoaFrame) : Prop where
  ascii : AsciiText frame.requestId
  idLength : frame.requestId.length = aoaRequestIdLength
  flag : frame.flags = aoaFrameFlagText ∨ frame.flags = aoaFrameFlagBinary
  fits : frame.payload.length < 2 ^ 32

instance (frame : AoaFrame) : Decidable frame.Valid :=
  decidable_of_iff (AsciiText frame.requestId ∧ frame.requestId.length = aoaRequestIdLength ∧
    (frame.flags = aoaFrameFlagText ∨ frame.flags = aoaFrameFlagBinary) ∧ frame.payload.length < 2 ^ 32)
    ⟨fun ⟨a,b,c,d⟩ => ⟨a,b,c,d⟩,fun valid => ⟨valid.ascii,valid.idLength,valid.flag,valid.fits⟩⟩

def encoded (frame : AoaFrame) : Except AoaFrameError Bytes :=
  encodeAoaFrame frame.requestId frame.payload frame.flags

def AoaFrame.header (frame : AoaFrame) : Bytes :=
  aoaFrameVersion :: (asciiBytes frame.requestId ++ (toBytes 4 frame.payload.length ++ [UInt8.ofNat frame.flags.toNat]))

def AoaFrame.wire (frame : AoaFrame) : Bytes := frame.header ++ frame.payload

theorem encoded_exact {frame : AoaFrame} {bytes : Bytes} :
    encoded frame = .ok bytes ↔ frame.Valid ∧ bytes = frame.wire := by
  unfold encoded encodeAoaFrame
  rw [encode_ascii]
  by_cases ascii : AsciiText frame.requestId
  · have same : (asciiBytes frame.requestId).length = frame.requestId.length := by simp [asciiBytes]
    simp only [if_pos ascii,same]
    split
    · rename_i wrong
      simp only [reduceCtorEq,false_iff,not_and]
      intro valid
      exact absurd valid.idLength wrong
    · rename_i right
      split
      · rename_i wrong
        simp only [reduceCtorEq,false_iff,not_and]
        intro valid
        exact absurd valid.flag (not_or.mpr wrong)
      · rename_i flag
        split
        · rename_i long
          simp only [reduceCtorEq,false_iff,not_and]
          intro valid
          have := valid.fits
          omega
        · rename_i short
          have valid : frame.Valid := ⟨ascii,not_not.mp right,by
            by_contra neither
            exact flag (not_or.mp neither),by omega⟩
          have layout : [aoaFrameVersion] ++ asciiBytes frame.requestId ++ toBytes 4 frame.payload.length ++
              [UInt8.ofNat frame.flags.toNat] ++ frame.payload = frame.wire := by
            simp [AoaFrame.wire,AoaFrame.header]
          rw [layout]
          exact ⟨fun made => ⟨valid,(Except.ok.inj made).symm⟩,fun ⟨_,made⟩ => made ▸ rfl⟩
  · simp only [if_neg ascii,reduceCtorEq,false_iff,not_and]
    intro valid
    exact absurd valid.ascii ascii

section Wire
variable {frame : AoaFrame} (valid : frame.Valid)
include valid

theorem header_length : frame.header.length = aoaFrameHeaderSize := by
  simp [AoaFrame.header,asciiBytes,valid.idLength,aoaRequestIdLength,aoaFrameHeaderSize]

theorem wire_length : frame.wire.length = aoaFrameHeaderSize + frame.payload.length := by
  rw [AoaFrame.wire,List.length_append,header_length valid]

theorem header_id : requestIdBytes frame.header = asciiBytes frame.requestId := by
  have length : (asciiBytes frame.requestId).length = aoaRequestIdLength := by simp [asciiBytes,valid.idLength]
  rw [requestIdBytes,AoaFrame.header,List.drop_one,List.tail_cons,← length,List.take_left]

theorem header_declared : declaredLength frame.header = frame.payload.length := by
  have length : (asciiBytes frame.requestId).length = aoaRequestIdLength := by simp [asciiBytes,valid.idLength]
  have reached : frame.header.drop (1 + aoaRequestIdLength) =
      toBytes 4 frame.payload.length ++ [UInt8.ofNat frame.flags.toNat] := by
    rw [AoaFrame.header,Nat.add_comm,List.drop_succ_cons,← length,List.drop_left]
  have four : (toBytes 4 frame.payload.length).length = 4 := by simp
  rw [declaredLength,reached,List.take_append_of_le_length four.ge,List.take_of_length_le four.le]
  exact from_toBytes 4 _ (by have := valid.fits; omega)

theorem header_flags : flagsByte frame.header = UInt8.ofNat frame.flags.toNat := by
  have length : (asciiBytes frame.requestId).length = aoaRequestIdLength := by simp [asciiBytes,valid.idLength]
  simp only [flagsByte,AoaFrame.header,List.getD,aoaRequestIdLength] at length ⊢
  rw [List.getElem?_cons_succ,List.getElem?_append_right (by omega),List.getElem?_append_right (by simp; omega)]
  simp [length]

theorem flags_back : ((UInt8.ofNat frame.flags.toNat).toNat : Int) = frame.flags := by
  rcases valid.flag with text | binary
  · rw [text]; rfl
  · rw [binary]; rfl

theorem decode_wire : decodeAoaFrame frame.wire = .ok frame := by
  have long := (header_length valid).ge
  have length := wire_length valid
  have payload : frame.wire.drop aoaFrameHeaderSize = frame.payload := by
    rw [AoaFrame.wire,← header_length valid,List.drop_left]
  unfold decodeAoaFrame
  rw [if_neg (by omega)]
  simp only [payload]
  simp only [AoaFrame.wire,version_append long,requestIdBytes_append long,declaredLength_append long,flagsByte_append long,
    header_id valid,header_declared valid,header_flags valid,flags_back valid,decode_ascii valid.ascii]
  rw [if_neg (by simp [version,AoaFrame.header]),if_neg (not_not.mpr valid.idLength)]
  rw [if_neg (not_and_or.mpr (valid.flag.imp not_not.mpr not_not.mpr))]
  simp

theorem cut_wire (later : Bytes) : cutFrame (frame.wire ++ later) = .frame frame frame.wire.length := by
  have long := (header_length valid).ge
  have length := wire_length valid
  have declared : declaredLength frame.wire = frame.payload.length := by
    rw [AoaFrame.wire,declaredLength_append long,header_declared valid]
  have here : cutFrame frame.wire = .frame frame frame.wire.length := by
    unfold cutFrame
    rw [if_neg (by omega),if_neg (by simp [version,AoaFrame.wire,AoaFrame.header])]
    simp only [declared,← length,lt_irrefl,if_false,List.take_length,decode_wire valid]
  rw [cutFrame_stable _ _ (by simp [here]),here]

theorem cut_part {part : Bytes} (inside : part <+: frame.wire) (missing : part ≠ frame.wire) : cutFrame part = .more := by
  obtain ⟨tail,whole⟩ := inside
  have length := wire_length valid
  have more : 0 < tail.length := by
    rcases tail with _ | ⟨byte,tail⟩
    · exact absurd (by simpa using whole) missing
    · simp
  have sum : part.length + tail.length = frame.wire.length := by rw [← whole,List.length_append]
  unfold cutFrame
  by_cases short : part.length < aoaFrameHeaderSize
  · rw [if_pos short]
  · have long : aoaFrameHeaderSize ≤ part.length := by omega
    have right : version part = aoaFrameVersion := by
      rw [← version_append long,whole]
      rfl
    have declared : declaredLength part = frame.payload.length := by
      rw [← declaredLength_append long,whole,AoaFrame.wire,declaredLength_append (header_length valid).ge,header_declared valid]
    rw [if_neg short,if_neg (not_not.mpr right)]
    simp only [declared]
    rw [if_pos (by omega)]

end Wire

theorem mapM_encoded {fs : List AoaFrame} (valid : ∀ frame ∈ fs, frame.Valid) :
    fs.mapM encoded = .ok (fs.map AoaFrame.wire) := by
  induction fs with
  | nil => rfl
  | cons frame fs ih =>
      have head := encoded_exact.mpr ⟨valid frame (by simp),rfl⟩
      have tail := ih fun other member => valid other (by simp [member])
      rw [List.mapM_cons,head,tail]
      rfl

theorem chunks_decode {fs : List AoaFrame} (valid : ∀ frame ∈ fs, frame.Valid) {next : AoaFrame} (nextValid : next.Valid) :
    ∃ encodings last, fs.mapM encoded = .ok encodings ∧ encoded next = .ok last ∧
      ∀ part chunks, part <+: last → part ≠ last → chunks.flatten = encodings.flatten ++ part →
        (feedAll AoaFrameDecoder.feed .new chunks).error = none ∧
        (feedAll AoaFrameDecoder.feed .new chunks).returned.flatten = fs ∧
        (feedAll AoaFrameDecoder.feed .new chunks).decoder.buffer = part := by
  refine ⟨_,_,mapM_encoded valid,encoded_exact.mpr ⟨nextValid,rfl⟩,fun part chunks inside missing cut => ?_⟩
  have waits : frames.drain part = ⟨[],part,none⟩ := drain_more (cut_part nextValid inside missing)
  have whole : frames.drain chunks.flatten = ⟨fs,part,none⟩ := by
    rw [cut,drain_frames fun frame member => cut_wire (valid frame member),waits]
    simp [Drained.after]
  obtain ⟨lost,returned,error,fine⟩ := feedAll_drain feed_reads .new chunks frames.empty
  simp only [AoaFrameDecoder.new,List.nil_append,whole] at returned error fine
  obtain ⟨rfl,rest⟩ := fine error.symm
  exact ⟨error.symm,by rw [returned,List.append_nil]; rfl,rest.symm⟩

theorem ascii_bytes {bytes : Bytes} {text : List Char} (decoded : decodeAscii bytes = some text) :
    AsciiText text ∧ asciiBytes text = bytes := by
  unfold decodeAscii at decoded
  split at decoded
  · rename_i small
    cases decoded
    have back : ∀ b ∈ bytes, (Char.ofNat b.toNat).toNat = b.toNat := by
      intro b member
      have bound : b.toNat < 128 := by simpa using List.all_eq_true.mp small b member
      have valid : b.toNat.isValidChar := .inl (by omega)
      rw [Char.ofNat,dif_pos valid]
      rfl
    constructor
    · intro c member
      obtain ⟨b,inside,rfl⟩ := List.mem_map.mp member
      rw [back b inside]
      simpa using List.all_eq_true.mp small b inside
    · rw [asciiBytes,List.map_map]
      refine (List.map_congr_left fun b member => ?_).trans (List.map_id bytes)
      simp [back b member]
  · cases decoded

theorem data_parts {data : Bytes} (long : aoaFrameHeaderSize ≤ data.length) :
    data = version data :: (requestIdBytes data ++ ((data.drop (1 + aoaRequestIdLength)).take 4 ++ [flagsByte data])) ++
      data.drop aoaFrameHeaderSize := by
  cases data with
  | nil => simp [aoaFrameHeaderSize] at long
  | cons byte rest =>
      simp only [aoaFrameHeaderSize,List.length_cons] at long
      have id : requestIdBytes (byte :: rest) = rest.take 36 := rfl
      have length : (rest.drop 36).take 4 ++ (rest.drop 40).take 1 ++ rest.drop 41 = rest.drop 36 := by
        have four := List.take_append_drop 4 (rest.drop 36)
        have one := List.take_append_drop 1 (rest.drop 40)
        rw [List.drop_drop] at four one
        rw [List.append_assoc,one,four]
      have flag : [flagsByte (byte :: rest)] = (rest.drop 40).take 1 := by
        simp only [flagsByte,aoaRequestIdLength,List.getD,Nat.reduceAdd,List.getElem?_cons_succ]
        rw [List.getElem?_eq_getElem (by omega),Option.getD_some,List.drop_eq_getElem_cons (by omega)]
        rfl
      rw [id,flag,List.cons_append]
      refine congrArg₂ List.cons rfl ?_
      simp only [aoaRequestIdLength,aoaFrameHeaderSize,Nat.reduceAdd,List.drop_succ_cons,List.append_assoc]
      rw [← List.append_assoc ((rest.drop 36).take 4),length,List.take_append_drop]

theorem wire_decode {data : Bytes} {frame : AoaFrame} (decoded : decodeAoaFrame data = .ok frame) :
    frame.Valid ∧ data = frame.wire := by
  unfold decodeAoaFrame at decoded
  split at decoded
  · cases decoded
  · rename_i long
    split at decoded
    · cases decoded
    · rename_i right
      split at decoded
      · cases decoded
      · rename_i requestId read
        split at decoded
        · cases decoded
        · rename_i idLength
          dsimp only at decoded
          split at decoded
          · cases decoded
          · rename_i known
            split at decoded
            · cases decoded
            · rename_i exact
              cases decoded
              obtain ⟨ascii,bytes⟩ := ascii_bytes read
              have parts := data_parts (Nat.le_of_not_lt long)
              have flag : UInt8.ofNat ((flagsByte data).toNat : Int).toNat = flagsByte data := by simp
              have four : ((data.drop (1 + aoaRequestIdLength)).take 4).length = 4 := by
                simp only [aoaFrameHeaderSize] at long
                simp only [aoaRequestIdLength,List.length_take,List.length_drop]
                omega
              have declared : toBytes 4 (data.drop aoaFrameHeaderSize).length = (data.drop (1 + aoaRequestIdLength)).take 4 := by
                have back := to_fromBytes ((data.drop (1 + aoaRequestIdLength)).take 4)
                rw [four] at back
                rw [not_not.mp exact]
                exact back
              refine ⟨⟨ascii,not_not.mp idLength,?_,?_⟩,?_⟩
              · by_contra neither
                exact known (not_or.mp neither)
              · have small := fromBytes_small ((data.drop (1 + aoaRequestIdLength)).take 4)
                rw [four] at small
                change (data.drop aoaFrameHeaderSize).length < 2 ^ 32
                rw [not_not.mp exact]
                exact small
              · rw [AoaFrame.wire,AoaFrame.header,bytes,flag,declared,← not_not.mp right]
                exact parts

def sampleFrame : AoaFrame := ⟨List.replicate 36 'a',aoaFrameFlagText,[1]⟩

-- The decoder takes the encodings and nothing else.
theorem codec_bijective : (∀ frame bytes, encoded frame = .ok bytes → decodeAoaFrame bytes = .ok frame) ∧
    ∀ bytes frame, decodeAoaFrame bytes = .ok frame → encoded frame = .ok bytes := by
  constructor
  · intro frame bytes made
    obtain ⟨valid,rfl⟩ := encoded_exact.mp made
    exact decode_wire valid
  · intro bytes frame decoded
    exact encoded_exact.mpr (wire_decode decoded)

theorem sample_decoded : decodeAoaFrame sampleFrame.wire = .ok sampleFrame ∧ encoded sampleFrame = .ok sampleFrame.wire := by
  have made : encoded sampleFrame = .ok sampleFrame.wire := by decide
  have decoded := codec_bijective.1 sampleFrame sampleFrame.wire made
  exact ⟨decoded,codec_bijective.2 sampleFrame.wire sampleFrame decoded⟩

theorem chunks_decode_sample :
    ∃ encodings last, [sampleFrame].mapM encoded = .ok encodings ∧ encoded sampleFrame = .ok last ∧
      ∀ part chunks, part <+: last → part ≠ last → chunks.flatten = encodings.flatten ++ part →
        (feedAll AoaFrameDecoder.feed .new chunks).error = none ∧
        (feedAll AoaFrameDecoder.feed .new chunks).returned.flatten = [sampleFrame] ∧
        (feedAll AoaFrameDecoder.feed .new chunks).decoder.buffer = part :=
  chunks_decode (by decide) (by decide)

end ImageSearch.AoaFrameCodec
