import ImageSearch.AoaFrameCodec

namespace ImageSearch.PhoneFrameCodec
open FrameStreams Payload AoaFrameCodec

def frameVersion : Int := 1
def requestIdLength : Nat := 36
def headerLength : Nat := 1 + requestIdLength + 4 + 1
def frameFlagText : Int := 0
def frameFlagBinary : Int := 1
def maxPayloadLength : Nat := 16 * 1024 * 1024

-- The two last are the virtual machine's own, thrown by an allocation.
inductive AoaFrameCodecException where
  | requestIdSize (got : Nat)
  | requestIdNotAscii
  | unsupportedFlags (flags : Int)
  | tooShort (size : Nat)
  | unsupportedVersion (version : Int)
  | requestIdEmpty
  | lengthMismatch (declared : Int) (remaining : Nat)
  | lengthExceedsMaximum (declared : Int)
  | illegalCapacity
  | negativeArraySize
  deriving DecidableEq, Repr

def AoaFrameCodecException.message : AoaFrameCodecException → String
  | .requestIdSize got => s!"requestId must be exactly {requestIdLength} ASCII bytes, got {got}"
  | .requestIdNotAscii => "requestId must contain only ASCII characters"
  | .unsupportedFlags flags => s!"Unsupported AOA frame flags: {flags}"
  | .tooShort size => s!"AOA frame is too short for header ({size} < {headerLength})"
  | .unsupportedVersion version => s!"Unsupported AOA frame version: {version}"
  | .requestIdEmpty => "AOA frame requestId is empty"
  | .lengthMismatch declared remaining =>
    s!"AOA frame payload length mismatch: declared {declared}, remaining {remaining}"
  | .lengthExceedsMaximum declared =>
    s!"AOA frame payload length {declared} exceeds maximum allowed {maxPayloadLength}"
  | .illegalCapacity => "capacity < 0"
  | .negativeArraySize => "negative array size"

-- Kotlin's Byte and Int are signed.
def signedByte (b : UInt8) : Int := if b.toNat < 128 then b.toNat else (b.toNat : Int) - 256
def signedInt (n : Nat) : Int := if n < 2 ^ 31 then n else (n : Int) - 2 ^ 32

-- US_ASCII replaces what it cannot carry, in both directions.
def toAsciiBytes (text : List Char) : Bytes := text.map fun c => if c.toNat < 128 then UInt8.ofNat c.toNat else 0x3F
def fromAsciiBytes (bytes : Bytes) : List Char :=
  bytes.map fun b => if b.toNat < 128 then Char.ofNat b.toNat else Char.ofNat 0xFFFD

def encodeFrame (requestId : List Char) (payload : Bytes) (flags : Int) : Except AoaFrameCodecException Bytes :=
  let requestIdBytes := toAsciiBytes requestId
  if requestIdBytes.length ≠ requestIdLength then .error (.requestIdSize requestIdBytes.length)
  else if requestId.any fun c => c.toNat > 0x7F then .error .requestIdNotAscii
  else if flags ≠ frameFlagText ∧ flags ≠ frameFlagBinary then .error (.unsupportedFlags flags)
  -- The sum wraps to a negative capacity.
  else if 2 ^ 31 ≤ headerLength + payload.length then .error .illegalCapacity
  else .ok ([UInt8.ofNat frameVersion.toNat] ++ requestIdBytes ++ toBytes 4 payload.length ++
    [UInt8.ofNat flags.toNat] ++ payload)

def readPayloadLength (bytes : Bytes) : Int := signedInt (declaredLength bytes)

def decodeFrame (frame : Bytes) : Except AoaFrameCodecException AoaFrame :=
  if frame.length < headerLength then .error (.tooShort frame.length)
  else if signedByte (version frame) ≠ frameVersion then .error (.unsupportedVersion (signedByte (version frame)))
  else
    let requestId := fromAsciiBytes (requestIdBytes frame)
    if requestId.isEmpty then .error .requestIdEmpty
    else
      let payloadLength := readPayloadLength frame
      let flags := signedByte (flagsByte frame)
      if flags ≠ frameFlagText ∧ flags ≠ frameFlagBinary then .error (.unsupportedFlags flags)
      else
        let remaining := frame.drop headerLength
        if remaining.length < payloadLength then .error (.lengthMismatch payloadLength remaining.length)
        else if payloadLength < 0 then .error .negativeArraySize
        else .ok ⟨requestId,flags,remaining.take payloadLength.toNat⟩

def cutFrame (bytes : Bytes) : Cut AoaFrame AoaFrameCodecException :=
  if bytes.length < headerLength then .more
  else if signedByte (version bytes) ≠ frameVersion then .refuse (.unsupportedVersion (signedByte (version bytes)))
  else
    let flags := signedByte (flagsByte bytes)
    if flags ≠ frameFlagText ∧ flags ≠ frameFlagBinary then .refuse (.unsupportedFlags flags)
    else
      let payloadLength := readPayloadLength bytes
      if payloadLength < 0 ∨ payloadLength > maxPayloadLength then .refuse (.lengthExceedsMaximum payloadLength)
      else
        let frameLength := headerLength + payloadLength.toNat
        if bytes.length < frameLength then .more
        else match decodeFrame (bytes.take frameLength) with
          | .error error => .refuse error
          | .ok frame => .frame frame frameLength

theorem cutFrame_consumes {bytes : Bytes} {frame : AoaFrame} {size : Nat} (found : cutFrame bytes = .frame frame size) :
    0 < size ∧ size ≤ bytes.length := by
  unfold cutFrame at found
  simp only at found
  split at found
  · cases found
  · split at found
    · cases found
    · split at found
      · cases found
      · split at found
        · cases found
        · split at found
          · cases found
          · rename_i enough
            split at found
            · cases found
            · cases found
              exact ⟨by simp [headerLength],by omega⟩

theorem cutFrame_stable (bytes later : Bytes) (given : cutFrame bytes ≠ .more) :
    cutFrame (bytes ++ later) = cutFrame bytes := by
  by_cases short : bytes.length < headerLength
  · simp [cutFrame,short] at given
  · have long : aoaFrameHeaderSize ≤ bytes.length := by simp only [headerLength,requestIdLength] at short; simp only [aoaFrameHeaderSize]; omega
    have longer : ¬ (bytes ++ later).length < headerLength := by rw [List.length_append]; omega
    have declared : readPayloadLength (bytes ++ later) = readPayloadLength bytes := by
      rw [readPayloadLength,declaredLength_append long,readPayloadLength]
    unfold cutFrame at given ⊢
    simp only [short,longer,if_false,version_append long,flagsByte_append long,declared] at given ⊢
    split
    · rfl
    · split
      · rfl
      · split
        · rfl
        · rename_i right flag fits
          simp only [right,flag,fits,if_false] at given
          by_cases part : bytes.length < headerLength + (readPayloadLength bytes).toNat
          · simp [part] at given
          · have whole : ¬ (bytes ++ later).length < headerLength + (readPayloadLength bytes).toNat := by
              rw [List.length_append]; omega
            rw [if_neg part,if_neg whole,List.take_append_of_le_length (by omega)]

def phoneFrames : Splitter UInt8 AoaFrame AoaFrameCodecException where
  cut := cutFrame
  empty := rfl
  consumes := cutFrame_consumes
  stable := cutFrame_stable

structure StreamDecoder where
  buffer : Bytes
  deriving DecidableEq, Repr

def StreamDecoder.new : StreamDecoder := ⟨[]⟩

-- The buffer is replaced after the loop only: an exception leaves it all there.
def StreamDecoder.feed (decoder : StreamDecoder) (data : Bytes) :
    Except AoaFrameCodecException (List AoaFrame) × StreamDecoder :=
  if data.isEmpty then (.ok [],decoder)
  else
    let bytes := decoder.buffer ++ data
    let drained := phoneFrames.drain bytes
    match drained.error with
    | some error => (.error error,⟨bytes⟩)
    | none => (.ok drained.frames,⟨drained.rest⟩)

theorem feed_reads : Reads phoneFrames StreamDecoder.buffer StreamDecoder.feed where
  fine decoder chunk settled ended := by
    cases chunk with
    | nil =>
        have still : phoneFrames.drain (decoder.buffer ++ []) = ⟨[],decoder.buffer,none⟩ := by
          rw [List.append_nil]
          exact drain_more settled
        exact ⟨decoder,by rw [still]; rfl,by rw [still]⟩
    | cons byte chunk => exact ⟨⟨_⟩,by simp only [StreamDecoder.feed,List.isEmpty_cons,ended]; rfl,rfl⟩
  raised decoder chunk error settled ended := by
    cases chunk with
    | nil =>
        rw [List.append_nil,drain_more settled] at ended
        cases ended
    | cons byte chunk => exact ⟨_,by simp only [StreamDecoder.feed,List.isEmpty_cons,ended]; rfl⟩

def Opened (bytes : Bytes) : Prop := headerLength ≤ bytes.length ∧ version bytes = aoaFrameVersion
def FlagKnown (bytes : Bytes) : Prop := flagsByte bytes = 0 ∨ flagsByte bytes = 1
def AsciiId (bytes : Bytes) : Prop := Opened bytes → ∀ b ∈ requestIdBytes bytes, b.toNat < 128

-- The headers that the phone alone turns away before their payload is in.
def TurnedAway (bytes : Bytes) : Prop := Opened bytes ∧ (¬ FlagKnown bytes ∨ maxPayloadLength < declaredLength bytes)

instance (bytes : Bytes) : Decidable (Opened bytes) :=
  inferInstanceAs (Decidable (headerLength ≤ bytes.length ∧ version bytes = aoaFrameVersion))
instance (bytes : Bytes) : Decidable (FlagKnown bytes) := inferInstanceAs (Decidable (flagsByte bytes = 0 ∨ flagsByte bytes = 1))
instance (bytes : Bytes) : Decidable (AsciiId bytes) :=
  have : Decidable (∀ b ∈ requestIdBytes bytes, b.toNat < 128) :=
    List.decidableBAll (fun b => b.toNat < 128) (requestIdBytes bytes)
  inferInstanceAs (Decidable (Opened bytes → ∀ b ∈ requestIdBytes bytes, b.toNat < 128))
instance (bytes : Bytes) : Decidable (TurnedAway bytes) :=
  inferInstanceAs (Decidable (Opened bytes ∧ (¬ FlagKnown bytes ∨ maxPayloadLength < declaredLength bytes)))

theorem signedByte_one (b : UInt8) : signedByte b = 1 ↔ b = 1 := by
  have bound := b.toNat_lt
  rw [← UInt8.toNat_inj]
  simp only [signedByte,UInt8.reduceToNat]
  split <;> omega

theorem signedByte_zero (b : UInt8) : signedByte b = 0 ↔ b = 0 := by
  have bound := b.toNat_lt
  rw [← UInt8.toNat_inj]
  simp only [signedByte,UInt8.reduceToNat]
  split <;> omega

theorem unsignedByte_one (b : UInt8) : ((b.toNat : Int) = 1) ↔ b = 1 := by
  rw [← UInt8.toNat_inj]
  simp

theorem unsignedByte_zero (b : UInt8) : ((b.toNat : Int) = 0) ↔ b = 0 := by
  rw [← UInt8.toNat_inj]
  simp

theorem declared_bound (bytes : Bytes) : declaredLength bytes < 2 ^ 32 := by
  have small := fromBytes_small ((bytes.drop (1 + aoaRequestIdLength)).take 4)
  have four : ((bytes.drop (1 + aoaRequestIdLength)).take 4).length ≤ 4 := List.length_take_le _ _
  calc declaredLength bytes < 256 ^ _ := small
    _ ≤ 256 ^ 4 := Nat.pow_le_pow_right (by decide) four
    _ = 2 ^ 32 := by norm_num

def frameOf (bytes : Bytes) : AoaFrame :=
  ⟨fromAsciiBytes (requestIdBytes bytes),(flagsByte bytes).toNat,(bytes.drop aoaFrameHeaderSize).take (declaredLength bytes)⟩

theorem ascii_lossless {bytes : Bytes} (ascii : ∀ b ∈ bytes, b.toNat < 128) :
    decodeAscii bytes = some (fromAsciiBytes bytes) := by
  rw [decodeAscii,if_pos (by simpa using ascii),fromAsciiBytes]
  exact congrArg some (List.map_congr_left fun b member => (if_pos (ascii b member)).symm)

theorem phone_flag (bytes : Bytes) :
    signedByte (flagsByte bytes) = frameFlagText ∨ signedByte (flagsByte bytes) = frameFlagBinary ↔ FlagKnown bytes := by
  simp only [frameFlagText,frameFlagBinary,signedByte_zero,signedByte_one,FlagKnown]

theorem desktop_flag (bytes : Bytes) : ((flagsByte bytes).toNat : Int) = aoaFrameFlagText ∨
    ((flagsByte bytes).toNat : Int) = aoaFrameFlagBinary ↔ FlagKnown bytes := by
  simp only [aoaFrameFlagText,aoaFrameFlagBinary,unsignedByte_zero,unsignedByte_one,FlagKnown]

section Whole
variable {bytes : Bytes} (opened : Opened bytes)
include opened

theorem opened_long : aoaFrameHeaderSize ≤ bytes.length := opened.1

theorem id_length : (requestIdBytes bytes).length = aoaRequestIdLength := by
  have long := opened_long opened
  simp only [aoaFrameHeaderSize] at long
  simp only [requestIdBytes,aoaRequestIdLength,List.length_take,List.length_drop]
  omega

theorem cut_waits (part : bytes.length < aoaFrameHeaderSize + declaredLength bytes) : AoaFrameCodec.cutFrame bytes = .more := by
  simp [AoaFrameCodec.cutFrame,opened.2,part]

theorem opened_append (later : Bytes) : Opened (bytes ++ later) :=
  ⟨by rw [List.length_append]; have := opened.1; omega,by rw [version_append opened.1,opened.2]⟩

theorem whole_parts (whole : aoaFrameHeaderSize + declaredLength bytes ≤ bytes.length) :
    ∃ data later, bytes = data ++ later ∧ Opened data ∧ data.length = aoaFrameHeaderSize + declaredLength data ∧
      requestIdBytes bytes = requestIdBytes data ∧ flagsByte bytes = flagsByte data ∧
      declaredLength bytes = declaredLength data ∧ frameOf bytes = frameOf data := by
  obtain ⟨data,later,split,length⟩ : ∃ data later, bytes = data ++ later ∧
      data.length = aoaFrameHeaderSize + declaredLength bytes :=
    ⟨bytes.take _,bytes.drop _,(List.take_append_drop _ _).symm,List.length_take_of_le whole⟩
  have long : aoaFrameHeaderSize ≤ data.length := by omega
  have declared : declaredLength bytes = declaredLength data := by rw [split,declaredLength_append long]
  have id : requestIdBytes bytes = requestIdBytes data := by rw [split,requestIdBytes_append long]
  have flags : flagsByte bytes = flagsByte data := by rw [split,flagsByte_append long]
  have payload : (bytes.drop aoaFrameHeaderSize).take (declaredLength bytes) =
      (data.drop aoaFrameHeaderSize).take (declaredLength data) := by
    rw [declared,split,List.drop_append_of_le_length long,List.take_append_of_le_length (by simp; omega)]
  refine ⟨data,later,split,⟨long,?_⟩,declared ▸ length,id,flags,declared,?_⟩
  · rw [← version_append long,← split,opened.2]
  · rw [frameOf,frameOf,id,flags,payload]

theorem cut_exact (ascii : AsciiId bytes) (flag : FlagKnown bytes)
    (exact : bytes.length = aoaFrameHeaderSize + declaredLength bytes) :
    AoaFrameCodec.cutFrame bytes = .frame (frameOf bytes) bytes.length := by
  have long := opened_long opened
  have known := (desktop_flag bytes).mpr flag
  have id := id_length opened
  have payload : (bytes.drop aoaFrameHeaderSize).length = declaredLength bytes := by rw [List.length_drop]; omega
  have decoded : decodeAoaFrame bytes = .ok (frameOf bytes) := by
    unfold decodeAoaFrame
    rw [if_neg (by omega),if_neg (not_not.mpr opened.2),ascii_lossless (ascii opened)]
    simp only
    rw [if_neg (by simp [fromAsciiBytes,id]),if_neg (not_and_or.mpr (known.imp not_not.mpr not_not.mpr)),
      if_neg (not_not.mpr payload),frameOf,List.take_of_length_le payload.le]
  unfold AoaFrameCodec.cutFrame
  rw [if_neg (by omega),if_neg (not_not.mpr opened.2)]
  simp only [← exact,lt_irrefl,if_false,List.take_length,decoded]

theorem cut_whole (ascii : AsciiId bytes) (flag : FlagKnown bytes)
    (whole : aoaFrameHeaderSize + declaredLength bytes ≤ bytes.length) :
    AoaFrameCodec.cutFrame bytes = .frame (frameOf bytes) (aoaFrameHeaderSize + declaredLength bytes) := by
  obtain ⟨data,later,split,dataOpened,exact,id,flags,declared,frame⟩ := whole_parts opened whole
  have cut := cut_exact dataOpened (fun _ => id ▸ ascii opened) (by rwa [FlagKnown,← flags]) exact
  rw [frame,declared,← exact,← cut,split]
  exact AoaFrameCodec.cutFrame_stable data later (by simp [cut])

theorem phone_turns_away (away : TurnedAway bytes) : ∃ error, PhoneFrameCodec.cutFrame bytes = .refuse error := by
  have long := opened.1
  have version : signedByte (version bytes) = frameVersion := (signedByte_one _).mpr opened.2
  unfold PhoneFrameCodec.cutFrame
  rw [if_neg (by omega),if_neg (not_not.mpr version)]
  simp only
  split
  · exact ⟨_,rfl⟩
  · rename_i flag
    rcases away.2 with unknown | long
    · exact absurd (not_or.mp (mt (phone_flag bytes).mp unknown)) flag
    · have bound := declared_bound bytes
      rw [if_pos]
      · exact ⟨_,rfl⟩
      · simp only [readPayloadLength,signedInt]
        split <;> omega

theorem phone_kept (kept : ¬ TurnedAway bytes) : PhoneFrameCodec.cutFrame bytes =
    if bytes.length < aoaFrameHeaderSize + declaredLength bytes then .more
    else match decodeFrame (bytes.take (aoaFrameHeaderSize + declaredLength bytes)) with
      | .error error => .refuse error
      | .ok frame => .frame frame (aoaFrameHeaderSize + declaredLength bytes) := by
  have long := opened.1
  have version : signedByte (version bytes) = frameVersion := (signedByte_one _).mpr opened.2
  have fine : FlagKnown bytes ∧ declaredLength bytes ≤ maxPayloadLength := by
    simpa [TurnedAway,opened] using kept
  have flag := (phone_flag bytes).mpr fine.1
  have length : readPayloadLength bytes = declaredLength bytes := by
    have small := fine.2
    simp only [maxPayloadLength] at small
    rw [readPayloadLength,signedInt,if_pos (by omega)]
  unfold PhoneFrameCodec.cutFrame
  rw [if_neg (by omega),if_neg (not_not.mpr version)]
  simp only [length]
  rw [if_neg (not_and_or.mpr (flag.imp not_not.mpr not_not.mpr)),if_neg (by have := fine.2; omega)]
  rfl

theorem phone_waits (kept : ¬ TurnedAway bytes) (part : bytes.length < aoaFrameHeaderSize + declaredLength bytes) :
    PhoneFrameCodec.cutFrame bytes = .more := by
  rw [phone_kept opened kept,if_pos part]

theorem decodeFrame_exact (flag : FlagKnown bytes) (fits : declaredLength bytes < 2 ^ 31)
    (exact : bytes.length = aoaFrameHeaderSize + declaredLength bytes) : decodeFrame bytes = .ok (frameOf bytes) := by
  have long := opened.1
  have version : signedByte (version bytes) = frameVersion := (signedByte_one _).mpr opened.2
  have known := (phone_flag bytes).mpr flag
  have same : signedByte (flagsByte bytes) = (flagsByte bytes).toNat := by
    rcases flag with zero | one
    · rw [zero]; rfl
    · rw [one]; rfl
  have length : readPayloadLength bytes = declaredLength bytes := by
    rw [readPayloadLength,signedInt,if_pos fits]
  have remaining : (bytes.drop headerLength).length = declaredLength bytes := by
    have : headerLength = aoaFrameHeaderSize := rfl
    rw [List.length_drop]
    omega
  have id : (fromAsciiBytes (requestIdBytes bytes)).isEmpty = false := by
    have positive := id_length opened
    cases ids : requestIdBytes bytes with
    | nil => rw [ids] at positive; cases positive
    | cons b rest => rfl
  unfold decodeFrame
  rw [if_neg (by omega),if_neg (not_not.mpr version)]
  simp only [id,length,remaining,Bool.false_eq_true,if_false]
  rw [if_neg (not_and_or.mpr (known.imp not_not.mpr not_not.mpr)),if_neg (lt_irrefl _),if_neg (by omega),same]
  rfl

theorem phone_whole (kept : ¬ TurnedAway bytes) (whole : aoaFrameHeaderSize + declaredLength bytes ≤ bytes.length) :
    PhoneFrameCodec.cutFrame bytes = .frame (frameOf bytes) (aoaFrameHeaderSize + declaredLength bytes) := by
  obtain ⟨data,later,split,dataOpened,exact,id,flags,declared,frame⟩ := whole_parts opened whole
  have fine : FlagKnown bytes ∧ declaredLength bytes ≤ maxPayloadLength := by
    simpa [TurnedAway,opened] using kept
  have small := fine.2
  simp only [maxPayloadLength] at small
  have decoded := decodeFrame_exact dataOpened (by rw [FlagKnown,← flags]; exact fine.1) (by omega) exact
  have taken : bytes.take (aoaFrameHeaderSize + declaredLength bytes) = data := by
    rw [declared,← exact,split,List.take_left]
  rw [phone_kept opened kept,if_neg (by omega),taken,decoded,frame]

end Whole

theorem not_opened {bytes : Bytes} (closed : ¬ Opened bytes) :
    (AoaFrameCodec.cutFrame bytes = .more ∧ PhoneFrameCodec.cutFrame bytes = .more) ∨
      ∃ error error', AoaFrameCodec.cutFrame bytes = .refuse error ∧ PhoneFrameCodec.cutFrame bytes = .refuse error' := by
  by_cases long : headerLength ≤ bytes.length
  · have wrong : version bytes ≠ aoaFrameVersion := fun right => closed ⟨long,right⟩
    have wrong' : signedByte (version bytes) ≠ frameVersion := fun right => wrong ((signedByte_one _).mp right)
    have notShort : ¬ bytes.length < headerLength := by omega
    have notShort' : ¬ bytes.length < aoaFrameHeaderSize := notShort
    exact .inr ⟨_,_,by rw [AoaFrameCodec.cutFrame,if_neg notShort',if_pos wrong],
      by rw [PhoneFrameCodec.cutFrame,if_neg notShort,if_pos wrong']⟩
  · have short : bytes.length < headerLength := by omega
    have short' : bytes.length < aoaFrameHeaderSize := short
    exact .inl ⟨by rw [AoaFrameCodec.cutFrame,if_pos short'],by rw [PhoneFrameCodec.cutFrame,if_pos short]⟩

theorem same_cut {bytes : Bytes} (opened : Opened bytes) (ascii : AsciiId bytes) (kept : ¬ TurnedAway bytes) :
    (AoaFrameCodec.cutFrame bytes = .more ∧ PhoneFrameCodec.cutFrame bytes = .more) ∨
      ∃ frame size, AoaFrameCodec.cutFrame bytes = .frame frame size ∧ PhoneFrameCodec.cutFrame bytes = .frame frame size := by
  by_cases whole : aoaFrameHeaderSize + declaredLength bytes ≤ bytes.length
  · have flag : FlagKnown bytes := not_not.mp fun unknown => kept ⟨opened,.inl unknown⟩
    exact .inr ⟨_,_,cut_whole opened ascii flag whole,phone_whole opened kept whole⟩
  · exact .inl ⟨cut_waits opened (by omega),phone_waits opened kept (by omega)⟩

theorem phone_within {bytes : Bytes} (ascii : AsciiId bytes) :
    (AoaFrameCodec.cutFrame bytes).Within (PhoneFrameCodec.cutFrame bytes) := by
  by_cases opened : Opened bytes
  · by_cases away : TurnedAway bytes
    · obtain ⟨error,refused⟩ := phone_turns_away opened away
      cases desktop : AoaFrameCodec.cutFrame bytes <;> simp [refused,Cut.Within]
    · rcases same_cut opened ascii away with ⟨one,two⟩ | ⟨frame,size,one,two⟩ <;> simp [one,two,Cut.Within]
  · rcases not_opened opened with ⟨one,two⟩ | ⟨error,error',one,two⟩ <;> simp [one,two,Cut.Within]

theorem desktop_within {bytes : Bytes} (ascii : AsciiId bytes) (kept : ¬ TurnedAway bytes) :
    (PhoneFrameCodec.cutFrame bytes).Within (AoaFrameCodec.cutFrame bytes) := by
  by_cases opened : Opened bytes
  · rcases same_cut opened ascii kept with ⟨one,two⟩ | ⟨frame,size,one,two⟩ <;> simp [one,two,Cut.Within]
  · rcases not_opened opened with ⟨one,two⟩ | ⟨error,error',one,two⟩ <;> simp [one,two,Cut.Within]

theorem prefix_opened {seen rest : Bytes} (inside : seen <+: rest) (opened : Opened seen) : Opened rest ∧
    requestIdBytes rest = requestIdBytes seen ∧ flagsByte rest = flagsByte seen ∧ declaredLength rest = declaredLength seen := by
  obtain ⟨later,rfl⟩ := inside
  exact ⟨opened_append opened later,requestIdBytes_append opened.1,flagsByte_append opened.1,declaredLength_append opened.1⟩

theorem prefix_ascii {seen rest : Bytes} (inside : seen <+: rest) (ascii : AsciiId rest) : AsciiId seen := by
  intro opened
  obtain ⟨whole,id,_⟩ := prefix_opened inside opened
  exact id ▸ ascii whole

theorem prefix_kept {seen rest : Bytes} (inside : seen <+: rest) (kept : ¬ TurnedAway rest) : ¬ TurnedAway seen := by
  rintro ⟨opened,away⟩
  obtain ⟨whole,_,flags,declared⟩ := prefix_opened inside opened
  exact kept ⟨whole,by rwa [FlagKnown,flags,declared]⟩

-- The phone's drain of a stream fails where the desktop's does and at every header
-- that it turns away.
theorem drains_error {bytes : Bytes} (ascii : ∀ rest ∈ frames.boundaries bytes, AsciiId rest) :
    (phoneFrames.drain bytes).error ≠ none ↔
      (frames.drain bytes).error ≠ none ∨ ∃ rest ∈ frames.boundaries bytes, TurnedAway rest := by
  induction bytes using stream_induction frames with
  | more bytes held =>
      have last : frames.boundaries bytes = [bytes] := boundaries_last (by simp [held])
      have here := ascii bytes boundaries_self
      by_cases away : TurnedAway bytes
      · obtain ⟨error,refused⟩ := phone_turns_away away.1 away
        simp [last,away,drain_refuse (show phoneFrames.cut bytes = .refuse error from refused)]
      · have waits : phoneFrames.cut bytes = .more := by
          by_cases opened : Opened bytes
          · rcases same_cut opened here away with ⟨_,two⟩ | ⟨frame,size,one,_⟩
            · exact two
            · exact absurd (held.symm.trans one) (by simp)
          · rcases not_opened opened with ⟨_,two⟩ | ⟨error,error',one,_⟩
            · exact two
            · exact absurd (held.symm.trans one) (by simp)
        simp [last,away,drain_more held,drain_more waits]
  | refuse bytes error refused =>
      have here := phone_within (ascii bytes boundaries_self)
      have desktop : AoaFrameCodec.cutFrame bytes = .refuse error := refused
      cases phone : PhoneFrameCodec.cutFrame bytes with
      | refuse error' =>
          simp [drain_refuse refused,drain_refuse (show phoneFrames.cut bytes = .refuse error' from phone)]
      | more => simp [desktop,phone,Cut.Within] at here
      | frame frame size => simp [desktop,phone,Cut.Within] at here
  | frame bytes frame size found ih =>
      have here := ascii bytes boundaries_self
      rw [boundaries_frame found] at ascii ⊢
      by_cases away : TurnedAway bytes
      · obtain ⟨error,refused⟩ := phone_turns_away away.1 away
        simp [away,drain_refuse (show phoneFrames.cut bytes = .refuse error from refused)]
      · have phone : phoneFrames.cut bytes = .frame frame size := by
          have desktop : AoaFrameCodec.cutFrame bytes = .frame frame size := found
          by_cases opened : Opened bytes
          · rcases same_cut opened here away with ⟨one,_⟩ | ⟨frame',size',one,two⟩
            · simp [desktop] at one
            · rw [desktop] at one
              obtain ⟨rfl,rfl⟩ := Cut.frame.inj one
              exact two
          · rcases not_opened opened with ⟨one,_⟩ | ⟨error,error',one,_⟩ <;> simp [desktop] at one
        have onward := ih fun rest deeper => ascii rest (List.mem_cons_of_mem _ deeper)
        simpa [drain_frame found,drain_frame phone,away] using onward

theorem ascii_kept {text : List Char} (ascii : AsciiText text) : toAsciiBytes text = asciiBytes text :=
  List.map_congr_left fun c member => if_pos (ascii c member)

theorem phone_encoded {frame : AoaFrame} {bytes : Bytes}
    (made : encodeFrame frame.requestId frame.payload frame.flags = .ok bytes) : frame.Valid ∧ bytes = frame.wire := by
  unfold encodeFrame at made
  simp only at made
  split at made
  · cases made
  · rename_i length
    split at made
    · cases made
    · rename_i every
      split at made
      · cases made
      · rename_i flag
        split at made
        · cases made
        · rename_i capacity
          have ascii : AsciiText frame.requestId := by
            intro c member
            have small : ¬ (c.toNat > 0x7F) := fun large => every (List.any_eq_true.mpr ⟨c,member,by simpa using large⟩)
            omega
          have valid : frame.Valid := by
            refine ⟨ascii,by simpa [toAsciiBytes,requestIdLength,aoaRequestIdLength] using length,?_,by omega⟩
            by_contra neither
            exact flag (not_or.mp neither)
          refine ⟨valid,?_⟩
          rw [← Except.ok.inj made,ascii_kept ascii]
          simp [AoaFrame.wire,AoaFrame.header,frameVersion,aoaFrameVersion]

section Wire
variable {frame : AoaFrame} (valid : frame.Valid)
include valid

theorem wire_opened : Opened frame.wire :=
  ⟨by rw [wire_length valid]; exact Nat.le_add_right _ _,rfl⟩

theorem wire_declared : declaredLength frame.wire = frame.payload.length := by
  rw [AoaFrame.wire,declaredLength_append (header_length valid).ge,header_declared valid]

theorem wire_flag : FlagKnown frame.wire := by
  rw [FlagKnown,AoaFrame.wire,flagsByte_append (header_length valid).ge,header_flags valid]
  rcases valid.flag with text | binary
  · rw [text]; exact .inl rfl
  · rw [binary]; exact .inr rfl

theorem wire_frame : frameOf frame.wire = frame := by
  have cut := cut_wire valid []
  have whole := cut_exact (wire_opened valid) (fun opened b member => ?_) (wire_flag valid)
    (by rw [wire_length valid,wire_declared valid])
  · rw [List.append_nil,whole] at cut
    exact (Cut.frame.inj cut).1
  · rw [AoaFrame.wire,requestIdBytes_append (header_length valid).ge,header_id valid] at member
    obtain ⟨c,inside,rfl⟩ := List.mem_map.mp member
    rw [small_byte (valid.ascii c inside)]
    exact valid.ascii c inside

theorem phone_decodes (fits : frame.payload.length < 2 ^ 31) : decodeFrame frame.wire = .ok frame := by
  have decoded := decodeFrame_exact (wire_opened valid) (wire_flag valid) (by rwa [wire_declared valid])
    (by rw [wire_length valid,wire_declared valid])
  rwa [wire_frame valid] at decoded

theorem wire_kept (fits : frame.payload.length ≤ maxPayloadLength) : ¬ TurnedAway frame.wire := by
  rintro ⟨_,unknown | long⟩
  · exact unknown (wire_flag valid)
  · rw [wire_declared valid] at long
    omega

theorem phone_reads (fits : frame.payload.length ≤ maxPayloadLength) :
    StreamDecoder.new.feed frame.wire = (.ok [frame],.new) := by
  have cut := phone_whole (wire_opened valid) (wire_kept valid fits) (by rw [wire_length valid,wire_declared valid])
  rw [wire_frame valid,wire_declared valid,← wire_length valid] at cut
  have empty : phoneFrames.drain [] = ⟨[],[],none⟩ := drain_more rfl
  have drained : phoneFrames.drain frame.wire = ⟨[frame],[],none⟩ := by
    rw [drain_frame (show phoneFrames.cut frame.wire = _ from cut),List.drop_length,empty]
    rfl
  have some_bytes : frame.wire.isEmpty = false := rfl
  simp [StreamDecoder.feed,StreamDecoder.new,some_bytes,drained]

theorem phone_refuses (long : maxPayloadLength < frame.payload.length) :
    ∃ error, (StreamDecoder.new.feed frame.wire).1 = .error error := by
  obtain ⟨error,refused⟩ := phone_turns_away (wire_opened valid)
    ⟨wire_opened valid,.inr (by rwa [wire_declared valid])⟩
  have drained : phoneFrames.drain frame.wire = ⟨[],frame.wire,some error⟩ := drain_refuse refused
  have some_bytes : frame.wire.isEmpty = false := rfl
  exact ⟨error,by simp [StreamDecoder.feed,StreamDecoder.new,some_bytes,drained]⟩

theorem desktop_reads : AoaFrameDecoder.new.feed frame.wire = (.ok [frame],.new) := by
  have cut := cut_wire valid []
  rw [List.append_nil] at cut
  have empty : frames.drain [] = ⟨[],[],none⟩ := drain_more rfl
  have drained : frames.drain frame.wire = ⟨[frame],[],none⟩ := by
    rw [drain_frame (show frames.cut frame.wire = _ from cut),List.drop_length,empty]
    rfl
  simp [AoaFrameDecoder.feed,AoaFrameDecoder.new,drained]

end Wire

-- With ASCII ids the phone reads what the desktop reads until one of them raises,
-- and what either encodes the other decodes, the phone up to its own maximum.
theorem codecs_agree {chunks : List Bytes} (ascii : ∀ rest ∈ frames.boundaries chunks.flatten, AsciiId rest) :
    (let desktop := feedAll AoaFrameDecoder.feed .new chunks
     let phone := feedAll StreamDecoder.feed .new chunks
     phone.returned <+: desktop.returned ∧
      (phone.error ≠ none ↔ desktop.error ≠ none ∨ ∃ rest ∈ frames.boundaries chunks.flatten, TurnedAway rest) ∧
      ((∀ rest ∈ frames.boundaries chunks.flatten, ¬ TurnedAway rest) →
        phone.returned = desktop.returned ∧ (phone.error = none ↔ desktop.error = none))) ∧
    (∀ requestId payload flags bytes, encodeFrame requestId payload flags = .ok bytes →
      decodeAoaFrame bytes = .ok ⟨requestId,flags,payload⟩ ∧
      AoaFrameDecoder.new.feed bytes = (.ok [⟨requestId,flags,payload⟩],.new)) ∧
    (∀ requestId payload flags bytes, encodeAoaFrame requestId payload flags = .ok bytes →
      (payload.length < 2 ^ 31 → decodeFrame bytes = .ok ⟨requestId,flags,payload⟩) ∧
      (payload.length ≤ maxPayloadLength → StreamDecoder.new.feed bytes = (.ok [⟨requestId,flags,payload⟩],.new)) ∧
      (maxPayloadLength < payload.length → ∃ error, (StreamDecoder.new.feed bytes).1 = .error error)) := by
  have kept : ∀ rest ∈ frames.boundaries chunks.flatten, ∀ seen, seen <+: rest → AsciiId seen :=
    fun rest boundary seen inside => prefix_ascii inside (ascii rest boundary)
  refine ⟨⟨?_,?_,fun regular => ?_⟩,?_,?_⟩
  · exact (feedAll_within AoaFrameCodec.feed_reads PhoneFrameCodec.feed_reads .new .new chunks rfl rfl rfl
      fun rest boundary seen inside => phone_within (kept rest boundary seen inside)).1
  · obtain ⟨_,_,desktop,_⟩ := feedAll_drain AoaFrameCodec.feed_reads .new chunks rfl
    obtain ⟨_,_,phone,_⟩ := feedAll_drain PhoneFrameCodec.feed_reads .new chunks rfl
    rw [← desktop,← phone]
    exact drains_error ascii
  · obtain ⟨returned,error⟩ := feedAll_agrees AoaFrameCodec.feed_reads PhoneFrameCodec.feed_reads .new .new chunks
      rfl rfl rfl fun rest boundary seen inside => ⟨phone_within (kept rest boundary seen inside),
        desktop_within (kept rest boundary seen inside) (prefix_kept inside (regular rest boundary))⟩
    exact ⟨returned.symm,error.symm⟩
  · intro requestId payload flags bytes made
    obtain ⟨valid,rfl⟩ := phone_encoded (show encodeFrame (⟨requestId,flags,payload⟩ : AoaFrame).requestId _ _ = _ from made)
    exact ⟨decode_wire valid,desktop_reads valid⟩
  · intro requestId payload flags bytes made
    obtain ⟨valid,rfl⟩ := encoded_exact.mp (show encoded ⟨requestId,flags,payload⟩ = _ from made)
    exact ⟨phone_decodes valid,phone_reads valid,phone_refuses valid⟩

theorem codecs_agree_sample :
    (let desktop := feedAll AoaFrameDecoder.feed .new [sampleFrame.wire]
     let phone := feedAll StreamDecoder.feed .new [sampleFrame.wire]
     phone.returned <+: desktop.returned ∧
      (phone.error ≠ none ↔ desktop.error ≠ none ∨ ∃ rest ∈ frames.boundaries [sampleFrame.wire].flatten, TurnedAway rest) ∧
      ((∀ rest ∈ frames.boundaries [sampleFrame.wire].flatten, ¬ TurnedAway rest) →
        phone.returned = desktop.returned ∧ (phone.error = none ↔ desktop.error = none))) :=
  (codecs_agree (by decide)).1

-- The phone turns the header away that the desktop waits behind.
theorem longPayload_disagrees : ¬ ∀ chunks,
    (feedAll StreamDecoder.feed .new chunks).returned.flatten = (feedAll AoaFrameDecoder.feed .new chunks).returned.flatten ∧
      ((feedAll StreamDecoder.feed .new chunks).error ≠ none ↔ (feedAll AoaFrameDecoder.feed .new chunks).error ≠ none) := by
  intro same
  have phone : (feedAll StreamDecoder.feed .new [[1] ++ List.replicate 36 97 ++ [1,0,0,1] ++ [0]]).error ≠ none := by decide
  have desktop : (feedAll AoaFrameDecoder.feed .new [[1] ++ List.replicate 36 97 ++ [1,0,0,1] ++ [0]]).error = none := by
    decide
  exact (same _).2.mp phone desktop

end ImageSearch.PhoneFrameCodec
