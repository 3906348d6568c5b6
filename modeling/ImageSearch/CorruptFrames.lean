import ImageSearch.PhoneFrameCodec

namespace ImageSearch.CorruptFrames
open FrameStreams Payload AoaFrameCodec PhoneFrameCodec

def ValidHeader (bytes : Bytes) : Prop :=
  version bytes = aoaFrameVersion ∧ (∀ b ∈ requestIdBytes bytes, b.toNat < 128) ∧ FlagKnown bytes

def Judged (bytes : Bytes) : Prop :=
  version bytes ≠ aoaFrameVersion ∨ aoaFrameHeaderSize + declaredLength bytes ≤ bytes.length

instance (bytes : Bytes) : Decidable (ValidHeader bytes) :=
  have : Decidable (∀ b ∈ requestIdBytes bytes, b.toNat < 128) :=
    List.decidableBAll (fun b => b.toNat < 128) (requestIdBytes bytes)
  inferInstanceAs (Decidable (version bytes = aoaFrameVersion ∧ (∀ b ∈ requestIdBytes bytes, b.toNat < 128) ∧
    FlagKnown bytes))

instance (bytes : Bytes) : Decidable (Judged bytes) :=
  inferInstanceAs (Decidable (version bytes ≠ aoaFrameVersion ∨ aoaFrameHeaderSize + declaredLength bytes ≤ bytes.length))

variable {bytes later rest : Bytes} {fs : List AoaFrame}

theorem wire_header {frame : AoaFrame} (valid : frame.Valid) (later : Bytes) : ValidHeader (frame.wire ++ later) := by
  have long : aoaFrameHeaderSize ≤ frame.wire.length := by rw [wire_length valid]; omega
  refine ⟨?_,?_,?_⟩
  · rw [version_append long]
    rfl
  · rw [requestIdBytes_append long,AoaFrame.wire,requestIdBytes_append (header_length valid).ge,header_id valid]
    intro b member
    obtain ⟨c,inside,rfl⟩ := List.mem_map.mp member
    rw [small_byte (valid.ascii c inside)]
    exact valid.ascii c inside
  · have known := wire_flag valid
    rwa [FlagKnown,flagsByte_append long]

theorem malformed_append (long : aoaFrameHeaderSize ≤ bytes.length) : ValidHeader (bytes ++ later) ↔ ValidHeader bytes := by
  rw [ValidHeader,ValidHeader,FlagKnown,FlagKnown,version_append long,requestIdBytes_append long,flagsByte_append long]

-- A malformed header is refused as soon as it is judged, and waited on until then.
theorem cut_malformed (long : aoaFrameHeaderSize ≤ bytes.length) (malformed : ¬ ValidHeader bytes) :
    (Judged bytes → ∃ error, AoaFrameCodec.cutFrame bytes = .refuse error) ∧
      (¬ Judged bytes → AoaFrameCodec.cutFrame bytes = .more) := by
  unfold AoaFrameCodec.cutFrame
  rw [if_neg (by omega)]
  by_cases right : version bytes = aoaFrameVersion
  · rw [if_neg (not_not.mpr right)]
    dsimp only
    constructor
    · intro judged
      have whole := judged.resolve_left (not_not.mpr right)
      rw [if_neg (by omega)]
      split
      · exact ⟨_,rfl⟩
      · rename_i frame decoded
        obtain ⟨valid,wire⟩ := wire_decode decoded
        have header := wire_header valid (bytes.drop (aoaFrameHeaderSize + declaredLength bytes))
        rw [← wire,List.take_append_drop] at header
        exact absurd header malformed
    · intro early
      rw [if_pos (by have := not_or.mp early; omega)]
  · rw [if_pos right]
    exact ⟨fun _ => ⟨_,rfl⟩,fun early => absurd (.inl right) early⟩

theorem drain_malformed (long : aoaFrameHeaderSize ≤ bytes.length) (malformed : ¬ ValidHeader bytes) :
    (frames.drain bytes).frames = [] ∧ ((frames.drain bytes).error ≠ none ↔ Judged bytes) := by
  obtain ⟨refused,waits⟩ := cut_malformed long malformed
  by_cases judged : Judged bytes
  · obtain ⟨error,cut⟩ := refused judged
    have drained := @drain_refuse _ _ _ frames _ _ cut
    rw [drained]
    exact ⟨rfl,fun _ => judged,fun _ => Option.some_ne_none error⟩
  · have drained := @drain_more _ _ _ frames _ (waits judged)
    rw [drained]
    exact ⟨rfl,fun error => absurd rfl error,fun late => absurd late judged⟩

theorem malformed_header_refused {decoder : AoaFrameDecoder} {chunk : Bytes} (valid : ∀ frame ∈ fs, frame.Valid)
    (left : decoder.buffer ++ chunk = (fs.map AoaFrame.wire).flatten ++ rest) (long : aoaFrameHeaderSize ≤ rest.length)
    (malformed : ¬ ValidHeader rest) : (∃ error, (decoder.feed chunk).1 = .error error) ↔
      version rest ≠ aoaFrameVersion ∨ aoaFrameHeaderSize + declaredLength rest ≤ rest.length := by
  have whole : (frames.drain (decoder.buffer ++ chunk)).error = (frames.drain rest).error := by
    rw [left,drain_frames fun frame member => cut_wire (valid frame member),after_error]
  have judged := (drain_malformed long malformed).2
  change _ ↔ Judged rest
  rw [← judged,← whole]
  unfold AoaFrameDecoder.feed
  dsimp only
  cases ended : (frames.drain (decoder.buffer ++ chunk)).error with
  | none => simp
  | some error => simp

-- A known version with an unknown flag; its payload has not come.
def unknownFlag : Bytes := aoaFrameVersion :: (List.replicate 36 97 ++ [0,0,0,1,2])

theorem unknown_flag_awaited : ¬ ValidHeader unknownFlag ∧ unknownFlag.length = aoaFrameHeaderSize ∧
    AoaFrameDecoder.new.feed unknownFlag = (.ok [],⟨unknownFlag⟩) := by
  decide

theorem wrong_version_refused : ∃ error, (AoaFrameDecoder.new.feed (sampleFrame.wire ++ List.replicate 42 2)).1 = .error error :=
  (@malformed_header_refused (List.replicate 42 2) [sampleFrame] _ _ (by decide) (by decide) (by decide)
    (by decide)).mpr (.inl (by decide))

section Streams
variable {bad part : Bytes} {chunks : List Bytes}

def good (fs : List AoaFrame) : Bytes := (fs.map AoaFrame.wire).flatten

theorem drain_part (valid : ∀ frame ∈ fs, frame.Valid) (inside : part <+: good fs) (missing : part ≠ good fs) :
    (frames.drain part).frames.length < fs.length ∧ (frames.drain part).error = none := by
  induction fs generalizing part with
  | nil => exact absurd (List.prefix_nil.mp inside) missing
  | cons frame fs ih =>
      have first := valid frame List.mem_cons_self
      have others := fun other member => valid other (List.mem_cons_of_mem frame member)
      have whole : good (frame :: fs) = frame.wire ++ good fs := rfl
      rw [whole] at inside missing
      by_cases over_ : frame.wire <+: part
      · obtain ⟨tail,rfl⟩ := over_
        have within := (List.prefix_append_right_inj _).mp inside
        have short : tail ≠ good fs := fun same => missing (by rw [same])
        obtain ⟨fewer,fine⟩ := ih others within short
        have found := cut_wire first tail
        have drained := @drain_frame _ _ _ frames _ _ _ found
        rw [List.drop_left] at drained
        rw [drained]
        exact ⟨Nat.succ_lt_succ fewer,fine⟩
      · have short := (List.prefix_or_prefix_of_prefix inside (List.prefix_append _ _)).resolve_right over_
        have other : part ≠ frame.wire := fun same => over_ (same ▸ List.prefix_refl _)
        have drained := @drain_more _ _ _ frames _ (cut_part first short other)
        rw [drained]
        exact ⟨Nat.succ_pos _,rfl⟩

theorem drain_good (valid : ∀ frame ∈ fs, frame.Valid) (later : Bytes) :
    frames.drain (good fs ++ later) = (frames.drain later).after fs :=
  drain_frames (fun frame member => cut_wire (valid frame member)) later

def Detected (bytes : Bytes) : Prop := aoaFrameHeaderSize ≤ bytes.length ∧ Judged bytes

theorem drain_bad (malformed : ¬ ValidHeader bad) (inside : part <+: bad) :
    (frames.drain part).frames = [] ∧ ((frames.drain part).error ≠ none ↔ Detected part) := by
  by_cases short : part.length < aoaFrameHeaderSize
  · have waits : AoaFrameCodec.cutFrame part = .more := by
      unfold AoaFrameCodec.cutFrame
      rw [if_pos short]
    have drained := @drain_more _ _ _ frames _ waits
    rw [drained]
    exact ⟨rfl,fun error => absurd rfl error,fun detected => absurd detected.1 (Nat.not_le_of_lt short)⟩
  · have long := Nat.le_of_not_lt short
    obtain ⟨tail,rfl⟩ := inside
    obtain ⟨none_,judged⟩ := drain_malformed long (mt (malformed_append long).mpr malformed)
    exact ⟨none_,judged.trans ⟨fun now => ⟨long,now⟩,fun detected => detected.2⟩⟩

-- A beginning of the stream: its frames are all there once the good bytes are.
theorem drain_start (valid : ∀ frame ∈ fs, frame.Valid) (malformed : ¬ ValidHeader bad)
    (inside : part <+: good fs ++ bad) :
    ((frames.drain part).frames = fs ↔ (good fs).length ≤ part.length) ∧
      ((frames.drain part).error ≠ none ↔ Detected (part.drop (good fs).length)) := by
  by_cases short : part.length < (good fs).length
  · have within := List.prefix_of_prefix_length_le inside (List.prefix_append _ _) short.le
    have other : part ≠ good fs := fun same => absurd (same ▸ short) (Nat.lt_irrefl _)
    obtain ⟨fewer,fine⟩ := drain_part valid within other
    have empty : part.drop (good fs).length = [] := List.drop_eq_nil_of_le short.le
    rw [empty]
    refine ⟨⟨fun same => ?_,fun long => absurd long (Nat.not_le_of_lt short)⟩,fun error => absurd fine error,fun detected => ?_⟩
    · rw [same] at fewer
      exact absurd fewer (Nat.lt_irrefl _)
    · exact absurd detected.1 (by simp [aoaFrameHeaderSize])
  · have long := Nat.le_of_not_lt short
    obtain ⟨tail,rfl⟩ := List.prefix_of_prefix_length_le (List.prefix_append _ _) inside long
    have within := (List.prefix_append_right_inj _).mp inside
    obtain ⟨none_,detected⟩ := drain_bad malformed within
    rw [drain_good valid,List.drop_left,after_frames,after_error,none_,List.append_nil]
    exact ⟨⟨fun _ => long,fun _ => rfl⟩,detected⟩

-- No chunk that completes a frame brings the bytes by which the header is refused.
def CutApart (fs : List AoaFrame) (chunks : List Bytes) : Prop :=
  ∀ front chunk back, chunks = front ++ chunk :: back → front.flatten.length < (good fs).length →
    ¬ Detected ((front.flatten ++ chunk).drop (good fs).length)

theorem frames_delivered (valid : ∀ frame ∈ fs, frame.Valid) (malformed : ¬ ValidHeader bad)
    (stream : chunks.flatten = (fs.map AoaFrame.wire).flatten ++ bad) :
    (feedAll AoaFrameDecoder.feed .new chunks).returned.flatten = fs ↔ CutApart fs chunks := by
  have empty : frames.cut AoaFrameDecoder.new.buffer = .more := frames.empty
  have start : ∀ part, part <+: chunks.flatten → ((frames.drain part).frames = fs ↔ (good fs).length ≤ part.length) ∧
      ((frames.drain part).error ≠ none ↔ Detected (part.drop (good fs).length)) := by
    intro part inside
    rw [stream] at inside
    exact drain_start valid malformed inside
  have begins : ∀ {front chunk back}, chunks = front ++ chunk :: back → front.flatten ++ chunk <+: chunks.flatten := by
    intro front chunk back split
    rw [split,List.flatten_append,List.flatten_cons,← List.append_assoc]
    exact List.prefix_append _ _
  cases ended : (frames.drain chunks.flatten).error with
  | none =>
    obtain ⟨lost,returned,error,fine⟩ := feedAll_drain AoaFrameCodec.feed_reads .new chunks empty
    simp only [AoaFrameDecoder.new,List.nil_append] at returned error fine
    obtain ⟨rfl,-⟩ := fine (error ▸ ended)
    have all : (frames.drain chunks.flatten).frames = fs := by
      refine (start _ (List.prefix_refl _)).1.mpr ?_
      rw [stream,List.length_append]
      exact Nat.le_add_right _ _
    rw [List.append_nil] at returned
    refine ⟨fun _ front chunk back split _ detected => ?_,fun _ => returned.symm.trans all⟩
    obtain ⟨tail,whole⟩ := begins split
    have refused := (start _ (begins split)).2.mpr detected
    have later := @error_append _ _ _ _ _ tail refused
    rw [whole] at later
    exact later ended
  | some error =>
    have fine : (frames.drain ([] : Bytes)).error = none := by rw [drain_more frames.empty]
    have refused : (frames.drain ([] ++ chunks.flatten)).error ≠ none := by
      rw [List.nil_append,ended]
      exact Option.some_ne_none error
    obtain ⟨front,chunk,back,split,before,after⟩ := first_refused fine refused
    rw [List.nil_append] at before after
    have returned := feedAll_refused AoaFrameCodec.feed_reads AoaFrameDecoder.new front chunk back empty before after
    have inside : front.flatten <+: chunks.flatten := (List.prefix_append _ _).trans (begins split)
    have detected := (start _ (begins split)).2.mp after
    rw [split,returned]
    refine (start _ inside).1.trans ⟨fun long => ?_,fun apart => ?_⟩
    · intro front' chunk' back' split' short detected'
      -- The other chunk comes before the one that is refused, so nothing was refused with it.
      rcases List.append_eq_append_iff.mp split' with ⟨more,rfl,-⟩ | ⟨more,rfl,same⟩
      · rw [List.flatten_append,List.length_append] at short
        omega
      · cases more with
        | nil =>
          rw [List.append_nil] at long
          omega
        | cons first more =>
          cases same
          have earlier : front'.flatten ++ chunk' <+: (front' ++ chunk' :: more).flatten := by
            rw [List.flatten_append,List.flatten_cons,← List.append_assoc]
            exact List.prefix_append _ _
          obtain ⟨tail,whole⟩ := earlier
          have early := (start _ (begins (split.trans split'))).2.mpr detected'
          have later := @error_append _ _ _ _ _ tail early
          rw [whole] at later
          exact later before
    · by_contra short
      exact apart front chunk back rfl (Nat.lt_of_not_le short) detected

theorem frame_lost : ¬ ∀ (fs : List AoaFrame) (bad : Bytes) (chunks : List Bytes), (∀ frame ∈ fs, frame.Valid) →
    aoaFrameHeaderSize ≤ bad.length → ¬ ValidHeader bad → chunks.flatten = (fs.map AoaFrame.wire).flatten ++ bad →
      (feedAll AoaFrameDecoder.feed .new chunks).returned.flatten = fs := by
  intro all
  have lost := all [sampleFrame] (List.replicate 42 2) [sampleFrame.wire ++ List.replicate 42 2] (by decide) (by decide)
    (by decide) (by decide)
  have nothing : (feedAll AoaFrameDecoder.feed .new [sampleFrame.wire ++ List.replicate 42 2]).returned.flatten = [] := by
    decide
  rw [nothing] at lost
  cases lost

theorem frame_kept : (feedAll AoaFrameDecoder.feed .new [sampleFrame.wire,List.replicate 42 2]).returned.flatten =
    [sampleFrame] := by
  refine (@frames_delivered _ (List.replicate 42 2) _ (by decide) (by decide) (by decide)).mpr ?_
  intro front chunk back split short
  cases front with
  | nil =>
    cases split
    exact fun detected => absurd detected.1 (by decide)
  | cons first front =>
    obtain ⟨rfl,-⟩ := List.cons.inj split
    exact absurd short (by simp [good])

end Streams

end ImageSearch.CorruptFrames
