import Mathlib.Data.List.Basic

namespace ImageSearch.FrameStreams

-- What a reader can say of the bytes it holds: too few, not a frame, or a frame
-- in their first `size`.
inductive Cut (Frame Error : Type*) where
  | more
  | refuse (error : Error)
  | frame (frame : Frame) (size : Nat)
  deriving DecidableEq

-- A frame takes some of the bytes, and a verdict does not depend on bytes that
-- arrive after it could be given.
structure Splitter (α Frame Error : Type*) where
  cut : List α → Cut Frame Error
  empty : cut [] = .more
  consumes : ∀ {bytes frame size}, cut bytes = .frame frame size → 0 < size ∧ size ≤ bytes.length
  stable : ∀ bytes later, cut bytes ≠ .more → cut (bytes ++ later) = cut bytes

structure Drained (α Frame Error : Type*) where
  frames : List Frame
  rest : List α
  error : Option Error
  deriving DecidableEq

variable {α Frame Error : Type*} {splitter : Splitter α Frame Error} {bytes later rest buffer : List α}
  {frame : Frame} {frames : List Frame} {size : Nat} {error : Error} {chunks : List (List α)}

def Drained.after (front : List Frame) (drained : Drained α Frame Error) : Drained α Frame Error :=
  {drained with frames:=front ++ drained.frames}

@[simp] theorem after_error (front : List Frame) (drained : Drained α Frame Error) :
    (drained.after front).error = drained.error := rfl
@[simp] theorem after_rest (front : List Frame) (drained : Drained α Frame Error) :
    (drained.after front).rest = drained.rest := rfl
@[simp] theorem after_frames (front : List Frame) (drained : Drained α Frame Error) :
    (drained.after front).frames = front ++ drained.frames := rfl

def Splitter.drainLoop (splitter : Splitter α Frame Error) : Nat → List α → Drained α Frame Error
  | 0,bytes => ⟨[],bytes,none⟩
  | fuel + 1,bytes =>
    match splitter.cut bytes with
    | .more => ⟨[],bytes,none⟩
    | .refuse error => ⟨[],bytes,some error⟩
    | .frame frame size => (splitter.drainLoop fuel (bytes.drop size)).after [frame]

-- Every frame takes a byte at least, so one turn for each byte and a last one do.
def Splitter.drain (splitter : Splitter α Frame Error) (bytes : List α) : Drained α Frame Error :=
  splitter.drainLoop (bytes.length + 1) bytes

theorem drop_shorter (found : splitter.cut bytes = .frame frame size) : (bytes.drop size).length < bytes.length := by
  obtain ⟨positive,within⟩ := splitter.consumes found
  simp only [List.length_drop]
  omega

theorem drainLoop_enough {fuel : Nat} (enough : bytes.length < fuel) :
    splitter.drainLoop fuel bytes = splitter.drain bytes := by
  induction fuel using Nat.strongRecOn generalizing bytes with
  | ind fuel ih =>
      cases fuel with
      | zero => omega
      | succ fuel =>
          simp only [Splitter.drain,Splitter.drainLoop]
          cases found : splitter.cut bytes with
          | more => rfl
          | refuse error => rfl
          | frame frame size =>
              have shorter := drop_shorter found
              have one : splitter.drainLoop fuel (bytes.drop size) = splitter.drain (bytes.drop size) :=
                ih fuel (by omega) (by omega)
              have two : splitter.drainLoop bytes.length (bytes.drop size) = splitter.drain (bytes.drop size) :=
                ih bytes.length (by omega) shorter
              simp only [one,two]

theorem drain_more (held : splitter.cut bytes = .more) : splitter.drain bytes = ⟨[],bytes,none⟩ := by
  simp [Splitter.drain,Splitter.drainLoop,held]

theorem drain_refuse (refused : splitter.cut bytes = .refuse error) :
    splitter.drain bytes = ⟨[],bytes,some error⟩ := by
  simp [Splitter.drain,Splitter.drainLoop,refused]

theorem drain_frame (found : splitter.cut bytes = .frame frame size) :
    splitter.drain bytes = (splitter.drain (bytes.drop size)).after [frame] := by
  rw [Splitter.drain,Splitter.drainLoop,found]
  simp only
  rw [drainLoop_enough (drop_shorter found)]

-- The cases of the reading loop, one induction for all that is said of it.
theorem stream_induction (splitter : Splitter α Frame Error) {motive : List α → Prop}
    (more : ∀ bytes, splitter.cut bytes = .more → motive bytes)
    (refuse : ∀ bytes error, splitter.cut bytes = .refuse error → motive bytes)
    (frame : ∀ bytes frame size, splitter.cut bytes = .frame frame size → motive (bytes.drop size) → motive bytes)
    (bytes : List α) : motive bytes := by
  generalize length : bytes.length = n
  induction n using Nat.strongRecOn generalizing bytes with
  | ind n ih =>
      cases found : splitter.cut bytes with
      | more => exact more bytes found
      | refuse error => exact refuse bytes error found
      | frame one size =>
          have shorter := drop_shorter found
          exact frame bytes one size found (ih _ (length ▸ shorter) _ rfl)

-- What was drained, gone on with when more bytes have come.
def Splitter.resume (splitter : Splitter α Frame Error) (drained : Drained α Frame Error) (later : List α) :
    Drained α Frame Error :=
  match drained.error with
  | some error => ⟨drained.frames,drained.rest ++ later,some error⟩
  | none => (splitter.drain (drained.rest ++ later)).after drained.frames

theorem resume_after (front : List Frame) (drained : Drained α Frame Error) :
    splitter.resume (drained.after front) later = (splitter.resume drained later).after front := by
  obtain ⟨frames,rest,_ | error⟩ := drained
  · simp [Splitter.resume,Drained.after]
  · rfl

theorem drain_append (bytes later : List α) :
    splitter.drain (bytes ++ later) = splitter.resume (splitter.drain bytes) later := by
  induction bytes using stream_induction splitter with
  | more bytes held => simp [drain_more held,Splitter.resume,Drained.after]
  | refuse bytes error refused =>
      have same := splitter.stable bytes later (by simp [refused])
      rw [drain_refuse refused,drain_refuse (same.trans refused)]
      rfl
  | frame bytes frame size found ih =>
      have same := splitter.stable bytes later (by simp [found])
      obtain ⟨_,within⟩ := splitter.consumes found
      rw [drain_frame found,drain_frame (same.trans found),List.drop_append_of_le_length within,ih,resume_after]

theorem drained_settled (fine : (splitter.drain bytes).error = none) :
    splitter.cut (splitter.drain bytes).rest = .more := by
  induction bytes using stream_induction splitter with
  | more bytes held => simpa [drain_more held] using held
  | refuse bytes error refused => simp [drain_refuse refused] at fine
  | frame bytes frame size found ih =>
      rw [drain_frame found] at fine ⊢
      exact ih fine

-- A stream handed over chunk by chunk: what each call returned, up to the first
-- that raised.
structure Fed (Decoder Frame Error : Type*) where
  returned : List (List Frame)
  decoder : Decoder
  error : Option Error
  deriving DecidableEq

def feedAll (feed : Decoder → List α → Except Error (List Frame) × Decoder) :
    Decoder → List (List α) → Fed Decoder Frame Error
  | decoder,[] => ⟨[],decoder,none⟩
  | decoder,chunk :: chunks =>
    match feed decoder chunk with
    | (.error error,decoder') => ⟨[],decoder',some error⟩
    | (.ok frames,decoder') =>
      let fed := feedAll feed decoder' chunks
      {fed with returned:=frames :: fed.returned}

-- A call drains what was held and the new chunk, and holds what is left.
structure Reads (splitter : Splitter α Frame Error) (held : Decoder → List α)
    (feed : Decoder → List α → Except Error (List Frame) × Decoder) : Prop where
  fine : ∀ decoder chunk, splitter.cut (held decoder) = .more →
    (splitter.drain (held decoder ++ chunk)).error = none → ∃ decoder',
      feed decoder chunk = (.ok (splitter.drain (held decoder ++ chunk)).frames,decoder') ∧
      held decoder' = (splitter.drain (held decoder ++ chunk)).rest
  raised : ∀ decoder chunk error, splitter.cut (held decoder) = .more →
    (splitter.drain (held decoder ++ chunk)).error = some error → ∃ decoder', feed decoder chunk = (.error error,decoder')

variable {Decoder : Type*} {held : Decoder → List α} {feed : Decoder → List α → Except Error (List Frame) × Decoder}

-- Where the stream is cut into chunks changes neither the frames nor the ending;
-- only the frames of a call that raised are lost.
theorem feedAll_drain (reads : Reads splitter held feed) (decoder : Decoder) (chunks : List (List α))
    (settled : splitter.cut (held decoder) = .more) :
    ∃ lost, (splitter.drain (held decoder ++ chunks.flatten)).frames = (feedAll feed decoder chunks).returned.flatten ++ lost ∧
      (splitter.drain (held decoder ++ chunks.flatten)).error = (feedAll feed decoder chunks).error ∧
      ((feedAll feed decoder chunks).error = none → lost = [] ∧
        (splitter.drain (held decoder ++ chunks.flatten)).rest = held (feedAll feed decoder chunks).decoder) := by
  induction chunks generalizing decoder with
  | nil => exact ⟨[],by simp [drain_more settled,feedAll]⟩
  | cons chunk chunks ih =>
      have whole : splitter.drain (held decoder ++ (chunk :: chunks).flatten) =
          splitter.resume (splitter.drain (held decoder ++ chunk)) chunks.flatten := by
        rw [List.flatten_cons,← List.append_assoc,drain_append]
      rw [whole]
      cases ended : (splitter.drain (held decoder ++ chunk)).error with
      | some error =>
          obtain ⟨decoder',raised⟩ := reads.raised decoder chunk error settled ended
          exact ⟨(splitter.drain (held decoder ++ chunk)).frames,by simp [Splitter.resume,feedAll,ended,raised]⟩
      | none =>
          obtain ⟨decoder',fine,rest⟩ := reads.fine decoder chunk settled ended
          have next := ih decoder' (rest ▸ drained_settled ended)
          rw [rest] at next
          obtain ⟨lost,frames,error,fine'⟩ := next
          refine ⟨lost,?_,?_,?_⟩
          · simp [Splitter.resume,feedAll,ended,fine,frames]
          · simpa [Splitter.resume,feedAll,ended,fine] using error
          · simpa [Splitter.resume,feedAll,ended,fine] using fine'

theorem error_append (error : (splitter.drain bytes).error ≠ none) : (splitter.drain (bytes ++ later)).error ≠ none := by
  rw [drain_append]
  unfold Splitter.resume
  cases ended : (splitter.drain bytes).error with
  | none => exact absurd ended error
  | some error => exact Option.some_ne_none error

theorem frames_append (fine : (splitter.drain bytes).error = none) : splitter.drain (bytes ++ later) =
    (splitter.drain ((splitter.drain bytes).rest ++ later)).after (splitter.drain bytes).frames := by
  rw [drain_append]
  unfold Splitter.resume
  rw [fine]

theorem first_refused (fine : (splitter.drain bytes).error = none)
    (refused : (splitter.drain (bytes ++ chunks.flatten)).error ≠ none) :
    ∃ front chunk back, chunks = front ++ chunk :: back ∧ (splitter.drain (bytes ++ front.flatten)).error = none ∧
      (splitter.drain (bytes ++ front.flatten ++ chunk)).error ≠ none := by
  induction chunks generalizing bytes with
  | nil => exact absurd fine (by simpa using refused)
  | cons chunk chunks ih =>
      by_cases here : (splitter.drain (bytes ++ chunk)).error = none
      · rw [List.flatten_cons,← List.append_assoc] at refused
        obtain ⟨front,other,back,split,before,after⟩ := ih here refused
        refine ⟨chunk :: front,other,back,by rw [split]; rfl,?_,?_⟩
        · rw [List.flatten_cons,← List.append_assoc]
          exact before
        · rw [List.flatten_cons,← List.append_assoc]
          exact after
      · refine ⟨[],chunk,chunks,rfl,?_,?_⟩
        · rw [List.flatten_nil,List.append_nil]
          exact fine
        · rw [List.flatten_nil,List.append_nil]
          exact here

-- The calls before that chunk returned what was complete before it, and no later one returns.
theorem feedAll_refused (reads : Reads splitter held feed) (decoder : Decoder) (front : List (List α)) (chunk : List α)
    (back : List (List α)) (settled : splitter.cut (held decoder) = .more)
    (before : (splitter.drain (held decoder ++ front.flatten)).error = none)
    (after : (splitter.drain (held decoder ++ front.flatten ++ chunk)).error ≠ none) :
    (feedAll feed decoder (front ++ chunk :: back)).returned.flatten = (splitter.drain (held decoder ++ front.flatten)).frames := by
  induction front generalizing decoder with
  | nil =>
      rw [List.flatten_nil,List.append_nil] at before after ⊢
      obtain ⟨error,ended⟩ := Option.ne_none_iff_exists'.mp after
      obtain ⟨decoder',raised⟩ := reads.raised decoder chunk error settled ended
      simp [feedAll,raised,drain_more settled]
  | cons first front ih =>
      rw [List.flatten_cons,← List.append_assoc] at before after ⊢
      have fine : (splitter.drain (held decoder ++ first)).error = none := by
        by_contra refused
        exact error_append refused before
      obtain ⟨decoder',returned,rest⟩ := reads.fine decoder first settled fine
      have whole := @frames_append _ _ _ _ _ front.flatten fine
      have further := @frames_append _ _ _ _ _ (front.flatten ++ chunk) fine
      rw [← List.append_assoc,← List.append_assoc] at further
      rw [whole] at before ⊢
      rw [further] at after
      rw [← rest] at before after ⊢
      have next := ih decoder' (rest ▸ drained_settled fine) before after
      simp only [List.cons_append,feedAll,returned,List.flatten_cons,next,after_frames]

theorem drain_frames {encode : Frame → List α}
    (encoded : ∀ frame ∈ frames, ∀ later, splitter.cut (encode frame ++ later) = .frame frame (encode frame).length)
    (later : List α) :
    splitter.drain ((frames.map encode).flatten ++ later) = (splitter.drain later).after frames := by
  induction frames with
  | nil => rfl
  | cons frame frames ih =>
      have head := encoded frame (by simp) ((frames.map encode).flatten ++ later)
      have tail := ih fun other member => encoded other (by simp [member])
      have whole : ((frame :: frames).map encode).flatten ++ later =
          encode frame ++ ((frames.map encode).flatten ++ later) := by simp
      rw [whole,drain_frame head,List.drop_left,tail]
      rfl

-- What is left of the stream at every place where a frame is looked for.
def Splitter.boundariesLoop (splitter : Splitter α Frame Error) : Nat → List α → List (List α)
  | 0,bytes => [bytes]
  | fuel + 1,bytes =>
    match splitter.cut bytes with
    | .frame _ size => bytes :: splitter.boundariesLoop fuel (bytes.drop size)
    | _ => [bytes]

def Splitter.boundaries (splitter : Splitter α Frame Error) (bytes : List α) : List (List α) :=
  splitter.boundariesLoop bytes.length bytes

theorem boundaries_last (held : ∀ frame size, splitter.cut bytes ≠ .frame frame size) :
    splitter.boundaries bytes = [bytes] := by
  unfold Splitter.boundaries
  cases bytes with
  | nil => rfl
  | cons byte bytes => simp only [List.length_cons,Splitter.boundariesLoop]

theorem boundariesLoop_enough {fuel : Nat} (enough : bytes.length ≤ fuel) :
    splitter.boundariesLoop fuel bytes = splitter.boundaries bytes := by
  induction fuel using Nat.strongRecOn generalizing bytes with
  | ind fuel ih =>
      cases fuel with
      | zero => rw [List.length_eq_zero_iff.mp (Nat.le_zero.mp enough)]; rfl
      | succ fuel =>
          cases length : bytes.length with
          | zero =>
              rw [List.length_eq_zero_iff.mp length]
              simp [Splitter.boundaries,Splitter.boundariesLoop,splitter.empty]
          | succ n =>
              simp only [Splitter.boundaries,length,Splitter.boundariesLoop]
              cases found : splitter.cut bytes with
              | more => rfl
              | refuse error => rfl
              | frame frame size =>
                  have shorter := drop_shorter found
                  have one : splitter.boundariesLoop fuel (bytes.drop size) = splitter.boundaries (bytes.drop size) :=
                    ih fuel (by omega) (by omega)
                  have two : splitter.boundariesLoop n (bytes.drop size) = splitter.boundaries (bytes.drop size) :=
                    ih n (by omega) (by omega)
                  simp only [one,two]

theorem boundaries_frame (found : splitter.cut bytes = .frame frame size) :
    splitter.boundaries bytes = bytes :: splitter.boundaries (bytes.drop size) := by
  have shorter := drop_shorter found
  obtain ⟨n,length⟩ : ∃ n, bytes.length = n + 1 := ⟨bytes.length - 1,by omega⟩
  rw [Splitter.boundaries,length,Splitter.boundariesLoop,found]
  simp only
  rw [boundariesLoop_enough (by omega)]

theorem boundaries_self : bytes ∈ splitter.boundaries bytes := by
  cases found : splitter.cut bytes with
  | frame frame size => simp [boundaries_frame found]
  | more =>
      have last : splitter.boundaries bytes = [bytes] := boundaries_last (by simp [found])
      simp [last]
  | refuse error =>
      have last : splitter.boundaries bytes = [bytes] := boundaries_last (by simp [found])
      simp [last]

theorem boundaries_append (later : List α) (boundary : rest ∈ splitter.boundaries bytes) :
    rest ++ later ∈ splitter.boundaries (bytes ++ later) := by
  induction bytes using stream_induction splitter with
  | more bytes held =>
      rw [boundaries_last (by simp [held])] at boundary
      cases List.mem_singleton.mp boundary
      exact boundaries_self
  | refuse bytes error refused =>
      rw [boundaries_last (by simp [refused])] at boundary
      cases List.mem_singleton.mp boundary
      exact boundaries_self
  | frame bytes frame size found ih =>
      have same := splitter.stable bytes later (by simp [found])
      obtain ⟨_,within⟩ := splitter.consumes found
      rw [boundaries_frame found] at boundary
      rw [boundaries_frame (same.trans found),List.drop_append_of_le_length within]
      rcases List.mem_cons.mp boundary with rfl | deeper
      · simp
      · exact List.mem_cons_of_mem _ (ih deeper)

theorem boundaries_drained (boundary : rest ∈ splitter.boundaries ((splitter.drain bytes).rest ++ later)) :
    rest ∈ splitter.boundaries (bytes ++ later) := by
  induction bytes using stream_induction splitter with
  | more bytes held => simpa [drain_more held] using boundary
  | refuse bytes error refused => simpa [drain_refuse refused] using boundary
  | frame bytes frame size found ih =>
      have same := splitter.stable bytes later (by simp [found])
      obtain ⟨_,within⟩ := splitter.consumes found
      rw [drain_frame found] at boundary
      rw [boundaries_frame (same.trans found),List.drop_append_of_le_length within]
      exact List.mem_cons_of_mem _ (ih boundary)

-- A stricter reader refuses, or says what the other says.
def Cut.Within {Other : Type*} : Cut Frame Error → Cut Frame Other → Prop
  | _,.refuse _ => True
  | .more,.more => True
  | .frame frame size,.frame frame' size' => frame = frame' ∧ size = size'
  | _,_ => False

variable {Other : Type*} {second : Splitter α Frame Other}

theorem drain_within (within : ∀ rest ∈ splitter.boundaries bytes, (splitter.cut rest).Within (second.cut rest))
    (fine : (second.drain bytes).error = none) :
    (splitter.drain bytes).error = none ∧ (splitter.drain bytes).frames = (second.drain bytes).frames ∧
      (splitter.drain bytes).rest = (second.drain bytes).rest := by
  induction bytes using stream_induction splitter with
  | more bytes held =>
      have here := within bytes boundaries_self
      cases other : second.cut bytes <;> simp_all [Cut.Within,drain_more,drain_refuse]
  | refuse bytes error refused =>
      have here := within bytes boundaries_self
      cases other : second.cut bytes with
      | refuse other' => simp [drain_refuse other] at fine
      | more => simp [refused,other,Cut.Within] at here
      | frame frame size => simp [refused,other,Cut.Within] at here
  | frame bytes frame size found ih =>
      have here := within bytes boundaries_self
      rw [boundaries_frame found] at within
      cases other : second.cut bytes with
      | refuse other' => simp [drain_refuse other] at fine
      | more => simp [found,other,Cut.Within] at here
      | frame frame' size' =>
          simp only [found,other,Cut.Within] at here
          obtain ⟨rfl,rfl⟩ := here
          rw [drain_frame other] at fine
          obtain ⟨error,frames,rest⟩ := ih (fun rest deeper => within rest (List.mem_cons_of_mem _ deeper)) fine
          simp [drain_frame found,drain_frame other,frames,rest,error]

variable {Decoder' : Type*} {held' : Decoder' → List α}
  {feed' : Decoder' → List α → Except Other (List Frame) × Decoder'}

theorem feedAll_within (reads : Reads splitter held feed) (reads' : Reads second held' feed')
    (decoder : Decoder) (decoder' : Decoder') (chunks : List (List α))
    (settled : splitter.cut (held decoder) = .more) (settled' : second.cut (held' decoder') = .more)
    (same : held decoder = held' decoder')
    (within : ∀ rest ∈ splitter.boundaries (held decoder ++ chunks.flatten), ∀ seen, seen <+: rest →
      (splitter.cut seen).Within (second.cut seen)) :
    (feedAll feed' decoder' chunks).returned <+: (feedAll feed decoder chunks).returned ∧
      ((feedAll feed' decoder' chunks).error = none → (feedAll feed decoder chunks).error = none) := by
  induction chunks generalizing decoder decoder' with
  | nil => exact ⟨List.prefix_rfl,fun _ => rfl⟩
  | cons chunk chunks ih =>
      rw [List.flatten_cons,← List.append_assoc] at within
      cases ended : (second.drain (held' decoder' ++ chunk)).error with
      | some problem =>
          obtain ⟨_,raised⟩ := reads'.raised decoder' chunk problem settled' ended
          simp [feedAll,raised]
      | none =>
          have drained := ended
          rw [← same] at drained
          obtain ⟨error,frames,rest⟩ := drain_within (fun rest boundary =>
            within _ (boundaries_append chunks.flatten boundary) rest (List.prefix_append _ _)) drained
          obtain ⟨next,fine,left⟩ := reads.fine decoder chunk settled error
          obtain ⟨next',fine',left'⟩ := reads'.fine decoder' chunk settled' ended
          have onward := ih next next' (left ▸ drained_settled error) (left' ▸ drained_settled ended) (by rw [left,left',rest,same])
            fun tail boundary => within tail (boundaries_drained (left ▸ boundary))
          rw [same] at frames
          simpa [feedAll,fine,fine',same,frames] using onward

theorem boundaries_agree (one : ∀ rest ∈ splitter.boundaries bytes, (splitter.cut rest).Within (second.cut rest))
    (two : ∀ rest ∈ splitter.boundaries bytes, (second.cut rest).Within (splitter.cut rest)) :
    second.boundaries bytes = splitter.boundaries bytes := by
  induction bytes using stream_induction splitter with
  | more bytes held =>
      have here := two bytes boundaries_self
      have last : splitter.boundaries bytes = [bytes] := boundaries_last (by simp [held])
      rw [last]
      exact boundaries_last fun frame size other => by simp [held,other,Cut.Within] at here
  | refuse bytes error refused =>
      have here := one bytes boundaries_self
      have last : splitter.boundaries bytes = [bytes] := boundaries_last (by simp [refused])
      rw [last]
      exact boundaries_last fun frame size other => by simp [refused,other,Cut.Within] at here
  | frame bytes frame size found ih =>
      have here := one bytes boundaries_self
      have back := two bytes boundaries_self
      rw [boundaries_frame found] at one two ⊢
      cases other : second.cut bytes with
      | refuse other' => simp [found,other,Cut.Within] at back
      | more => simp [found,other,Cut.Within] at here
      | frame frame' size' =>
          simp only [found,other,Cut.Within] at here
          obtain ⟨rfl,rfl⟩ := here
          rw [boundaries_frame other,ih (fun rest deeper => one rest (List.mem_cons_of_mem _ deeper))
            fun rest deeper => two rest (List.mem_cons_of_mem _ deeper)]

theorem feedAll_agrees (reads : Reads splitter held feed) (reads' : Reads second held' feed')
    (decoder : Decoder) (decoder' : Decoder') (chunks : List (List α))
    (settled : splitter.cut (held decoder) = .more) (settled' : second.cut (held' decoder') = .more)
    (same : held decoder = held' decoder')
    (agree : ∀ rest ∈ splitter.boundaries (held decoder ++ chunks.flatten), ∀ seen, seen <+: rest →
      (splitter.cut seen).Within (second.cut seen) ∧ (second.cut seen).Within (splitter.cut seen)) :
    (feedAll feed decoder chunks).returned = (feedAll feed' decoder' chunks).returned ∧
      ((feedAll feed decoder chunks).error = none ↔ (feedAll feed' decoder' chunks).error = none) := by
  have boundaries := boundaries_agree (fun rest boundary => (agree rest boundary rest List.prefix_rfl).1)
    fun rest boundary => (agree rest boundary rest List.prefix_rfl).2
  have one := feedAll_within reads reads' decoder decoder' chunks settled settled' same fun rest boundary seen inside =>
    (agree rest boundary seen inside).1
  have two := feedAll_within reads' reads decoder' decoder chunks settled' settled same.symm fun rest boundary seen inside =>
    (agree rest (boundaries ▸ (same ▸ boundary)) seen inside).2
  exact ⟨two.1.eq_of_length_le one.1.length_le,two.2,one.2⟩

end ImageSearch.FrameStreams
