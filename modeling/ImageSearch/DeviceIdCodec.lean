import Mathlib.Data.Nat.Bitwise
import ImageSearch.AoaFrameCodec
import ImageSearch.DataChannels
import ImageSearch.TrustProofs

namespace ImageSearch.DeviceIdCodec
open Payload AoaFrameCodec TrustProofs
open DataChannels (decodeUtf8)

-- length_bytes.insert(0, n & 0xFF) and n >>= 8 until nothing is left.
def lengthBytes (n : Nat) (bytes : Bytes) : Bytes :=
  if n = 0 then bytes else lengthBytes (n >>> 8) (UInt8.ofNat (n &&& 0xFF) :: bytes)
termination_by n
decreasing_by
  rw [Nat.shiftRight_eq_div_pow]
  omega

def encodeAsn1Utf8String (value : String) : Except Raised Bytes :=
  let data := utf8 value
  if data.length < 128 then .ok ([0x0C,UInt8.ofNat data.length] ++ data)
  else
    let bytes := lengthBytes data.length []
    let lead := 0x80 ||| bytes.length
    if lead < 256 then .ok ([0x0C,UInt8.ofNat lead] ++ bytes ++ data)
    else .error (.valueError "bytes must be in range(0, 256)")

-- data[value_start : value_start + length].decode("utf-8"), none for a UnicodeDecodeError.
def valueAt (data : Bytes) (valueStart length : Nat) : Option String :=
  if data.length < valueStart + length then none else decodeUtf8 ((data.drop valueStart).take length)

def decodeAsn1Utf8String (data : Bytes) : Option String :=
  match data with
  | tag :: lengthByte :: _ =>
    if tag ≠ 0x0C then none
    else if lengthByte &&& 0x80 ≠ 0 then
      let numLengthBytes := (lengthByte &&& 0x7F).toNat
      if data.length < 2+numLengthBytes then none
      else valueAt data (2+numLengthBytes) (fromBytes ((data.drop 2).take numLengthBytes))
    else valueAt data 2 lengthByte.toNat
  | _ => none

-- A length field, any spelling of it: one byte, or the number of the bytes that follow and
-- these. 0x80, with none following, stands for the indefinite form.
inductive Spells : Bytes → Nat → Prop where
  | short (n : Nat) (small : n < 128) : Spells [UInt8.ofNat n] n
  | long (bytes : Bytes) (few : bytes.length < 128) : Spells (UInt8.ofNat (128+bytes.length) :: bytes) (fromBytes bytes)

inductive Shortest : Bytes → Nat → Prop where
  | short (n : Nat) (small : n < 128) : Shortest [UInt8.ofNat n] n
  | long (first : UInt8) (rest : Bytes) (few : rest.length+1 < 128) (leads : first ≠ 0)
      (large : 128 ≤ fromBytes (first :: rest)) :
      Shortest (UInt8.ofNat (128+(rest.length+1)) :: first :: rest) (fromBytes (first :: rest))

def Der (data : Bytes) : Prop :=
  ∃ field text, data = 0x0C :: (field ++ utf8 text) ∧ Shortest field (utf8 text).length

def Exact (data : Bytes) : Prop :=
  ∀ field text rest, data = 0x0C :: (field ++ (utf8 text ++ rest)) → Spells field (utf8 text).length →
    Shortest field (utf8 text).length ∧ rest = []

variable {n m : Nat} {data field other : Bytes} {text : String}

theorem decode_utf8 (text : String) : decodeUtf8 (utf8 text) = some text := by
  unfold decodeUtf8 utf8
  rw [Array.toArray_toList]
  simp only [String.fromUTF8?,String.toUTF8_eq_toByteArray,dif_pos text.isValidUTF8]
  rfl

theorem decoded_utf8 (decoded : decodeUtf8 data = some text) : data = utf8 text := by
  unfold decodeUtf8 String.fromUTF8? at decoded
  split at decoded
  · cases decoded
    simp [utf8,String.toUTF8_eq_toByteArray,String.fromUTF8]
  · cases decoded

theorem fromBytes_append (bytes : Bytes) (last : UInt8) :
    fromBytes (bytes ++ [last]) = fromBytes bytes * 256 + last.toNat := by
  simp [fromBytes]

theorem fromBytes_cons (first : UInt8) (rest : Bytes) :
    fromBytes (first :: rest) = first.toNat * 256 ^ rest.length + fromBytes rest := by
  have whole := fromBytes_step rest.length (fromBytes rest) first.toNat
  rw [to_fromBytes,Nat.mod_eq_of_lt (fromBytes_small rest)] at whole
  simpa [fromBytes] using whole

theorem fromBytes_injective {one two : Bytes} (long : one.length = two.length) (same : fromBytes one = fromBytes two) :
    one = two := by
  rw [← to_fromBytes one,← to_fromBytes two,long,same]

theorem lengthBytes_append (n : Nat) (bytes : Bytes) : lengthBytes n bytes = lengthBytes n [] ++ bytes := by
  induction n using Nat.strongRecOn generalizing bytes with
  | ind n ih =>
      by_cases zero : n = 0
      · simp [lengthBytes,zero]
      · have small : n >>> 8 < n := by
          rw [Nat.shiftRight_eq_div_pow]
          omega
        rw [lengthBytes,if_neg zero,lengthBytes.eq_def n,if_neg zero,ih _ small (_ :: bytes),ih _ small [_],List.append_assoc]
        rfl

theorem lengthBytes_step (positive : 0 < n) : lengthBytes n [] = lengthBytes (n/256) [] ++ [UInt8.ofNat (n%256)] := by
  rw [lengthBytes,if_neg (by omega),lengthBytes_append,Nat.shiftRight_eq_div_pow,
    show n &&& 0xFF = n % 256 from Nat.and_two_pow_sub_one_eq_mod n 8]

theorem lengthBytes_value (n : Nat) : fromBytes (lengthBytes n []) = n := by
  induction n using Nat.strongRecOn with
  | ind n ih =>
      by_cases zero : n = 0
      · simp [lengthBytes,zero,fromBytes]
      · have digit : (UInt8.ofNat (n%256)).toNat = n%256 := by
          rw [UInt8.toNat_ofNat']
          omega
        rw [lengthBytes_step (by omega),fromBytes_append,ih (n/256) (by omega),digit]
        omega

theorem lengthBytes_leads (positive : 0 < n) : ∃ first rest, lengthBytes n [] = first :: rest ∧ first ≠ 0 := by
  induction n using Nat.strongRecOn with
  | ind n ih =>
      rw [lengthBytes_step positive]
      by_cases one : n/256 = 0
      · refine ⟨UInt8.ofNat (n%256),[],by simp [one,lengthBytes],?_⟩
        intro zero
        have digit := congrArg UInt8.toNat zero
        rw [UInt8.toNat_ofNat',UInt8.toNat_zero] at digit
        omega
      · obtain ⟨first,rest,begins,leads⟩ := ih (n/256) (by omega) (by omega)
        exact ⟨first,rest ++ [UInt8.ofNat (n%256)],by rw [begins,List.cons_append],leads⟩

theorem leading_large {first : UInt8} (leads : first ≠ 0) (rest : Bytes) : 256 ^ rest.length ≤ fromBytes (first :: rest) := by
  have positive : 0 < first.toNat := by
    apply Nat.pos_of_ne_zero
    intro zero
    exact leads (UInt8.toNat_inj.mp zero)
  rw [fromBytes_cons]
  calc 256 ^ rest.length = 1 * 256 ^ rest.length := (Nat.one_mul _).symm
    _ ≤ first.toNat * 256 ^ rest.length := Nat.mul_le_mul_right _ positive
    _ ≤ first.toNat * 256 ^ rest.length + fromBytes rest := Nat.le_add_right _ _

theorem lengthBytes_few {k : Nat} : (lengthBytes n []).length ≤ k ↔ n < 256 ^ k := by
  constructor
  · intro few
    have small := fromBytes_small (lengthBytes n [])
    rw [lengthBytes_value] at small
    exact small.trans_le (Nat.pow_le_pow_right (by decide) few)
  · intro small
    rcases Nat.eq_zero_or_pos n with zero | positive
    · simp [zero,lengthBytes]
    · obtain ⟨first,rest,begins,leads⟩ := lengthBytes_leads positive
      have large := leading_large leads rest
      rw [← begins,lengthBytes_value] at large
      rw [begins,List.length_cons]
      exact (Nat.pow_lt_pow_iff_right (by decide)).mp (large.trans_lt small)

def lengthField (n : Nat) : Bytes :=
  if n < 128 then [UInt8.ofNat n] else UInt8.ofNat (128+(lengthBytes n []).length) :: lengthBytes n []

theorem shortest_field (shortest : Shortest field n) : field = lengthField n := by
  unfold lengthField
  cases shortest with
  | short _ small => rw [if_pos small]
  | long first rest few leads large =>
      have least : ¬ (lengthBytes (fromBytes (first :: rest)) []).length ≤ rest.length := by
        rw [lengthBytes_few]
        exact (leading_large leads rest).not_gt
      have most : (lengthBytes (fromBytes (first :: rest)) []).length ≤ rest.length+1 :=
        lengthBytes_few.mpr (fromBytes_small (first :: rest))
      have same : lengthBytes (fromBytes (first :: rest)) [] = first :: rest := by
        apply fromBytes_injective
        · rw [List.length_cons]
          omega
        · exact lengthBytes_value _
      rw [if_neg (not_lt.mpr large),same,List.length_cons]

theorem field_shortest (bounded : n < 256 ^ 127) : Shortest (lengthField n) n := by
  unfold lengthField
  split
  · rename_i small
    exact .short n small
  · rename_i large
    have positive : 0 < n := by omega
    have few := lengthBytes_few.mpr bounded
    obtain ⟨first,rest,begins,leads⟩ := lengthBytes_leads positive
    have value := lengthBytes_value n
    rw [begins] at value few ⊢
    have long := Shortest.long first rest (Nat.lt_succ_of_le few) leads (by omega)
    rwa [value] at long

theorem shortest_spells (shortest : Shortest field n) : Spells field n := by
  cases shortest with
  | short _ small => exact .short _ small
  | long first rest few leads large => exact .long (first :: rest) few

theorem spells_bounded (spells : Spells field n) : n < 256 ^ 127 := by
  cases spells with
  | short _ small => exact small.trans (by decide)
  | long bytes few =>
      have pow : 256 ^ bytes.length ≤ 256 ^ 127 := Nat.pow_le_pow_right (by decide) (by omega)
      exact (fromBytes_small bytes).trans_le pow

theorem lead_toNat {k : Nat} (few : k < 128) : (UInt8.ofNat (128+k)).toNat = 128+k := by
  rw [UInt8.toNat_ofNat']
  omega

theorem small_toNat (small : n < 128) : (UInt8.ofNat n).toNat = n := by
  rw [UInt8.toNat_ofNat']
  omega

theorem spells_delimits {after after' : Bytes} (one : Spells field n) (two : Spells other m)
    (same : field ++ after = other ++ after') : field = other ∧ after = after' := by
  cases one with
  | short _ small =>
      cases two with
      | short _ small' =>
          obtain ⟨head,tail⟩ := List.cons.inj same
          exact ⟨by rw [head],tail⟩
      | long bytes few =>
          have head := congrArg UInt8.toNat (List.cons.inj same).1
          rw [small_toNat small,lead_toNat few] at head
          omega
  | long bytes few =>
      cases two with
      | short _ small =>
          have head := congrArg UInt8.toNat (List.cons.inj same).1
          rw [small_toNat small,lead_toNat few] at head
          omega
      | long bytes' few' =>
          obtain ⟨head,tail⟩ := List.cons.inj same
          have count := congrArg UInt8.toNat head
          rw [lead_toNat few,lead_toNat few'] at count
          obtain ⟨bytesSame,afterSame⟩ := List.append_inj tail (by omega)
          exact ⟨by rw [head,bytesSame],afterSame⟩

theorem high_bit (b : UInt8) : b &&& 0x80 ≠ 0 ↔ 128 ≤ b.toNat := by
  have zero : b &&& 0x80 = 0 ↔ b.toNat &&& 2 ^ 7 = 0 := by
    rw [← UInt8.toNat_inj,UInt8.toNat_and]
    rfl
  have bound := b.toNat_lt
  have quotient : b.toNat / 2 ^ 7 % 2 = 1 ↔ 128 ≤ b.toNat := by omega
  rw [ne_eq,zero,Nat.and_two_pow,Nat.testBit_eq_decide_div_mod_eq]
  by_cases high : 128 ≤ b.toNat
  · rw [decide_eq_true (quotient.mpr high)]
    simp [high]
  · rw [decide_eq_false (mt quotient.mp high)]
    simp [high]

theorem low_bits (b : UInt8) : (b &&& 0x7F).toNat = b.toNat % 128 := by
  rw [UInt8.toNat_and]
  exact Nat.and_two_pow_sub_one_eq_mod b.toNat 7

theorem value_some {start length : Nat} : valueAt data start length = some text ↔
    length = (utf8 text).length ∧ ∃ rest, data.drop start = utf8 text ++ rest ∧ start ≤ data.length := by
  unfold valueAt
  constructor
  · intro read
    split at read
    · cases read
    · rename_i room
      have contents := decoded_utf8 read
      have whole := List.take_append_drop length (data.drop start)
      rw [contents] at whole
      have counted := congrArg List.length contents
      rw [List.length_take,List.length_drop,min_eq_left (by omega)] at counted
      exact ⟨counted,_,whole.symm,by omega⟩
  · rintro ⟨rfl,rest,follows,inside⟩
    have count := congrArg List.length follows
    rw [List.length_drop,List.length_append] at count
    rw [if_neg (by omega),follows,List.take_left]
    exact decode_utf8 text

theorem decoded_field (decoded : decodeAsn1Utf8String data = some text) :
    ∃ field rest, data = 0x0C :: (field ++ (utf8 text ++ rest)) ∧ Spells field (utf8 text).length := by
  match data with
  | [] => cases decoded
  | [_] => cases decoded
  | tag :: lengthByte :: after =>
      simp only [decodeAsn1Utf8String] at decoded
      split at decoded
      · cases decoded
      · rename_i utf8Tag
        have tagged : tag = 0x0C := not_not.mp utf8Tag
        have bound := lengthByte.toNat_lt
        split at decoded
        · rename_i high
          rw [high_bit] at high
          rw [low_bits] at decoded
          split at decoded
          · cases decoded
          · rename_i room
            obtain ⟨spelled,rest,follows,-⟩ := value_some.mp decoded
            have enough : lengthByte.toNat % 128 ≤ after.length := by
              simp only [List.length_cons] at room
              omega
            have lead : lengthByte = UInt8.ofNat (128+(after.take (lengthByte.toNat % 128)).length) := by
              apply UInt8.toNat_inj.mp
              rw [List.length_take,min_eq_left enough,lead_toNat (Nat.mod_lt _ (by decide))]
              omega
            have few : (after.take (lengthByte.toNat % 128)).length < 128 := by
              rw [List.length_take,min_eq_left enough]
              exact Nat.mod_lt _ (by decide)
            rw [Nat.add_comm] at follows
            simp only [List.drop_succ_cons] at follows
            refine ⟨lengthByte :: after.take (lengthByte.toNat % 128),rest,?_,?_⟩
            · rw [tagged,← follows,List.cons_append,List.take_append_drop]
            · rw [← spelled]
              have spells := Spells.long _ few
              rwa [← lead] at spells
        · rename_i low
          rw [high_bit,not_le] at low
          obtain ⟨spelled,rest,follows,-⟩ := value_some.mp decoded
          simp only [List.drop_succ_cons,List.drop_zero] at follows
          refine ⟨[lengthByte],rest,by rw [tagged,follows]; rfl,?_⟩
          rw [← spelled]
          have spells := Spells.short lengthByte.toNat low
          rwa [UInt8.ofNat_toNat] at spells

theorem field_decoded {rest : Bytes} (spells : Spells field (utf8 text).length) :
    decodeAsn1Utf8String (0x0C :: (field ++ (utf8 text ++ rest))) = some text := by
  generalize counted : (utf8 text).length = n at spells
  cases spells with
  | short _ small =>
      have low : ¬ (UInt8.ofNat n &&& 0x80 ≠ 0) := by
        rw [high_bit,small_toNat small]
        omega
      simp only [decodeAsn1Utf8String,List.cons_append,List.nil_append]
      rw [if_neg (by simp),if_neg low,small_toNat small]
      exact value_some.mpr ⟨counted.symm,rest,rfl,by simp⟩
  | long bytes few =>
      have high : UInt8.ofNat (128+bytes.length) &&& 0x80 ≠ 0 := by
        rw [high_bit,lead_toNat few]
        omega
      have count : (UInt8.ofNat (128+bytes.length) &&& 0x7F).toNat = bytes.length := by
        rw [low_bits,lead_toNat few]
        omega
      simp only [decodeAsn1Utf8String,List.cons_append]
      rw [if_neg (by simp),if_pos high,count]
      rw [if_neg (by simp only [List.length_cons,List.length_append]; omega)]
      refine value_some.mpr ⟨?_,rest,?_,?_⟩
      · simp only [List.drop_succ_cons,List.drop_zero,List.take_left,counted]
      · rw [Nat.add_comm]
        simp only [List.drop_succ_cons,List.drop_left]
      · simp only [List.length_cons,List.length_append]
        omega

theorem encode_field (bounded : (utf8 text).length < 256 ^ 127) :
    encodeAsn1Utf8String text = .ok (0x0C :: (lengthField (utf8 text).length ++ utf8 text)) := by
  unfold encodeAsn1Utf8String lengthField
  simp only
  split
  · rfl
  · have few := lengthBytes_few.mpr bounded
    have lead : 0x80 ||| (lengthBytes (utf8 text).length []).length = 128+(lengthBytes (utf8 text).length []).length := by
      rw [Nat.or_comm,show (0x80 : Nat) = 2 ^ 7 from rfl,Nat.or_two_pow_eq_add_of_lt (by omega),Nat.add_comm]
    rw [lead,if_pos (by omega)]
    rfl

-- From 256^127 bytes on no length field spells the length.
theorem encode_overflows (long : ¬ (utf8 text).length < 256 ^ 127) :
    ¬ ∃ data, encodeAsn1Utf8String text = .ok data ∧ decodeAsn1Utf8String data = some text := by
  rintro ⟨data,encoded,decoded⟩
  have large : ¬ (utf8 text).length < 128 := fun small => long (small.trans (by decide))
  unfold encodeAsn1Utf8String at encoded
  simp only [if_neg large] at encoded
  split at encoded
  · cases encoded
    obtain ⟨field,rest,-,spells⟩ := decoded_field decoded
    exact long (spells_bounded spells)
  · cases encoded

theorem exact_reencodes (exactly : Exact data) (decoded : decodeAsn1Utf8String data = some text) :
    encodeAsn1Utf8String text = .ok data ∧ Der data := by
  obtain ⟨field,rest,whole,spells⟩ := decoded_field decoded
  obtain ⟨shortest,nothing⟩ := exactly field text rest whole spells
  rw [nothing,List.append_nil] at whole
  refine ⟨?_,field,text,whole,shortest⟩
  rw [encode_field (spells_bounded spells),← shortest_field shortest,whole]

theorem reencoded_exact (reencodes : ∀ text, decodeAsn1Utf8String data = some text → encodeAsn1Utf8String text = .ok data) :
    Exact data := by
  intro field text rest whole spells
  have bounded := spells_bounded spells
  have again := reencodes text (by rw [whole]; exact field_decoded spells)
  rw [encode_field bounded,Except.ok.injEq,whole] at again
  have shortest := field_shortest bounded
  obtain ⟨field',tail⟩ := spells_delimits (shortest_spells shortest) spells (List.cons.inj again).2
  rw [field'] at shortest
  exact ⟨shortest,List.self_eq_append_right.mp tail⟩

-- A text comes back while its length can be spelled. What is accepted is the encoding of
-- what is returned, and all else is refused, if a UTF8String at the start of the value is
-- the whole of it and has its length in the shortest form.
theorem codec_exact (text : String) (data : Bytes) :
    ((∃ data, encodeAsn1Utf8String text = .ok data ∧ decodeAsn1Utf8String data = some text) ↔
      (utf8 text).length < 256 ^ 127) ∧
    (((∀ text, decodeAsn1Utf8String data = some text → encodeAsn1Utf8String text = .ok data) ∧
      (¬ Der data → decodeAsn1Utf8String data = none)) ↔ Exact data) := by
  refine ⟨⟨?_,?_⟩,⟨fun holds => reencoded_exact holds.1,?_⟩⟩
  · intro returned
    by_contra long
    exact encode_overflows long returned
  · intro bounded
    refine ⟨_,encode_field bounded,?_⟩
    have spells := shortest_spells (field_shortest bounded)
    have whole := @field_decoded _ text [] spells
    rwa [List.append_nil] at whole
  · intro exactly
    refine ⟨fun text decoded => (exact_reencodes exactly decoded).1,fun other => ?_⟩
    cases decoded : decodeAsn1Utf8String data with
    | none => rfl
    | some text => exact absurd (exact_reencodes exactly decoded).2 other

-- Bytes after the value, and a length of one byte spelled in two, are read as "a".
theorem loose_accepted :
    decodeAsn1Utf8String [0x0C,1,0x61,0x62] = some "a" ∧ decodeAsn1Utf8String [0x0C,0x81,1,0x61] = some "a" ∧
    encodeAsn1Utf8String "a" = .ok [0x0C,1,0x61] ∧
    ¬ ((∀ text, ∃ data, encodeAsn1Utf8String text = .ok data ∧ decodeAsn1Utf8String data = some text) ∧
      ∀ data text, decodeAsn1Utf8String data = some text → encodeAsn1Utf8String text = .ok data) := by
  have bytes : utf8 "a" = [0x61] := by decide
  have counted : (utf8 "a").length = 1 := by rw [bytes]; rfl
  have trailing : decodeAsn1Utf8String [0x0C,1,0x61,0x62] = some "a" := by
    have read := @field_decoded [1] "a" [0x62] (by rw [counted]; exact .short 1 (by decide))
    rwa [bytes] at read
  have spelled : decodeAsn1Utf8String [0x0C,0x81,1,0x61] = some "a" := by
    have read := @field_decoded [0x81,1] "a" [] (by rw [counted]; exact .long [1] (by decide))
    rwa [bytes] at read
  have encoded : encodeAsn1Utf8String "a" = .ok [0x0C,1,0x61] := by
    rw [encode_field (by rw [counted]; decide),counted,bytes]
    rfl
  refine ⟨trailing,spelled,encoded,?_⟩
  rintro ⟨-,canonical⟩
  have again := canonical _ _ trailing
  rw [encoded] at again
  exact absurd (Except.ok.inj again) (by decide)

end ImageSearch.DeviceIdCodec
