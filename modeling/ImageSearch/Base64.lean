import Mathlib.Data.List.Basic

namespace ImageSearch.Base64

-- Three bytes are four numbers below 64; one or two bytes at the end are two or three.
def sextets : List UInt8 → List Nat
  | [] => []
  | [a] => [a.toNat / 4,a.toNat % 4 * 16]
  | [a,b] => [a.toNat / 4,a.toNat % 4 * 16 + b.toNat / 16,b.toNat % 16 * 4]
  | a :: b :: c :: rest =>
    a.toNat / 4 :: (a.toNat % 4 * 16 + b.toNat / 16) :: (b.toNat % 16 * 4 + c.toNat / 64) :: c.toNat % 64 :: sextets rest

def padding : List UInt8 → Nat
  | [] => 0
  | [_] => 2
  | [_,_] => 1
  | _ :: _ :: _ :: rest => padding rest

def symbol (n : Nat) : Char :=
  if n < 26 then Char.ofNat (65 + n)
  else if n < 52 then Char.ofNat (71 + n)
  else if n < 62 then Char.ofNat (n - 4)
  else if n = 62 then '+'
  else '/'

def encode (bytes : List UInt8) : List Char := (sextets bytes).map symbol ++ List.replicate (padding bytes) '='

def urlsafe (c : Char) : Char := if c = '+' then '-' else if c = '/' then '_' else c

theorem sextets_bound (bytes : List UInt8) : ∀ n ∈ sextets bytes, n < 64 := by
  induction bytes using sextets.induct with
  | case1 => simp [sextets]
  | case2 a =>
      have := a.toNat_lt
      simp only [sextets,List.mem_cons,List.not_mem_nil,or_false]
      omega
  | case3 a b =>
      have := a.toNat_lt
      have := b.toNat_lt
      simp only [sextets,List.mem_cons,List.not_mem_nil,or_false]
      omega
  | case4 a b c rest ih =>
      have := a.toNat_lt
      have := b.toNat_lt
      have := c.toNat_lt
      intro n member
      simp only [sextets,List.mem_cons] at member
      rcases member with rfl | rfl | rfl | rfl | member
      · omega
      · omega
      · omega
      · omega
      · exact ih n member

theorem sextets_injective (one two : List UInt8) (same : sextets one = sextets two) : one = two := by
  induction one using sextets.induct generalizing two with
  | case1 =>
      match two with
      | [] => rfl
      | [_] | [_,_] | _ :: _ :: _ :: _ => simp [sextets] at same
  | case2 a =>
      match two with
      | [] | [_,_] | _ :: _ :: _ :: _ => simp [sextets] at same
      | [a'] =>
          simp only [sextets,List.cons.injEq,and_true] at same
          have bytes : a = a' := UInt8.toNat_inj.mp (by omega)
          rw [bytes]
  | case3 a b =>
      match two with
      | [] | [_] | _ :: _ :: _ :: _ => simp [sextets] at same
      | [a',b'] =>
          have := b.toNat_lt
          have := b'.toNat_lt
          simp only [sextets,List.cons.injEq,and_true] at same
          have first : a = a' := UInt8.toNat_inj.mp (by omega)
          have second : b = b' := UInt8.toNat_inj.mp (by omega)
          rw [first,second]
  | case4 a b c rest ih =>
      match two with
      | [] | [_] | [_,_] => simp [sextets] at same
      | a' :: b' :: c' :: rest' =>
          have := b.toNat_lt
          have := b'.toNat_lt
          have := c.toNat_lt
          have := c'.toNat_lt
          simp only [sextets,List.cons.injEq] at same
          obtain ⟨one,two,three,four,others⟩ := same
          have first : a = a' := UInt8.toNat_inj.mp (by omega)
          have second : b = b' := UInt8.toNat_inj.mp (by omega)
          have third : c = c' := UInt8.toNat_inj.mp (by omega)
          rw [first,second,third,ih rest' others]

theorem symbol_cases : ∀ n < 64, urlsafe (symbol n) ≠ '=' ∧ symbol n ≠ '=' ∧ (urlsafe (symbol n)).toNat < 128 ∧
    ∀ m < 64, urlsafe (symbol n) = urlsafe (symbol m) → n = m := by decide

theorem encode_injective (one two : List UInt8)
    (same : ((sextets one).map symbol).map urlsafe = ((sextets two).map symbol).map urlsafe) : one = two := by
  apply sextets_injective
  have small := sextets_bound one
  have small' := sextets_bound two
  rw [List.map_map,List.map_map] at same
  generalize sextets one = left at same small
  generalize sextets two = right at same small'
  induction left generalizing right with
  | nil =>
      cases right with
      | nil => rfl
      | cons m right => simp at same
  | cons n left ih =>
      cases right with
      | nil => simp at same
      | cons m right =>
          simp only [List.map_cons,List.cons.injEq] at same
          have head : n = m := (symbol_cases n (small n (by simp))).2.2.2 m (small' m (by simp)) same.1
          have tail := ih (fun k member => small k (List.mem_cons_of_mem n member)) right same.2 fun k member =>
            small' k (List.mem_cons_of_mem m member)
          rw [head,tail]

def unpadded (bytes : List UInt8) : List Char := ((sextets bytes).map symbol).map urlsafe

theorem unpadded_mem {bytes : List UInt8} {c : Char} (member : c ∈ unpadded bytes) : ∃ n < 64, c = urlsafe (symbol n) := by
  unfold unpadded at member
  rw [List.map_map] at member
  obtain ⟨n,there,rfl⟩ := List.mem_map.mp member
  exact ⟨n,sextets_bound bytes n there,rfl⟩

theorem padding_length (bytes : List UInt8) : padding bytes = (4 - (sextets bytes).length % 4) % 4 := by
  induction bytes using sextets.induct with
  | case1 => rfl
  | case2 a => rfl
  | case3 a b => rfl
  | case4 a b c rest ih =>
      rw [padding,sextets,ih]
      simp only [List.length_cons]
      omega

theorem unpadded_length (bytes : List UInt8) : (unpadded bytes).length = (sextets bytes).length := by
  unfold unpadded
  rw [List.length_map,List.length_map]

theorem encode_urlsafe (bytes : List UInt8) : (encode bytes).map urlsafe =
    unpadded bytes ++ List.replicate ((4 - (unpadded bytes).length % 4) % 4) '=' := by
  rw [unpadded_length,← padding_length]
  unfold encode unpadded
  rw [List.map_append,List.map_replicate]
  rfl

theorem unpadded_some {bytes : List UInt8} (some : bytes ≠ []) : unpadded bytes ≠ [] := by
  intro empty
  have length := unpadded_length bytes
  rw [empty] at length
  have none := List.length_eq_zero_iff.mp length.symm
  exact some (sextets_injective bytes [] (none.trans rfl))

def value (c : Char) : Option Nat := (List.range 64).find? fun n => symbol n = c || urlsafe (symbol n) = c

def bytesOf : List Nat → List UInt8
  | a :: b :: c :: d :: rest =>
    UInt8.ofNat (a * 4 + b / 16) :: UInt8.ofNat (b % 16 * 16 + c / 4) :: UInt8.ofNat (c % 4 * 64 + d) :: bytesOf rest
  | [a,b,c] => [UInt8.ofNat (a * 4 + b / 16),UInt8.ofNat (b % 16 * 16 + c / 4)]
  | [a,b] => [UInt8.ofNat (a * 4 + b / 16)]
  | _ => []

def decode (text : List Char) : List UInt8 := bytesOf (text.filterMap value)

theorem value_symbol : ∀ n < 64, value (symbol n) = some n ∧ value (urlsafe (symbol n)) = some n := by decide

theorem value_padding : value '=' = none := by decide

theorem byte_of {n : Nat} {a : UInt8} (same : n = a.toNat) : UInt8.ofNat n = a := by
  subst same
  exact UInt8.ofNat_toNat

theorem bytesOf_sextets (bytes : List UInt8) : bytesOf (sextets bytes) = bytes := by
  induction bytes using sextets.induct with
  | case1 => rfl
  | case2 a =>
      have := a.toNat_lt
      rw [sextets,bytesOf,@byte_of _ a (by omega)]
  | case3 a b =>
      have := a.toNat_lt
      have := b.toNat_lt
      rw [sextets,bytesOf,@byte_of _ a (by omega),@byte_of _ b (by omega)]
  | case4 a b c rest ih =>
      have := a.toNat_lt
      have := b.toNat_lt
      have := c.toNat_lt
      rw [sextets,bytesOf,ih,@byte_of _ a (by omega),@byte_of _ b (by omega),@byte_of _ c (by omega)]

theorem values_padding (k : Nat) : (List.replicate k '=').filterMap value = [] := by
  rw [List.filterMap_replicate,value_padding]

theorem decode_encode (bytes : List UInt8) : decode (encode bytes) = bytes := by
  have values : ((sextets bytes).map symbol).filterMap value = sextets bytes := by
    rw [List.filterMap_map]
    refine (List.filterMap_congr fun n member => ?_).trans List.filterMap_some
    exact (value_symbol n (sextets_bound bytes n member)).1
  unfold decode encode
  rw [List.filterMap_append,values,values_padding,List.append_nil,bytesOf_sextets]

theorem decode_urlsafe (bytes : List UInt8) : decode ((encode bytes).map urlsafe) = bytes := by
  have values : (unpadded bytes).filterMap value = sextets bytes := by
    unfold unpadded
    rw [List.filterMap_map,List.filterMap_map]
    refine (List.filterMap_congr fun n member => ?_).trans List.filterMap_some
    exact (value_symbol n (sextets_bound bytes n member)).2
  unfold decode
  rw [encode_urlsafe,List.filterMap_append,values,values_padding,List.append_nil,bytesOf_sextets]

end ImageSearch.Base64
