import Mathlib.Data.List.Forall2

namespace ImageSearch.FormTexts

-- Texts are lists of characters. A query is made of pieces, each a name with its value, and what is
-- not plain in these is escaped.
abbrev Text := List Char

def utf8 (text : Text) : List UInt8 := text.flatMap String.utf8EncodeChar

def unreserved (c : Char) : Bool := c.isAlphanum || c = '-' || c = '.' || c = '_' || c = '~'

theorem alphanum_ranges (c : Char) : c.isAlphanum = (decide (c.val ≥ 'A'.val ∧ c.val ≤ 'Z'.val) ||
    (c.val ≥ 'a'.val && c.val ≤ 'z'.val) || (c.val ≥ '0'.val && c.val ≤ '9'.val)) := rfl

def hexDigit (n : Nat) : Char := if n < 10 then Char.ofNat (48+n) else Char.ofNat (55+n)

def hexValue (c : Char) : Option Nat :=
  if '0' ≤ c ∧ c ≤ '9' then some (c.toNat-48)
  else if 'A' ≤ c ∧ c ≤ 'F' then some (c.toNat-55)
  else if 'a' ≤ c ∧ c ≤ 'f' then some (c.toNat-87)
  else none

def escaped (byte : UInt8) : Text := ['%',hexDigit (byte.toNat/16),hexDigit (byte.toNat%16)]

-- A space becomes a plus.
def quoted (c : Char) : Text :=
  if unreserved c then [c] else if c = ' ' then ['+'] else (String.utf8EncodeChar c).flatMap escaped

def quotePlus (text : Text) : Text := text.flatMap quoted

def plusToSpace (text : Text) : Text := text.map fun c => if c = '+' then ' ' else c

-- An escape that is none stays as it is.
def percentBytes : Text → List UInt8
  | '%' :: high :: low :: rest =>
    match hexValue high,hexValue low with
    | some x,some y => UInt8.ofNat (16*x+y) :: percentBytes rest
    | _,_ => 37 :: percentBytes (high :: low :: rest)
  | c :: rest => String.utf8EncodeChar c ++ percentBytes rest
  | [] => []

def piece (part : Text) : Text × Option Text :=
  (part.takeWhile fun c => c ≠ '=',if '=' ∈ part then some ((part.dropWhile fun c => c ≠ '=').drop 1) else none)

def pieces (query : Text) : List (Text × Option Text) := (query.splitOn '&').map piece

def urlencode (fields : List (Text × Text)) : Text :=
  ['&'].intercalate (fields.map fun field => quotePlus field.1 ++ '=' :: quotePlus field.2)

variable {text rest : Text} {c : Char}

theorem hex_digit {n : Nat} (small : n < 16) : hexValue (hexDigit n) = some n ∧ (hexDigit n).isAlphanum = true := by
  have all : ∀ n : Fin 16, hexValue (hexDigit n) = some n.val ∧ (hexDigit n).isAlphanum = true := by decide
  exact all ⟨n,small⟩

def fieldChar (c : Char) : Bool := unreserved c || c = '%' || c = '+'

theorem quoted_field (c : Char) : ∀ d ∈ quoted c, fieldChar d = true := by
  intro d member
  unfold quoted at member
  split at member
  · rename_i plain
    cases List.mem_singleton.mp member
    simp [fieldChar,plain]
  · split at member
    · cases List.mem_singleton.mp member
      decide
    · obtain ⟨byte,-,inEscape⟩ := List.mem_flatMap.mp member
      have bounded : byte.toNat < 256 := byte.toNat_lt
      unfold escaped at inEscape
      rcases List.mem_cons.mp inEscape with rfl | inEscape
      · decide
      have digit : d.isAlphanum = true := by
        rcases List.mem_cons.mp inEscape with rfl | inEscape
        · exact (hex_digit (by omega)).2
        · cases List.mem_singleton.mp inEscape
          exact (hex_digit (by omega)).2
      simp [fieldChar,unreserved,digit]

theorem quotePlus_field : ∀ d ∈ quotePlus text, fieldChar d = true := by
  intro d member
  obtain ⟨c,-,within⟩ := List.mem_flatMap.mp member
  exact quoted_field c d within

theorem percent_escaped (byte : UInt8) : percentBytes (escaped byte ++ rest) = byte :: percentBytes rest := by
  have bounded : byte.toNat < 256 := byte.toNat_lt
  have high := (@hex_digit (byte.toNat/16) (by omega)).1
  have low := (@hex_digit (byte.toNat%16) (by omega)).1
  have whole : UInt8.ofNat (16*(byte.toNat/16)+byte.toNat%16) = byte := by
    rw [Nat.div_add_mod]
    exact UInt8.ofNat_toNat
  unfold escaped
  simp only [List.cons_append,List.nil_append,percentBytes,high,low,whole]

theorem percent_escapes (bytes : List UInt8) : percentBytes (bytes.flatMap escaped ++ rest) = bytes ++ percentBytes rest := by
  induction bytes with
  | nil => rfl
  | cons byte bytes ih => rw [List.flatMap_cons,List.append_assoc,percent_escaped,ih,List.cons_append]

theorem percent_plain (plain : c ≠ '%') : percentBytes (c :: rest) = String.utf8EncodeChar c ++ percentBytes rest :=
  percentBytes.eq_2 c rest fun _ _ _ same _ => plain same

theorem unreserved_plain (plain : unreserved c = true) : c ≠ '%' ∧ c ≠ '+' := by
  constructor
  · rintro rfl
    exact absurd plain (by decide)
  · rintro rfl
    exact absurd plain (by decide)

theorem percent_unescaped (unescaped : '%' ∉ text) : percentBytes text = utf8 text := by
  induction text with
  | nil => rfl
  | cons c rest ih =>
      rw [List.mem_cons,not_or] at unescaped
      rw [percent_plain (Ne.symm unescaped.1),ih unescaped.2]
      rfl

theorem plus_kept (plusless : '+' ∉ text) : plusToSpace text = text := by
  unfold plusToSpace
  refine (List.map_congr_left fun c member => if_neg ?_).trans (List.map_id text)
  rintro rfl
  exact plusless member

theorem escapes_plus (bytes : List UInt8) : plusToSpace (bytes.flatMap escaped) = bytes.flatMap escaped := by
  refine plus_kept fun member => ?_
  obtain ⟨byte,-,within⟩ := List.mem_flatMap.mp member
  have bounded : byte.toNat < 256 := byte.toNat_lt
  have digit (n : Nat) (small : n < 16) : hexDigit n ≠ '+' := by
    intro same
    have alphanumeric := (hex_digit small).2
    rw [same] at alphanumeric
    exact absurd alphanumeric (by decide)
  unfold escaped at within
  rcases List.mem_cons.mp within with same | within
  · exact absurd same (by decide)
  · rcases List.mem_cons.mp within with same | within
    · exact digit _ (by omega) same.symm
    · exact digit _ (by omega) (List.mem_singleton.mp within).symm

theorem unquoted : percentBytes (plusToSpace (quotePlus text)) = utf8 text := by
  induction text with
  | nil => rfl
  | cons c rest ih =>
      unfold quotePlus utf8 at *
      rw [List.flatMap_cons,List.flatMap_cons,← ih]
      generalize rest.flatMap quoted = later
      unfold quoted
      split
      · rename_i plain
        obtain ⟨unescaped,plusless⟩ := unreserved_plain plain
        have kept : plusToSpace ([c] ++ later) = c :: plusToSpace later := by
          simp [plusToSpace,plusless]
        rw [kept,percent_plain unescaped]
      · split
        · rename_i blank
          subst blank
          have spaced : plusToSpace (['+'] ++ later) = ' ' :: plusToSpace later := rfl
          rw [spaced,percent_plain (by decide)]
        · have apart : plusToSpace ((String.utf8EncodeChar c).flatMap escaped ++ later) =
              (String.utf8EncodeChar c).flatMap escaped ++ plusToSpace later := by
            unfold plusToSpace
            rw [List.map_append]
            exact congrArg (· ++ _) (escapes_plus _)
          rw [apart,percent_escapes]

theorem unquoted_plain (spaceless : ' ' ∉ text) : percentBytes (quotePlus text) = utf8 text := by
  have plusless : '+' ∉ quotePlus text := by
    intro member
    obtain ⟨c,inText,within⟩ := List.mem_flatMap.mp member
    unfold quoted at within
    split at within
    · rename_i plain
      exact (unreserved_plain plain).2 (List.mem_singleton.mp within).symm
    · split at within
      · rename_i blank
        exact spaceless (blank ▸ inText)
      · have kept := escapes_plus (String.utf8EncodeChar c)
        unfold plusToSpace at kept
        rw [← kept] at within
        obtain ⟨d,-,becomes⟩ := List.mem_map.mp within
        split at becomes
        · exact absurd becomes (by decide)
        · rename_i other
          exact other becomes
  rw [← @unquoted text,plus_kept plusless]

theorem piece_field (name value : Text) : piece (quotePlus name ++ '=' :: quotePlus value) = (quotePlus name,some (quotePlus value)) := by
  have equalless : ∀ c ∈ quotePlus name, c ≠ '=' := by
    rintro c member rfl
    exact absurd (quotePlus_field _ member) (by decide)
  unfold piece
  rw [if_pos (by simp),List.takeWhile_append_of_pos (by simpa using equalless),List.dropWhile_append_of_pos (by simpa using equalless)]
  simp

theorem parts_urlencode {fields : List (Text × Text)} (some : fields ≠ []) :
    (urlencode fields).splitOn '&' = fields.map fun field => quotePlus field.1 ++ '=' :: quotePlus field.2 := by
  unfold urlencode
  refine List.splitOn_intercalate '&' ?_ (by simpa using some)
  intro part member
  obtain ⟨field,-,rfl⟩ := List.mem_map.mp member
  rw [List.mem_append,List.mem_cons]
  rintro (within | same | within)
  · exact absurd (quotePlus_field _ within) (by decide)
  · exact absurd same (by decide)
  · exact absurd (quotePlus_field _ within) (by decide)

theorem pieces_urlencode {fields : List (Text × Text)} (some : fields ≠ []) :
    pieces (urlencode fields) = fields.map fun field => (quotePlus field.1,Option.some (quotePlus field.2)) := by
  unfold pieces
  rw [parts_urlencode some,List.map_map]
  exact List.map_congr_left fun field _ => piece_field field.1 field.2

theorem mem_intercalate {separator : Char} {parts : List Text} (member : c ∈ [separator].intercalate parts) :
    c = separator ∨ ∃ part ∈ parts, c ∈ part := by
  induction parts with
  | nil => cases member
  | cons part others ih =>
      cases others with
      | nil =>
          rw [List.intercalate_singleton] at member
          exact .inr ⟨part,List.mem_singleton_self part,member⟩
      | cons next others =>
          rw [List.intercalate_cons_cons,List.mem_append,List.mem_append,List.mem_singleton] at member
          rcases member with (inPart | same) | later
          · exact .inr ⟨part,List.mem_cons_self,inPart⟩
          · exact .inl same
          · rcases ih later with same | ⟨found,there,within⟩
            · exact .inl same
            · exact .inr ⟨found,List.mem_cons_of_mem part there,within⟩

theorem intercalate_mem {separator : Char} {parts : List Text} {part : Text} (there : part ∈ parts) (member : c ∈ part) :
    c ∈ [separator].intercalate parts := by
  induction parts with
  | nil => cases there
  | cons first others ih =>
      cases others with
      | nil =>
          rw [List.intercalate_singleton,← List.mem_singleton.mp there]
          exact member
      | cons next others =>
          rw [List.intercalate_cons_cons,List.mem_append,List.mem_append]
          rcases List.mem_cons.mp there with rfl | there
          · exact .inl (.inl member)
          · exact .inr (ih there)

theorem mem_splitOn (separator : Char) (member : c ∈ text) : c = separator ∨ ∃ part ∈ text.splitOn separator, c ∈ part := by
  have whole : [separator].intercalate (text.splitOn separator) = text := List.intercalate_splitOn separator
  rw [← whole] at member
  exact mem_intercalate member

-- What a form has for another list: some of one thing may have become another.
def Became {α : Type} (old new b a : α) : Prop := b = a ∨ (a = old ∧ b = new)

theorem became_old {α : Type} {old new : α} {after before : List α} (became : List.Forall₂ (Became old new) after before)
    (absent : old ∉ before) : after = before := by
  induction became with
  | nil => rfl
  | cons first _ ih =>
      rw [List.mem_cons,not_or] at absent
      rcases first with rfl | ⟨rfl,-⟩
      · rw [ih absent.2]
      · exact absurd rfl absent.1

theorem became_new {α : Type} {old new : α} {after before : List α} (became : List.Forall₂ (Became old new) after before)
    (absent : new ∉ after) : after = before := by
  induction became with
  | nil => rfl
  | cons first _ ih =>
      rw [List.mem_cons,not_or] at absent
      rcases first with rfl | ⟨-,rfl⟩
      · rw [ih absent.2]
      · exact absurd rfl absent.1

theorem became_refl {α : Type} {old new : α} (list : List α) : List.Forall₂ (Became old new) list list :=
  List.forall₂_same.mpr fun _ _ => .inl rfl

theorem hex_space (c : Char) : hexValue (if c = '+' then ' ' else c) = hexValue c := by
  split
  · subst c
    decide
  · rfl

theorem percent_spaces (text : Text) :
    List.Forall₂ (Became 43 32) (percentBytes (plusToSpace text)) (percentBytes text) := by
  fun_induction percentBytes text with
  | case1 high low rest x y first second ih =>
      have spaced : plusToSpace ('%' :: high :: low :: rest) =
          '%' :: (if high = '+' then ' ' else high) :: (if low = '+' then ' ' else low) :: plusToSpace rest := rfl
      rw [spaced,percentBytes,hex_space,hex_space,first,second]
      exact .cons (.inl rfl) ih
  | case2 high low rest notHex ih =>
      have spaced : plusToSpace ('%' :: high :: low :: rest) =
          '%' :: (if high = '+' then ' ' else high) :: (if low = '+' then ' ' else low) :: plusToSpace rest := rfl
      rw [spaced,percentBytes,hex_space,hex_space]
      split
      · rename_i x y first second
        exact absurd second (notHex x y first)
      · exact .cons (.inl rfl) ih
  | case3 c rest single ih =>
      have spaced : plusToSpace (c :: rest) = (if c = '+' then ' ' else c) :: plusToSpace rest := rfl
      have apart : percentBytes ((if c = '+' then ' ' else c) :: plusToSpace rest) =
          String.utf8EncodeChar (if c = '+' then ' ' else c) ++ percentBytes (plusToSpace rest) := by
        refine percentBytes.eq_2 _ _ fun high low later same shown => ?_
        have percent : c = '%' := by
          split at same
          · exact absurd same (by decide)
          · exact same
        match rest,shown with
        | x :: y :: rest,_ => exact single x y rest percent rfl
      rw [spaced,apart]
      refine List.rel_append ?_ ih
      split
      · subst c
        exact .cons (.inr ⟨rfl,rfl⟩) .nil
      · exact became_refl _
  | case4 => exact .nil

theorem plus_byte (byte : 43 ∈ String.utf8EncodeChar c) : c = '+' := by
  have value (n : Nat) (same : 43 = UInt8.ofNat n) : n % 256 = 43 := by
    have numbers := congrArg UInt8.toNat same
    rw [UInt8.toNat_ofNat'] at numbers
    exact numbers.symm
  unfold String.utf8EncodeChar at byte
  simp only at byte
  split at byte
  · have number := value _ (List.mem_singleton.mp byte)
    refine Char.ext (UInt32.toNat_inj.mp ?_)
    change c.val.toNat = 43
    omega
  · exfalso
    split at byte
    · simp only [List.mem_cons,List.not_mem_nil,or_false] at byte
      rcases byte with same | same
      all_goals
        have number := value _ same
        omega
    · split at byte
      · simp only [List.mem_cons,List.not_mem_nil,or_false] at byte
        rcases byte with same | same | same
        all_goals
          have number := value _ same
          omega
      · simp only [List.mem_cons,List.not_mem_nil,or_false] at byte
        rcases byte with same | same | same | same
        all_goals
          have number := value _ same
          omega

theorem decoded_spaces {after : List UInt8} (became : List.Forall₂ (Became 43 32) after (utf8 text)) :
    ∃ spaced : Text, after = utf8 spaced ∧ List.Forall₂ (Became '+' ' ') spaced text := by
  induction text generalizing after with
  | nil => exact ⟨[],List.forall₂_nil_right_iff.mp became,.nil⟩
  | cons c rest ih =>
      have split : utf8 (c :: rest) = String.utf8EncodeChar c ++ utf8 rest := List.flatMap_cons
      rw [split] at became
      obtain ⟨spaced,later,others⟩ := ih (List.forall₂_drop_append _ _ _ became)
      have first := List.forall₂_take_append _ _ _ became
      have whole := List.take_append_drop (String.utf8EncodeChar c).length after
      by_cases plus : c = '+'
      · subst c
        rw [show String.utf8EncodeChar '+' = [43] from rfl] at first later whole
        obtain ⟨byte,tail,becomes,none,taken⟩ := List.forall₂_cons_right_iff.mp first
        cases List.forall₂_nil_right_iff.mp none
        rw [taken,later] at whole
        rcases becomes with rfl | ⟨-,rfl⟩
        · exact ⟨'+' :: spaced,whole.symm,.cons (.inl rfl) others⟩
        · exact ⟨' ' :: spaced,whole.symm,.cons (.inr ⟨rfl,rfl⟩) others⟩
      · have same := became_old first fun byte => plus (plus_byte byte)
        refine ⟨c :: spaced,?_,.cons (.inl rfl) others⟩
        rw [← whole,same,later]
        rfl

end ImageSearch.FormTexts
