import ImageSearch.PairingLinks
import Mathlib.Data.List.TakeWhile

namespace ImageSearch.StandardUrls
open FormTexts PairingTokens PairingLinks
open Payload (stripChars stripChars_self)

-- What may stand in a URL of RFC 3986, apart from an escape and a bracketed address; 39 is the apostrophe.
def urlChar (c : Char) : Bool :=
  unreserved c || c ∈ [':','/','?','#','@','!','$','&','(',')','*','+',',',';','=',Char.ofNat 39]

def escapesWhole : Text → Bool
  | '%' :: high :: low :: rest => (hexValue high).isSome && (hexValue low).isSome && escapesWhole rest
  | c :: rest => urlChar c && escapesWhole rest
  | [] => true

def urlText (text : Text) : Bool := escapesWhole text && text.count '#' ≤ 1

def rfcQuery (text : Text) : Option Text :=
  let main := before '#' text
  if '?' ∈ main then some (after '?' main) else none

def rfcFragment (text : Text) : Option Text := if '#' ∈ text then some (after '#' text) else none

-- The WHATWG's URLs: what surrounds one is left out, the query and the fragment are RFC 3986's, a known
-- host is one, and port 80 is no port of an http URL.
structure Standard (idna : Text → Bool) (js : Javascript) : Prop where
  blanks : ∀ text c, c.toNat ≤ 32 → js.url (c :: text) = js.url text ∧ js.url (text ++ [c]) = js.url text
  parts : ∀ text url, urlText text = true → js.url text = some url →
    url.searchParams = searchParams js ((rfcQuery text).getD []) ∧ url.hash = (rfcFragment text).getD []
  accepted : ∀ query, '#' ∉ query → urlText (payloadBase ++ query) = true → (js.url (payloadBase ++ query)).isSome = true
  endpoint : ∀ e, Known idna e → ∃ url, js.url (httpBase ++ e.target) = some url ∧
    url.hostname ≠ [] ∧ (url.port = [] ↔ e.port = 80)
  decoded : ∀ text, js.utf8Decode (utf8 text) = text

structure Conforms (idna : Text → Bool) (f : Foundation) : Prop where
  parts : ∀ text components, urlText text = true → f.components text = some components →
    components.query = rfcQuery text ∧ components.fragment = rfcFragment text
  accepted : ∀ query, '#' ∉ query → urlText (payloadBase ++ query) = true → ∃ components,
    f.components (payloadBase ++ query) = some components ∧ components.scheme = some "https".toList ∧
      components.host = some "dl.boldman.net".toList
  endpoint : ∀ e, Known idna e → ∃ components, f.components (httpBase ++ e.target) = some components ∧
    components.host.isSome = true ∧ components.port.isSome = true ∧ f.url components = true
  fragment : ∀ text, '%' ∉ text → f.fragment text = some text
  itemText : ∀ raw text, escapesWhole raw = true → percentBytes raw = utf8 text → f.itemText raw = text
  joins : ∀ c, c.toNat < 128 → f.joins ',' c = false ∧ f.joins c ',' = false

variable {idna : Text → Bool} {js : Javascript} {f : Foundation} {text rest : Text} {c separator : Char}
  {fields : List (Text × Text)}

-- Of one character of a text after the other; there are finitely many characters in all, too.
theorem each_char {p : Char → Prop} [DecidablePred p] (all : (text.all fun c => decide (p c)) = true) : ∀ c ∈ text, p c :=
  fun c member => of_decide_eq_true (List.all_eq_true.mp all c member)

def graphic (c : Char) : Bool := 33 ≤ c.toNat && c.toNat ≤ 126

theorem graphic_bounds (shown : graphic c = true) : isJsSpace c = false ∧ isSwiftSpace c = false ∧ c ≠ ' ' ∧ c.toNat < 128 := by
  simp only [graphic,Bool.and_eq_true,decide_eq_true_eq] at shown
  have space : c ≠ ' ' := by
    rintro rfl
    exact absurd shown.1 (by decide)
  refine ⟨?_,?_,space,by omega⟩
  · simp [isJsSpace]
    omega
  · simp [isSwiftSpace]
    omega

theorem alphanum_graphic (alphanumeric : c.isAlphanum = true) : graphic c = true := by
  simp [alphanum_ranges,UInt32.le_iff_toNat_le] at alphanumeric
  simp [graphic]
  omega

theorem unreserved_graphic (plain : unreserved c = true) : graphic c = true := by
  simp only [unreserved,Bool.or_eq_true,decide_eq_true_eq] at plain
  rcases plain with (((alphanumeric | rfl) | rfl) | rfl) | rfl
  · exact alphanum_graphic alphanumeric
  all_goals decide

theorem urlChar_graphic (plain : urlChar c = true) : graphic c = true := by
  simp only [urlChar,Bool.or_eq_true,decide_eq_true_eq] at plain
  rcases plain with plain | listed
  · exact unreserved_graphic plain
  · have all : ∀ d ∈ [':','/','?','#','@','!','$','&','(',')','*','+',',',';','=',Char.ofNat 39], graphic d = true := each_char (by decide)
    exact all c listed

theorem targetChar_graphic (plain : targetChar c = true) : graphic c = true := by
  simp only [targetChar,Bool.or_eq_true,decide_eq_true_eq] at plain
  rcases plain with ((((alphanumeric | rfl) | rfl) | rfl) | rfl) | rfl
  · exact alphanum_graphic alphanumeric
  all_goals decide

theorem trimmed (shown : ∀ c ∈ text, graphic c = true) : trim text = text ∧ trimmingCharacters text = text :=
  ⟨stripChars_self fun c member => (graphic_bounds (shown c member)).1,
    stripChars_self fun c member => (graphic_bounds (shown c member)).2.1⟩

section Stripping
variable {α : Type} {drop : Char → Bool} {reading : Text → α}

theorem strip_front (dropped : drop c = true) : stripChars drop (c :: text) = stripChars drop text := by
  unfold stripChars
  rw [List.dropWhile_cons_of_pos dropped]

theorem strip_back (dropped : drop c = true) : stripChars drop (text ++ [c]) = stripChars drop text := by
  unfold stripChars
  rw [List.dropWhile_append]
  split
  · rename_i blank
    rw [List.isEmpty_iff.mp blank,List.dropWhile_cons_of_pos dropped]
    rfl
  · rw [List.reverse_append,List.reverse_singleton,List.singleton_append,List.dropWhile_cons_of_pos dropped]

theorem dropWhile_reading (front : ∀ c ∈ text, ∀ rest, drop c = true → reading (c :: rest) = reading rest) :
    reading (text.dropWhile drop) = reading text := by
  induction text with
  | nil => rfl
  | cons c rest ih =>
      rw [List.dropWhile_cons]
      split
      · rename_i dropped
        rw [ih fun d member => front d (List.mem_cons_of_mem c member),front c List.mem_cons_self rest dropped]
      · rfl

-- What does not see a dropped character in front or at the back reads the stripped text as the text.
theorem strip_reading (front : ∀ c ∈ text, ∀ rest, drop c = true → reading (c :: rest) = reading rest)
    (back : ∀ c ∈ text, ∀ rest, drop c = true → reading (rest ++ [c]) = reading rest) :
    reading (stripChars drop text) = reading text := by
  have mirrored : ∀ c ∈ (text.dropWhile drop).reverse, ∀ rest, drop c = true →
      reading (c :: rest).reverse = reading rest.reverse := by
    intro c member rest dropped
    rw [List.reverse_cons]
    exact back c ((List.dropWhile_sublist drop).subset (List.mem_reverse.mp member)) rest.reverse dropped
  have shorter := @dropWhile_reading _ α drop (fun text => reading text.reverse) mirrored
  rw [List.reverse_reverse] at shorter
  exact shorter.trans (dropWhile_reading front)

end Stripping

theorem whole_cons (plain : c ≠ '%') : escapesWhole (c :: rest) = (urlChar c && escapesWhole rest) :=
  escapesWhole.eq_2 c rest fun _ _ _ same _ => plain same

theorem urlChar_plain (plain : urlChar c = true) : c ≠ '%' := by
  rintro rfl
  exact absurd plain (by decide)

theorem hex_urlChar (hex : (hexValue c).isSome = true) : urlChar c = true := by
  have range : ('0' ≤ c ∧ c ≤ '9') ∨ ('A' ≤ c ∧ c ≤ 'F') ∨ ('a' ≤ c ∧ c ≤ 'f') := by
    unfold hexValue at hex
    split at hex
    · exact .inl ‹_›
    split at hex
    · exact .inr (.inl ‹_›)
    split at hex
    · exact .inr (.inr ‹_›)
    · cases hex
  have alphanumeric : c.isAlphanum = true := by
    simp [Char.le_def,UInt32.le_iff_toNat_le] at range
    simp [alphanum_ranges,UInt32.le_iff_toNat_le]
    omega
  simp [urlChar,unreserved,alphanumeric]

theorem whole_chars (whole : escapesWhole text = true) : ∀ c ∈ text, c = '%' ∨ urlChar c = true := by
  fun_induction escapesWhole text with
  | case1 high low rest ih =>
      rw [Bool.and_eq_true,Bool.and_eq_true] at whole
      obtain ⟨⟨first,second⟩,whole⟩ := whole
      intro c member
      rcases List.mem_cons.mp member with rfl | member
      · exact .inl rfl
      rcases List.mem_cons.mp member with rfl | member
      · exact .inr (hex_urlChar first)
      rcases List.mem_cons.mp member with rfl | member
      · exact .inr (hex_urlChar second)
      · exact ih whole c member
  | case2 c rest _ ih =>
      rw [Bool.and_eq_true] at whole
      intro d member
      rcases List.mem_cons.mp member with rfl | member
      · exact .inr whole.1
      · exact ih whole.2 d member
  | case3 => exact fun _ member => absurd member List.not_mem_nil

theorem whole_graphic (whole : escapesWhole text = true) : ∀ c ∈ text, graphic c = true := by
  intro c member
  rcases whole_chars whole c member with rfl | plain
  · decide
  · exact urlChar_graphic plain

theorem whole_plain (plain : ∀ c ∈ text, urlChar c = true) : escapesWhole (text ++ rest) = escapesWhole rest := by
  induction text with
  | nil => rfl
  | cons c text ih =>
      have first := plain c List.mem_cons_self
      rw [List.cons_append,whole_cons (urlChar_plain first),first,Bool.true_and,ih fun d member => plain d (List.mem_cons_of_mem c member)]

theorem whole_escapes (bytes : List UInt8) : escapesWhole (bytes.flatMap escaped ++ rest) = escapesWhole rest := by
  induction bytes with
  | nil => rfl
  | cons byte bytes ih =>
      have bounded : byte.toNat < 256 := byte.toNat_lt
      have high := (@hex_digit (byte.toNat/16) (by omega)).1
      have low := (@hex_digit (byte.toNat%16) (by omega)).1
      rw [List.flatMap_cons,List.append_assoc,← ih]
      unfold escaped
      simp only [List.cons_append,List.nil_append,escapesWhole,high,low,Option.isSome_some,Bool.true_and]

theorem whole_quoted : escapesWhole (quotePlus text ++ rest) = escapesWhole rest := by
  induction text with
  | nil => rfl
  | cons c text ih =>
      unfold quotePlus at ih ⊢
      rw [List.flatMap_cons,List.append_assoc,← ih]
      unfold quoted
      split
      · rename_i plain
        exact whole_plain (by simp [urlChar,plain])
      · split
        · exact whole_plain (each_char (by decide))
        · exact whole_escapes _

theorem whole_split (plain : separator ≠ '%') (hexless : hexValue separator = none)
    (whole : escapesWhole (text ++ separator :: rest) = true) : escapesWhole text = true ∧ escapesWhole rest = true := by
  fun_induction escapesWhole text with
  | case1 high low text ih =>
      simp only [List.cons_append,escapesWhole,Bool.and_eq_true] at whole ⊢
      exact ⟨⟨whole.1,(ih whole.2).1⟩,(ih whole.2).2⟩
  | case2 c text single ih =>
      by_cases percent : c = '%'
      · subst c
        exfalso
        match text,rest with
        | [],[] => simp [escapesWhole,urlChar,unreserved] at whole
        | [],low :: later => simp [escapesWhole,hexless] at whole
        | [high],later => simp [escapesWhole,hexless] at whole
        | high :: low :: later,_ => exact single high low later rfl rfl
      · rw [List.cons_append,whole_cons percent,Bool.and_eq_true] at whole
        rw [Bool.and_eq_true]
        exact ⟨⟨whole.1,(ih whole.2).1⟩,(ih whole.2).2⟩
  | case3 =>
      rw [List.nil_append,whole_cons plain,Bool.and_eq_true] at whole
      exact ⟨rfl,whole.2⟩

theorem before_after (member : separator ∈ text) : before separator text ++ separator :: after separator text = text := by
  induction text with
  | nil => cases member
  | cons c text ih =>
      unfold before after at ih ⊢
      by_cases same : c = separator
      · subst c
        simp
      · have later := ih ((List.mem_cons.mp member).resolve_left (Ne.symm same))
        simpa [same] using later

theorem whole_sides (plain : separator ≠ '%') (hexless : hexValue separator = none) (whole : escapesWhole text = true) :
    escapesWhole (before separator text) = true ∧ escapesWhole (after separator text) = true := by
  by_cases member : separator ∈ text
  · rw [← before_after member] at whole
    exact whole_split plain hexless whole
  · have other : ∀ c ∈ text, decide (c ≠ separator) = true := fun c inText =>
      decide_eq_true fun same => member (same ▸ inText)
    have kept : before separator text = text := List.takeWhile_eq_self_iff.mpr other
    have empty : after separator text = [] := by
      unfold after
      rw [List.dropWhile_eq_nil_iff.mpr other]
      rfl
    rw [kept,empty]
    exact ⟨whole,rfl⟩

theorem whole_join {parts : List Text} (plain : separator ≠ '%') (hexless : hexValue separator = none)
    (whole : escapesWhole ([separator].intercalate parts) = true) : ∀ part ∈ parts, escapesWhole part = true := by
  induction parts with
  | nil => exact fun _ member => absurd member List.not_mem_nil
  | cons part others ih =>
      cases others with
      | nil =>
          rw [List.intercalate_singleton] at whole
          intro found there
          rw [List.mem_singleton.mp there]
          exact whole
      | cons next others =>
          rw [List.intercalate_cons_cons,List.append_assoc,List.singleton_append] at whole
          obtain ⟨first,later⟩ := whole_split plain hexless whole
          intro found there
          rcases List.mem_cons.mp there with rfl | there
          · exact first
          · exact ih later found there

theorem whole_pieces (whole : escapesWhole text = true) :
    ∀ part ∈ pieces text, escapesWhole part.1 = true ∧ ∀ value ∈ part.2, escapesWhole value = true := by
  intro part member
  obtain ⟨raw,there,rfl⟩ := List.mem_map.mp member
  have joined : ['&'].intercalate (text.splitOn '&') = text := List.intercalate_splitOn '&'
  rw [← joined] at whole
  have sides := @whole_sides raw '=' (by decide) (by decide) (whole_join (by decide) (by decide) whole raw there)
  refine ⟨sides.1,fun value given => ?_⟩
  unfold piece at given
  split at given
  · cases given
    exact sides.2
  · cases given

theorem whole_urlencode (fields : List (Text × Text)) : escapesWhole (urlencode fields) = true := by
  have field (field : Text × Text) (rest : Text) :
      escapesWhole ((quotePlus field.1 ++ '=' :: quotePlus field.2) ++ rest) = escapesWhole rest := by
    rw [List.append_assoc,whole_quoted,List.cons_append,whole_cons (by decide),whole_quoted]
    rfl
  unfold urlencode
  induction fields with
  | nil => rfl
  | cons first others ih =>
      cases others with
      | nil =>
          have single := field first []
          rw [List.append_nil] at single
          rw [List.map_singleton,List.intercalate_singleton,single]
          rfl
      | cons next others =>
          rw [List.map_cons,List.map_cons,List.intercalate_cons_cons,List.append_assoc,field,List.cons_append,
            whole_cons (by decide)]
          exact ih

theorem urlencode_hash (fields : List (Text × Text)) : '#' ∉ urlencode fields := by
  intro member
  rcases mem_intercalate member with same | ⟨part,inParts,within⟩
  · exact absurd same (by decide)
  · obtain ⟨field,-,rfl⟩ := List.mem_map.mp inParts
    rw [List.mem_append,List.mem_cons] at within
    rcases within with within | same | within
    · exact absurd (quotePlus_field _ within) (by decide)
    · exact absurd same (by decide)
    · exact absurd (quotePlus_field _ within) (by decide)

theorem payload_text (whole : escapesWhole text = true) (hashless : '#' ∉ text) : urlText (payloadBase ++ text) = true ∧
    rfcQuery (payloadBase ++ text) = some text ∧ rfcFragment (payloadBase ++ text) = none := by
  have absent : '#' ∉ payloadBase ++ text := by
    rw [List.mem_append,not_or]
    exact ⟨by decide,hashless⟩
  have main : before '#' (payloadBase ++ text) = payloadBase ++ text := by
    refine List.takeWhile_eq_self_iff.mpr fun c member => decide_eq_true ?_
    rintro rfl
    exact absent member
  refine ⟨?_,?_,if_neg absent⟩
  · unfold urlText
    rw [whole_plain (each_char (by decide)),whole,List.count_eq_zero.mpr absent]
    rfl
  · unfold rfcQuery
    simp only [main]
    rw [if_pos (List.mem_append_left text (by decide))]
    rfl

theorem search_urlencode (standard : Standard idna js) (some : fields ≠ []) : searchParams js (urlencode fields) = fields := by
  unfold searchParams
  rw [parts_urlencode some,List.filter_eq_self.mpr,List.map_map]
  · refine (List.map_congr_left fun field _ => ?_).trans (List.map_id fields)
    rw [Function.comp_apply,piece_field]
    simp only [Option.getD_some,unquoted,standard.decoded,id]
  · intro part member
    obtain ⟨field,-,rfl⟩ := List.mem_map.mp member
    simp

theorem items_urlencode (conforms : Conforms idna f) (some : fields ≠ [])
    (spaceless : ∀ field ∈ fields, ' ' ∉ field.1 ∧ ' ' ∉ field.2) :
    queryItems f (Option.some (urlencode fields)) = fields.map fun field => (field.1,Option.some field.2) := by
  have text (raw : Text) (spaceless : ' ' ∉ raw) : f.itemText (quotePlus raw) = raw := by
    have whole := @whole_quoted raw []
    rw [List.append_nil] at whole
    exact conforms.itemText _ _ whole (unquoted_plain spaceless)
  have parts := pieces_urlencode some
  have shown : urlencode fields ≠ [] := by
    intro blank
    obtain ⟨field,others,rfl⟩ := List.exists_cons_of_ne_nil some
    rw [blank] at parts
    exact absurd (congrArg (fun parts => parts.head?.map fun part => part.2.isSome) parts) (by simp [pieces,piece])
  unfold queryItems
  split
  · rename_i none
    cases none
  · rename_i empty
    exact absurd (Option.some.inj empty) shown
  · rename_i query same
    cases same
    rw [parts,List.map_map]
    refine List.map_congr_left fun field member => ?_
    simp only [Function.comp_apply,Option.map_some,text _ (spaceless field member).1,text _ (spaceless field member).2]

end ImageSearch.StandardUrls
