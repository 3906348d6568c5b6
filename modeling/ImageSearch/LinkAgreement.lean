import ImageSearch.ShownLinks
import Mathlib.Data.List.Find

namespace ImageSearch.LinkAgreement
open FormTexts PairingTokens PairingLinks StandardUrls ShownLinks

variable {idna : Text → Bool} {js : Javascript} {f : Foundation} {link text query : Text} {p p' : PairingQRCodePayload}

def pieceOf (query : Option Text) (key : Text) : Option (Text × Option Text) :=
  (pieces (query.getD [])).find? fun part => percentBytes part.1 = utf8 key

def given (query : Option Text) (key : Text) : Option Text := (pieceOf query key).bind Prod.snd

theorem splitOn_mem {separator : Char} {part : Text} {c : Char} (there : part ∈ text.splitOn separator) (member : c ∈ part) :
    c ∈ text := by
  have whole : [separator].intercalate (text.splitOn separator) = text := List.intercalate_splitOn separator
  rw [← whole]
  exact intercalate_mem there member

theorem pieces_mem {part : Text × Option Text} {c : Char} (there : part ∈ pieces text)
    (member : c ∈ part.1 ∨ ∃ value ∈ part.2, c ∈ value) : c ∈ text := by
  obtain ⟨raw,inText,rfl⟩ := List.mem_map.mp there
  refine splitOn_mem inText ?_
  rcases member with name | ⟨value,given,within⟩
  · exact (List.takeWhile_sublist _).subset name
  · unfold piece at given
    split at given
    · cases given
      exact (List.dropWhile_sublist _).subset ((List.drop_sublist 1 _).subset within)
    · cases given

structure Read (js : Javascript) (f : Foundation) (raw formText text : Text) : Prop where
  form : js.utf8Decode (percentBytes (plusToSpace raw)) = formText
  item : f.itemText raw = text
  became : List.Forall₂ (Became '+' ' ') formText text

theorem read_text {raw : Text} (standard : Standard idna js) (conforms : Conforms idna f) (whole : escapesWhole raw = true)
    (legible : percentBytes raw = utf8 text) : ∃ formText, Read js f raw formText text := by
  have spaces := percent_spaces raw
  rw [legible] at spaces
  obtain ⟨formText,bytes,became⟩ := decoded_spaces spaces
  exact ⟨formText,by rw [bytes,standard.decoded],conforms.itemText _ _ whole legible,became⟩

theorem read_plain {raw : Text} (standard : Standard idna js) (conforms : Conforms idna f) (whole : escapesWhole raw = true)
    (plusless : '+' ∉ raw) (legible : percentBytes raw = utf8 text) : Read js f raw text text :=
  ⟨by rw [plus_kept plusless,legible,standard.decoded],conforms.itemText _ _ whole legible,became_refl text⟩

theorem utf8_inj (standard : Standard idna js) {left right : Text} (same : utf8 left = utf8 right) : left = right := by
  rw [← standard.decoded left,same,standard.decoded]

theorem name_read {raw key : Text} (standard : Standard idna js) (conforms : Conforms idna f) (whole : escapesWhole raw = true)
    (legible : ∃ name, percentBytes raw = utf8 name) (plusless : '+' ∉ key) (spaceless : ' ' ∉ key) :
    (js.utf8Decode (percentBytes (plusToSpace raw)) = key ↔ percentBytes raw = utf8 key) ∧
      (f.itemText raw = key ↔ percentBytes raw = utf8 key) := by
  obtain ⟨name,legible⟩ := legible
  obtain ⟨formText,read⟩ := read_text standard conforms whole legible
  rw [read.form,read.item,legible]
  have named : utf8 name = utf8 key ↔ name = key := ⟨utf8_inj standard,congrArg utf8⟩
  refine ⟨⟨fun same => ?_,fun same => ?_⟩,named.symm⟩
  · subst same
    exact congrArg utf8 (became_new read.became spaceless).symm
  · cases named.mp same
    exact became_old read.became plusless

def Names (query : Option Text) : Prop :=
  ∀ part ∈ pieces (query.getD []), escapesWhole part.1 = true ∧ ∃ name, percentBytes part.1 = utf8 name

theorem typescript_get {query : Option Text} {key : Text} (standard : Standard idna js) (conforms : Conforms idna f)
    (names : Names query) (named : key ≠ []) (plusless : '+' ∉ key) (spaceless : ' ' ∉ key) :
    get (searchParams js (query.getD [])) key =
      (pieceOf query key).map fun part => js.utf8Decode (percentBytes (plusToSpace (part.2.getD []))) := by
  have same : ∀ raw ∈ (query.getD []).splitOn '&',
      (decide (raw ≠ [] ∧ js.utf8Decode (percentBytes (plusToSpace (piece raw).1)) = key)) =
        decide (percentBytes (piece raw).1 = utf8 key) := by
    intro raw there
    obtain ⟨whole,legible⟩ := names (piece raw) (List.mem_map.mpr ⟨raw,there,rfl⟩)
    have read := (name_read standard conforms whole legible plusless spaceless).1
    refine decide_eq_decide.mpr ⟨fun both => read.mp both.2,fun bytes => ⟨?_,read.mpr bytes⟩⟩
    rintro rfl
    have empty : utf8 [] = utf8 key := bytes
    exact named (utf8_inj standard empty).symm
  unfold PairingLinks.get searchParams pieceOf pieces
  rw [List.find?_map,List.find?_filter,List.find?_map,List.find?_congr fun raw there => ?_]
  · rw [Option.map_map,Option.map_map]
    rfl
  · have each := same raw there
    simpa using each

theorem given_nothing (key : Text) : given (some []) key = none := by
  unfold given pieceOf pieces
  simp [piece]

theorem swift_item {query : Option Text} {key : Text} (standard : Standard idna js) (conforms : Conforms idna f)
    (names : Names query) (plusless : '+' ∉ key) (spaceless : ' ' ∉ key) :
    item (queryItems f query) key = (given query key).map f.itemText := by
  have same : ∀ part ∈ pieces (query.getD []), (decide (f.itemText part.1 = key)) = decide (percentBytes part.1 = utf8 key) := by
    intro part there
    obtain ⟨whole,legible⟩ := names part there
    exact decide_eq_decide.mpr (name_read standard conforms whole legible plusless spaceless).2
  unfold queryItems
  split
  · exact (congrArg (Option.map f.itemText) (given_nothing key)).symm
  · exact (congrArg (Option.map f.itemText) (given_nothing key)).symm
  · rename_i query _
    have found := List.find?_congr same
    simp only [Option.getD_some] at found
    unfold item given pieceOf
    rw [List.find?_map,Option.getD_some,← found]
    change (((pieces query).find? fun part => decide (f.itemText part.1 = key)).map _).bind Prod.snd = _
    cases (pieces query).find? fun part => decide (f.itemText part.1 = key) with
    | none => rfl
    | some part => rfl

def value (digits : Text) : Int := Nat.ofDigitChars 10 digits 0

theorem int_parts {n : Int} (parsed : int text = some n) : ∃ digits, digits ≠ [] ∧ (∀ c ∈ digits, c.isDigit = true) ∧
    ((text = digits ∧ n = value digits) ∨ (text = '+' :: digits ∧ n = value digits) ∨
      (text = '-' :: digits ∧ n = -value digits)) := by
  have checked {digits : Text} {number : Int} (parsed : (if digits = [] ∨ !digits.all Char.isDigit then none
      else if -2^63 ≤ number ∧ number < 2^63 then some number else none) = some n) :
      digits ≠ [] ∧ (∀ c ∈ digits, c.isDigit = true) ∧ n = number := by
    split at parsed
    · cases parsed
    rename_i shown
    rw [not_or,Bool.not_eq_true,Bool.not_eq_false',List.all_eq_true] at shown
    split at parsed
    · cases parsed
      exact ⟨shown.1,shown.2,rfl⟩
    · cases parsed
  cases text with
  | nil => cases parsed
  | cons c rest =>
      unfold int at parsed
      by_cases minus : c = '-'
      · subst c
        obtain ⟨some,digits,same⟩ := checked parsed
        exact ⟨rest,some,digits,.inr (.inr ⟨rfl,same⟩)⟩
      by_cases plus : c = '+'
      · subst c
        obtain ⟨some,digits,same⟩ := checked parsed
        exact ⟨rest,some,digits,.inr (.inl ⟨rfl,same⟩)⟩
      · simp only [List.head?_cons,Option.some.injEq,minus,plus,or_self,if_false] at parsed
        obtain ⟨some,digits,same⟩ := checked parsed
        exact ⟨c :: rest,some,digits,.inl ⟨rfl,same⟩⟩

theorem digits_parse {digits : Text} (some : digits ≠ []) (numeral : ∀ c ∈ digits, c.isDigit = true) :
    parseInt digits = Option.some (value digits) ∧ parseInt ('+' :: digits) = Option.some (value digits) ∧
      parseInt ('-' :: digits) = Option.some (-value digits) := by
  have whole : digits.takeWhile Char.isDigit = digits := List.takeWhile_eq_self_iff.mpr numeral
  have shown : ∀ c ∈ digits, isJsSpace c = false := fun c member => (graphic_bounds (digit_graphic (numeral c member))).1
  have sign (c : Char) (other : c.isDigit = false) : digits.head? ≠ Option.some c := by
    intro first
    exact absurd (numeral c (List.mem_of_mem_head? first)) (by simp [other])
  have untouched (c : Char) (plain : isJsSpace c = false) : (c :: digits).dropWhile isJsSpace = c :: digits :=
    List.dropWhile_cons_of_neg (by simp [plain])
  refine ⟨?_,?_,?_⟩
  · unfold parseInt
    simp [Payload.dropWhile_self shown,sign '-' (by decide),sign '+' (by decide),whole,some,value]
  · unfold parseInt
    simp [untouched '+' (by decide),whole,some,value]
  · unfold parseInt
    simp [untouched '-' (by decide),whole,some,value]

theorem number_read {formText : Text} {n : Int} (became : List.Forall₂ (Became '+' ' ') formText text) (parsed : int text = some n) :
    trim formText ≠ [] ∧ parseInt (trim formText) = some n := by
  obtain ⟨digits,some,numeral,forms⟩ := int_parts parsed
  obtain ⟨plain,plus,minus⟩ := digits_parse some numeral
  have shown : ∀ c ∈ digits, graphic c = true := fun c member => digit_graphic (numeral c member)
  have signed (c : Char) (sign : graphic c = true) : trim (c :: digits) = c :: digits :=
    (trimmed fun d member => by rcases List.mem_cons.mp member with rfl | member; exacts [sign,shown d member]).1
  have kept {later : Text} (became : List.Forall₂ (Became '+' ' ') later digits) : later = digits :=
    became_old became fun member => absurd (numeral '+' member) (by decide)
  rcases forms with ⟨rfl,rfl⟩ | ⟨rfl,rfl⟩ | ⟨rfl,rfl⟩
  · rw [kept became,(trimmed shown).1]
    exact ⟨some,plain⟩
  · obtain ⟨c,later,first,others,rfl⟩ := List.forall₂_cons_right_iff.mp became
    cases kept others
    rcases first with rfl | ⟨-,rfl⟩
    · rw [signed '+' (by decide)]
      exact ⟨List.cons_ne_nil _ _,plus⟩
    · have blank : trim (' ' :: digits) = trim digits := rfl
      rw [blank,(trimmed shown).1]
      exact ⟨some,plain⟩
  · have whole : formText = '-' :: digits := by
      refine became_old became fun member => ?_
      rcases List.mem_cons.mp member with same | member
      · exact absurd same (by decide)
      · exact absurd (numeral '+' member) (by decide)
    rw [whole,signed '-' (by decide)]
    exact ⟨List.cons_ne_nil _ _,minus⟩

theorem dropWhile_congr {left right : Char → Bool} (same : ∀ c ∈ text, left c = right c) :
    text.dropWhile left = text.dropWhile right := by
  induction text with
  | nil => rfl
  | cons c rest ih =>
      rw [List.dropWhile_cons,List.dropWhile_cons,same c List.mem_cons_self,ih fun d member => same d (List.mem_cons_of_mem c member)]

theorem strip_congr {left right : Char → Bool} (same : ∀ c ∈ text, left c = right c) :
    Payload.stripChars left text = Payload.stripChars right text := by
  unfold Payload.stripChars
  rw [dropWhile_congr same,dropWhile_congr fun c member => ?_]
  exact same c ((List.dropWhile_sublist right).subset (List.mem_reverse.mp member))

theorem space_comma {c : Char} (space : isJsSpace c = true) : c ≠ ',' := by
  rintro rfl
  exact absurd space (by decide)

theorem targets_front {c : Char} (space : isJsSpace c = true) : endpointTargets (c :: text) = endpointTargets text := by
  unfold endpointTargets
  rw [List.splitOn_cons_eq_if_modifyHead]
  simp only [beq_iff_eq,space_comma space,if_false]
  cases text.splitOn ',' with
  | nil => rfl
  | cons part others => rw [List.modifyHead_cons,List.map_cons,List.map_cons,show trim (c :: part) = trim part from strip_front space]

theorem split_back {c : Char} (other : c ≠ ',') (text : Text) : ∃ front last, text.splitOn ',' = front ++ [last] ∧
    (text ++ [c]).splitOn ',' = front ++ [last ++ [c]] := by
  induction text with
  | nil =>
      refine ⟨[],[],rfl,?_⟩
      rw [List.nil_append,List.splitOn_cons_eq_if_modifyHead]
      simp [other]
  | cons d rest ih =>
      obtain ⟨front,last,whole,longer⟩ := ih
      rw [List.cons_append,List.splitOn_cons_eq_if_modifyHead,List.splitOn_cons_eq_if_modifyHead,whole,longer]
      split
      · exact ⟨[] :: front,last,rfl,rfl⟩
      · cases front with
        | nil => exact ⟨[],d :: last,rfl,rfl⟩
        | cons first front => exact ⟨(d :: first) :: front,last,rfl,rfl⟩

theorem targets_back {c : Char} (space : isJsSpace c = true) : endpointTargets (text ++ [c]) = endpointTargets text := by
  obtain ⟨front,last,whole,longer⟩ := split_back (space_comma space) text
  unfold endpointTargets
  have same : trim (last ++ [c]) = trim last := strip_back space
  rw [whole,longer,List.map_append,List.map_append,List.map_singleton,List.map_singleton,same]

theorem targets_trim (text : Text) : endpointTargets (trim text) = endpointTargets text :=
  strip_reading (fun _ _ _ => targets_front) fun _ _ _ => targets_back

theorem targets_agree (alike : ∀ c ∈ text, isJsSpace c = isSwiftSpace c)
    (apart : ∀ c ∈ text, f.joins ',' c = false ∧ f.joins c ',' = false) : targetsOf f text = endpointTargets (trim text) := by
  rw [targets_trim]
  have parts := @splitCommas_split f text none (fun _ same => by cases same) apart
  have each : ∀ part ∈ text.splitOn ',', trimmingCharacters part = trim part := fun part there =>
    (strip_congr fun c member => alike c (splitOn_mem there member)).symm
  unfold targetsOf endpointTargets
  rw [parts,← List.map_congr_left each,List.filter_map,List.filter_map,List.filter_filter]
  congr 1
  refine List.filter_congr fun part _ => ?_
  cases part with
  | nil => rfl
  | cons c rest => simp

theorem typescript_parts (read : decodePairingLink js link = .ok p) : ∃ url version targetsText,
    js.url link = some url ∧ parseRequiredQueryParam url.searchParams ['v'] = some version ∧
    parseInt version = some p.schemaVersion ∧ parseRequiredQueryParam url.searchParams ['e','p','t'] = some targetsText ∧
    endpointTargets targetsText = p.endpointTargets ∧ parseRequiredQueryParam url.searchParams ['s','i','d'] = some p.sessionId ∧
    (((get (parseFragmentSearchParams js url.hash) ['o','p','t']).map trim).filter fun value => value ≠ []).or
      (parseRequiredQueryParam url.searchParams ['o','p','t']) = some p.oneTimePasscode ∧
    suggestedPort (((get url.searchParams ['u','s','p']).map trim).getD []) p.schemaVersion = .ok p.suggestedUsbPort ∧
    decide ((get url.searchParams ['s','e','c']).map trim = some ['1']) = p.strictSecurityEnabled := by
  unfold decodePairingLink at read
  split at read
  · cases read
  rename_i url found
  simp only at read
  split at read
  · rename_i version targetsText sessionId oneTimePasscode versioned targeted session secret
    split at read
    · cases read
    rename_i schemaVersion number
    split at read
    · cases read
    split at read
    · cases read
    rename_i suggestedUsbPort suggested
    split at read
    · cases read
    cases read
    exact ⟨url,version,targetsText,found,versioned,number,targeted,rfl,session,secret,suggested,rfl⟩
  · cases read

theorem swift_parts (read : decode f link = .ok p) : ∃ components targetsText,
    f.components (trimmingCharacters link) = some components ∧
    (item (queryItems f components.query) ['v']).bind int = some p.schemaVersion ∧
    item (queryItems f components.query) ['e','p','t'] = some targetsText ∧ targetsOf f targetsText = p.endpointTargets ∧
    item (queryItems f components.query) ['s','i','d'] = some p.sessionId ∧
    (item (fragmentQueryItems f (components.fragment.bind f.fragment)) ['o','p','t']).or
      (item (queryItems f components.query) ['o','p','t']) = some p.oneTimePasscode ∧
    suggestedUSBPort (item (queryItems f components.query) ['u','s','p']) p.schemaVersion = .ok p.suggestedUsbPort ∧
    decide (item (queryItems f components.query) ['s','e','c'] = some ['1']) = p.strictSecurityEnabled := by
  unfold decode at read
  simp only at read
  split at read
  · cases read
  split at read
  · cases read
  rename_i components found
  split at read
  · cases read
  split at read
  · cases read
  rename_i schemaVersion number
  split at read
  · cases read
  split at read
  · cases read
  rename_i targetsText targeted
  split at read
  · cases read
  split at read
  · cases read
  · cases read
  rename_i sessionId oneTimePasscode session secret
  split at read
  · cases read
  rename_i suggestedUsbPort suggested
  cases read
  exact ⟨components,targetsText,found,number,targeted,rfl,session,secret,suggested,rfl⟩

-- A link that is read in one way: RFC 3986's text between ASCII spaces, whose escapes are UTF-8; no plus in
-- what is compared as a text, nothing there that one of the two would trim, and in the fragment neither
-- escapes nor a further question mark nor an empty passcode.
structure Clear (f : Foundation) (link : Text) : Prop where
  surroundings : ∀ c ∈ link, isSwiftSpace c = true → c.toNat ≤ 32
  text : urlText (trimmingCharacters link) = true
  names : ∀ part ∈ pieces ((rfcQuery (trimmingCharacters link)).getD []), ∃ name, percentBytes part.1 = utf8 name
  numbers : ∀ key ∈ [['v'],['u','s','p']], ∀ raw, given (rfcQuery (trimmingCharacters link)) key = some raw →
    ∃ text, percentBytes raw = utf8 text
  targets : ∀ raw, given (rfcQuery (trimmingCharacters link)) ['e','p','t'] = some raw → '+' ∉ raw ∧
    ∃ text, percentBytes raw = utf8 text ∧ (∀ c ∈ text, isJsSpace c = isSwiftSpace c) ∧
      ∀ c ∈ text, f.joins ',' c = false ∧ f.joins c ',' = false
  texts : ∀ key ∈ [['s','i','d'],['o','p','t']], ∀ raw, given (rfcQuery (trimmingCharacters link)) key = some raw → '+' ∉ raw ∧
    ∃ text, percentBytes raw = utf8 text ∧ trim text = text
  security : ∀ raw, given (rfcQuery (trimmingCharacters link)) ['s','e','c'] = some raw → '+' ∉ raw ∧
    ∃ text, percentBytes raw = utf8 text ∧ (trim text = ['1'] → text = ['1'])
  fragment : ∀ fragment, rfcFragment (trimmingCharacters link) = some fragment → '%' ∉ fragment ∧ '?' ∉ fragment ∧
    ∀ raw, given (some fragment) ['o','p','t'] = some raw → '+' ∉ raw ∧ raw ≠ []

theorem surrounded (standard : Standard idna js) (blank : ∀ c ∈ link, isSwiftSpace c = true → c.toNat ≤ 32) :
    js.url (trimmingCharacters link) = js.url link :=
  strip_reading (fun c member rest space => (standard.blanks rest c (blank c member space)).1)
    fun c member rest space => (standard.blanks rest c (blank c member space)).2

section Fields
variable {query : Option Text} {key raw : Text}

theorem given_whole (whole : escapesWhole (query.getD []) = true) (there : given query key = some raw) : escapesWhole raw = true := by
  obtain ⟨part,found,value⟩ := Option.bind_eq_some_iff.mp there
  exact (whole_pieces whole part (List.mem_of_find?_eq_some found)).2 raw value

theorem query_names (whole : escapesWhole (query.getD []) = true)
    (legible : ∀ part ∈ pieces (query.getD []), ∃ name, percentBytes part.1 = utf8 name) : Names query :=
  fun part there => ⟨(whole_pieces whole part there).1,legible part there⟩

-- A key of the link: neither empty nor with a plus or a space.
def plainKey (key : Text) : Bool := key ≠ [] && '+' ∉ key && ' ' ∉ key

theorem given_read (standard : Standard idna js) (conforms : Conforms idna f) (names : Names query) (plain : plainKey key = true)
    (there : given query key = some raw) :
    get (searchParams js (query.getD [])) key = some (js.utf8Decode (percentBytes (plusToSpace raw))) ∧
      item (queryItems f query) key = some (f.itemText raw) := by
  simp only [plainKey,Bool.and_eq_true,decide_eq_true_eq] at plain
  rw [typescript_get standard conforms names plain.1.1 plain.1.2 plain.2,swift_item standard conforms names plain.1.2 plain.2,there]
  obtain ⟨part,found,value⟩ := Option.bind_eq_some_iff.mp there
  rw [found,Option.map_some,value]
  exact ⟨rfl,rfl⟩

theorem given_none (standard : Standard idna js) (conforms : Conforms idna f) (names : Names query) (plain : plainKey key = true)
    (unsaid : given query key = none) :
    (get (searchParams js (query.getD [])) key = none ∨ get (searchParams js (query.getD [])) key = some []) ∧
      item (queryItems f query) key = none := by
  simp only [plainKey,Bool.and_eq_true,decide_eq_true_eq] at plain
  rw [typescript_get standard conforms names plain.1.1 plain.1.2 plain.2,swift_item standard conforms names plain.1.2 plain.2,unsaid]
  refine ⟨?_,rfl⟩
  cases found : pieceOf query key with
  | none => exact .inl rfl
  | some part =>
      unfold given at unsaid
      rw [found] at unsaid
      have valueless : part.2 = none := unsaid
      rw [Option.map_some,valueless]
      exact .inr (congrArg some (standard.decoded []))

theorem text_read {P : Text → Prop} (standard : Standard idna js) (conforms : Conforms idna f)
    (whole : escapesWhole (query.getD []) = true) (names : Names query) (plain : plainKey key = true)
    (clear : ∀ raw, given query key = some raw → '+' ∉ raw ∧ ∃ text, percentBytes raw = utf8 text ∧ P text)
    (said : item (queryItems f query) key = some text) : get (searchParams js (query.getD [])) key = some text ∧ P text := by
  cases there : given query key with
  | none =>
      rw [(given_none standard conforms names plain there).2] at said
      cases said
  | some raw =>
      obtain ⟨form,swift⟩ := given_read standard conforms names plain there
      obtain ⟨plusless,shown,legible,holds⟩ := clear raw there
      have read := read_plain standard conforms (given_whole whole there) plusless legible
      rw [swift,read.item] at said
      cases said
      exact ⟨by rw [form,read.form],holds⟩

theorem number_agrees {n : Int} (standard : Standard idna js) (conforms : Conforms idna f)
    (whole : escapesWhole (query.getD []) = true) (names : Names query) (plain : plainKey key = true)
    (legible : ∀ raw, given query key = some raw → ∃ text, percentBytes raw = utf8 text)
    (said : item (queryItems f query) key = some text) (parsed : int text = some n) :
    ∃ formText, get (searchParams js (query.getD [])) key = some formText ∧ trim formText ≠ [] ∧
      parseInt (trim formText) = some n := by
  cases there : given query key with
  | none =>
      rw [(given_none standard conforms names plain there).2] at said
      cases said
  | some raw =>
      obtain ⟨form,swift⟩ := given_read standard conforms names plain there
      obtain ⟨shown,legible⟩ := legible raw there
      obtain ⟨formText,read⟩ := read_text standard conforms (given_whole whole there) legible
      rw [swift,read.item] at said
      cases said
      exact ⟨formText,by rw [form,read.form],number_read read.became parsed⟩

theorem unsaid_read (standard : Standard idna js) (conforms : Conforms idna f) (names : Names query) (plain : plainKey key = true)
    (unsaid : item (queryItems f query) key = none) :
    get (searchParams js (query.getD [])) key = none ∨ get (searchParams js (query.getD [])) key = some [] := by
  cases there : given query key with
  | none => exact (given_none standard conforms names plain there).1
  | some raw =>
      rw [(given_read standard conforms names plain there).2] at unsaid
      cases unsaid

end Fields

-- Both look for the passcode among the same pieces of a fragment without escapes.
theorem fragment_agrees {fragment : Option Text} (standard : Standard idna js) (conforms : Conforms idna f)
    (whole : escapesWhole (fragment.getD []) = true) (hashless : '#' ∉ fragment.getD [])
    (clear : ∀ text, fragment = some text → '%' ∉ text ∧ '?' ∉ text ∧
      ∀ raw, given (some text) ['o','p','t'] = some raw → '+' ∉ raw ∧ raw ≠ []) :
    ((get (parseFragmentSearchParams js (fragment.getD [])) ['o','p','t']).map trim).filter (fun value => value ≠ []) =
      item (fragmentQueryItems f (fragment.bind f.fragment)) ['o','p','t'] := by
  have unescaped : '%' ∉ fragment.getD [] := by
    cases fragment with
    | none => exact List.not_mem_nil
    | some text => exact (clear text rfl).1
  have params : parseFragmentSearchParams js (fragment.getD []) = searchParams js (fragment.getD []) := by
    cases fragment with
    | none => rfl
    | some text => exact congrArg (searchParams js) (if_neg (clear text rfl).2.1)
  have items : fragmentQueryItems f (fragment.bind f.fragment) = queryItems f fragment := by
    cases fragment with
    | none => rfl
    | some text =>
        rw [Option.bind_some,conforms.fragment text unescaped]
        cases text with
        | nil => rfl
        | cons c rest =>
            obtain ⟨address,query,-⟩ := payload_text whole hashless
            obtain ⟨components,read,-⟩ := conforms.accepted _ hashless address
            have parts := (conforms.parts _ components address read).1
            change (f.components (payloadBase ++ c :: rest)).elim [] (fun components => queryItems f components.query) = _
            rw [Option.getD_some] at read parts query
            rw [read,Option.elim_some,parts,query]
  have plain : ∀ part ∈ pieces (fragment.getD []), '%' ∉ part.1 ∧ ∀ value ∈ part.2, '%' ∉ value := fun part there =>
    ⟨fun member => unescaped (pieces_mem there (.inl member)),fun value given member =>
      unescaped (pieces_mem there (.inr ⟨value,given,member⟩))⟩
  have names : Names fragment := query_names whole fun part there => ⟨part.1,percent_unescaped (plain part there).1⟩
  rw [params,items]
  cases there : given fragment ['o','p','t'] with
  | none =>
      obtain ⟨form,swift⟩ := given_none standard conforms names (by decide) there
      rw [swift]
      rcases form with form | form
      · rw [form]
        rfl
      · rw [form]
        rfl
  | some raw =>
      obtain ⟨form,swift⟩ := given_read standard conforms names (by decide) there
      obtain ⟨text,rfl⟩ : ∃ text, fragment = some text := by
        cases fragment with
        | none =>
            rw [show given none ['o','p','t'] = none from given_nothing _] at there
            cases there
        | some text => exact ⟨text,rfl⟩
      obtain ⟨plusless,some⟩ := (clear text rfl).2.2 raw there
      have legible : percentBytes raw = utf8 raw := by
        obtain ⟨part,found,value⟩ := Option.bind_eq_some_iff.mp there
        exact percent_unescaped ((plain part (List.mem_of_find?_eq_some found)).2 raw value)
      have read := read_plain standard conforms (given_whole whole there) plusless legible
      have trims := (trimmed (whole_graphic (given_whole whole there))).1
      rw [form,swift,read.form,read.item,Option.map_some,trims]
      simp [some]

theorem query_whole (shown : urlText text = true) : escapesWhole ((rfcQuery text).getD []) = true := by
  have whole := (Bool.and_eq_true_iff.mp shown).1
  have main := (@whole_sides text '#' (by decide) (by decide) whole).1
  unfold rfcQuery
  dsimp only
  split
  · exact (@whole_sides _ '?' (by decide) (by decide) main).2
  · rfl

theorem fragment_whole (shown : urlText text = true) :
    escapesWhole ((rfcFragment text).getD []) = true ∧ '#' ∉ (rfcFragment text).getD [] := by
  obtain ⟨whole,single⟩ := Bool.and_eq_true_iff.mp shown
  unfold rfcFragment
  split
  · rename_i member
    refine ⟨(@whole_sides text '#' (by decide) (by decide) whole).2,?_⟩
    rw [← before_after member,decide_eq_true_eq,List.count_append,List.count_cons_self] at single
    exact List.count_eq_zero.mp (by rw [Option.getD_some]; omega)
  · exact ⟨rfl,List.not_mem_nil⟩

theorem port_agrees {query : Option Text} {schemaVersion : Int} {left right : Option Int} (standard : Standard idna js)
    (conforms : Conforms idna f) (whole : escapesWhole (query.getD []) = true) (names : Names query)
    (legible : ∀ raw, given query ['u','s','p'] = some raw → ∃ text, percentBytes raw = utf8 text)
    (typescript : suggestedPort (((get (searchParams js (query.getD [])) ['u','s','p']).map trim).getD []) schemaVersion = .ok left)
    (swift : suggestedUSBPort (item (queryItems f query) ['u','s','p']) schemaVersion = .ok right) : left = right := by
  cases said : item (queryItems f query) ['u','s','p'] with
  | none =>
      have blank : ((get (searchParams js (query.getD [])) ['u','s','p']).map trim).getD [] = [] := by
        rcases unsaid_read standard conforms names (by decide) said with form | form
        · rw [form]
          rfl
        · rw [form]
          rfl
      rw [blank] at typescript
      rw [said] at swift
      unfold suggestedPort at typescript
      unfold suggestedUSBPort at swift
      rw [if_neg fun some => some rfl] at typescript
      dsimp only at swift
      split at swift
      · cases swift
      · rename_i old
        rw [if_neg old] at typescript
        cases typescript
        cases swift
        rfl
  | some text =>
      rw [said] at swift
      unfold suggestedUSBPort at swift
      dsimp only at swift
      split at swift
      · rename_i port filtered
        cases swift
        cases parsed : int text with
        | none =>
            rw [parsed] at filtered
            cases filtered
        | some n =>
            obtain ⟨formText,form,some,number⟩ := number_agrees standard conforms whole names (by decide) legible said parsed
            rw [parsed] at filtered
            unfold suggestedPort at typescript
            rw [form,Option.map_some,Option.getD_some,if_pos some,number,filtered] at typescript
            cases typescript
            rfl
      · cases swift

theorem required_value {params : List (Text × Text)} {key form value : Text} (said : get params key = some form)
    (required : parseRequiredQueryParam params key = some value) : value = trim form := by
  unfold parseRequiredQueryParam at required
  rw [said,Option.map_some] at required
  exact (Option.some.inj (Option.filter_eq_some_iff.mp required).1).symm

theorem links_agree (standard : Standard idna js) (conforms : Conforms idna f) (clear : Clear f link)
    (typescript : decodePairingLink js link = .ok p) (swift : decode f link = .ok p') : p = p' := by
  obtain ⟨url,version,targetsText,found,versioned,number,targeted,targets,session,secret,port,security⟩ := typescript_parts typescript
  obtain ⟨components,targetsText',found',number',targeted',targets',session',secret',port',security'⟩ := swift_parts swift
  rw [← surrounded standard clear.surroundings] at found
  obtain ⟨params,hash⟩ := standard.parts _ url clear.text found
  obtain ⟨query,fragment⟩ := conforms.parts _ components clear.text found'
  have whole := query_whole clear.text
  have names := query_names whole clear.names
  rw [params] at versioned targeted session secret port security
  rw [query] at number' targeted' session' secret' port' security'
  have versions : p.schemaVersion = p'.schemaVersion := by
    obtain ⟨text,said,parsed⟩ := Option.bind_eq_some_iff.mp number'
    obtain ⟨formText,form,-,same⟩ := number_agrees standard conforms whole names (by decide) (clear.numbers _ (by simp)) said parsed
    rw [required_value form versioned,same] at number
    exact (Option.some.inj number).symm
  have endpoints : p.endpointTargets = p'.endpointTargets := by
    obtain ⟨form,alike,apart⟩ := text_read standard conforms whole names (by decide) clear.targets targeted'
    rw [← targets,← targets',required_value form targeted,targets_agree alike apart]
  have sessions : p.sessionId = p'.sessionId := by
    obtain ⟨form,trims⟩ := text_read standard conforms whole names (by decide) (clear.texts _ (by simp)) session'
    rw [required_value form session,trims]
  have secrets : p.oneTimePasscode = p'.oneTimePasscode := by
    obtain ⟨whole',hashless⟩ := fragment_whole clear.text
    rw [hash,fragment_agrees standard conforms whole' hashless clear.fragment,← fragment] at secret
    cases inFragment : item (fragmentQueryItems f (components.fragment.bind f.fragment)) ['o','p','t'] with
    | some passcode =>
        rw [inFragment,Option.some_or] at secret secret'
        exact Option.some.inj (secret.symm.trans secret')
    | none =>
        rw [inFragment,Option.none_or] at secret secret'
        obtain ⟨form,trims⟩ := text_read standard conforms whole names (by decide) (clear.texts _ (by simp)) secret'
        rw [required_value form secret,trims]
  have ports : p.suggestedUsbPort = p'.suggestedUsbPort := by
    rw [versions] at port
    exact port_agrees standard conforms whole names (clear.numbers _ (by simp)) port port'
  have strict : p.strictSecurityEnabled = p'.strictSecurityEnabled := by
    rw [← security,← security']
    refine decide_eq_decide.mpr ?_
    cases said : item (queryItems f (rfcQuery (trimmingCharacters link))) ['s','e','c'] with
    | none =>
        rcases unsaid_read standard conforms names (by decide) said with form | form
        · rw [form]
          exact ⟨fun one => (by cases one),fun one => (by cases one)⟩
        · rw [form]
          exact ⟨fun one => (by cases one),fun one => (by cases one)⟩
    | some text =>
        obtain ⟨form,one⟩ := text_read standard conforms whole names (by decide) clear.security said
        rw [form,Option.map_some,Option.some.injEq,Option.some.injEq]
        refine ⟨one,fun same => ?_⟩
        rw [same]
        rfl
  cases p
  cases p'
  dsimp only at versions endpoints sessions secrets ports strict
  rw [versions,endpoints,sessions,secrets,ports,strict]

end ImageSearch.LinkAgreement
