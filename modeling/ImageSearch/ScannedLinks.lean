import ImageSearch.LinkAgreement

namespace ImageSearch.ScannedLinks
open FormTexts PairingTokens PairingLinks StandardUrls ShownLinks LinkAgreement Relation
open Payload (stripChars stripChars_self)

-- Libraries that do what the standards say on ASCII links.
section Libraries

-- From the back: what the bytes that continue a character are worth, and the text after it.
def decodeByte (byte : UInt8) (later : Nat × Nat × Text) : Nat × Nat × Text :=
  let n := byte.toNat
  if 128 ≤ n ∧ n < 192 then (later.1+n%64*later.2.1,later.2.1*64,later.2.2)
  else
    let first := if n < 128 then n else if n < 224 then n%32 else if n < 240 then n%16 else n%8
    (0,1,Char.ofNat (later.1+first*later.2.1) :: later.2.2)

def utf8Text (bytes : List UInt8) : Text := (bytes.foldr decodeByte (0,1,[])).2.2

theorem decode_continuation (k worth scale : Nat) (later : Text) :
    decodeByte (UInt8.ofNat (k%64+128)) (worth,scale,later) = (worth+k%64*scale,scale*64,later) := by
  have byte : (UInt8.ofNat (k%64+128)).toNat = k%64+128 := by
    rw [UInt8.toNat_ofNat']
    omega
  have rest : (k%64+128)%64 = k%64 := by omega
  unfold decodeByte
  dsimp only
  rw [byte,if_pos (by omega),rest]

theorem decode_first (n first worth scale : Nat) (later : Text) (byte : n < 256) (apart : n < 128 ∨ 192 ≤ n)
    (shown : (if n < 128 then n else if n < 224 then n%32 else if n < 240 then n%16 else n%8) = first) :
    decodeByte (UInt8.ofNat n) (worth,scale,later) = (0,1,Char.ofNat (worth+first*scale) :: later) := by
  have value : (UInt8.ofNat n).toNat = n := by
    rw [UInt8.toNat_ofNat']
    omega
  unfold decodeByte
  dsimp only
  rw [value,if_neg (by omega),shown]

theorem decode_char (c : Char) (later : Text) : (String.utf8EncodeChar c).foldr decodeByte (0,1,later) = (0,1,c :: later) := by
  have small : c.val.toNat < 0x110000 := by
    rcases c.valid with low | ⟨-,high⟩
    · exact Nat.lt_trans low (by decide)
    · exact high
  have whole (n : Nat) (same : n = c.val.toNat) : Char.ofNat n = c := by
    rw [same]
    exact Char.ofNat_toNat c
  unfold String.utf8EncodeChar
  dsimp only
  split
  · rw [List.foldr_cons,List.foldr_nil,decode_first _ c.val.toNat _ _ _ (by omega) (by omega) (by rw [if_pos (by omega)]),
      whole _ (by omega)]
  split
  · rw [List.foldr_cons,List.foldr_cons,List.foldr_nil,decode_continuation,
      decode_first _ (c.val.toNat/64%32) _ _ _ (by omega) (by omega) (by rw [if_neg (by omega),if_pos (by omega)]; omega),
      whole _ (by omega)]
  split
  · rw [List.foldr_cons,List.foldr_cons,List.foldr_cons,List.foldr_nil,decode_continuation,decode_continuation,
      decode_first _ (c.val.toNat/4096%16) _ _ _ (by omega) (by omega)
        (by rw [if_neg (by omega),if_neg (by omega),if_pos (by omega)]; omega),
      whole _ (by dsimp only; omega)]
  · rw [List.foldr_cons,List.foldr_cons,List.foldr_cons,List.foldr_cons,List.foldr_nil,decode_continuation,decode_continuation,
      decode_continuation,decode_first _ (c.val.toNat/262144%8) _ _ _ (by omega) (by omega)
        (by rw [if_neg (by omega),if_neg (by omega),if_neg (by omega)]; omega),
      whole _ (by dsimp only; omega)]

theorem utf8_text (text : Text) : utf8Text (utf8 text) = text := by
  have all : (utf8 text).foldr decodeByte (0,1,[]) = (0,1,text) := by
    induction text with
    | nil => rfl
    | cons c rest ih =>
        have split : utf8 (c :: rest) = String.utf8EncodeChar c ++ utf8 rest := List.flatMap_cons
        rw [split,List.foldr_append,ih,decode_char]
  exact congrArg (fun state => state.2.2) all

def authority (text : Text) : Text := ((after ':' text).drop 2).takeWhile fun c => c ∉ ['/','?','#']

-- The host, in its brackets if it has any, and the port, if there is one.
def hostPort (authority : Text) : Text × Text :=
  if ':' ∈ authority then
    (((authority.reverse.dropWhile fun c => c ≠ ':').drop 1).reverse,(authority.reverse.takeWhile fun c => c ≠ ':').reverse)
  else (authority,[])

def blank (c : Char) : Bool := c.toNat ≤ 32

def webUrl (text : Text) : Option JsUrl :=
  let text := stripChars blank text
  let read := hostPort (authority text)
  if ['h','t','t','p'].isPrefixOf text then
    some ⟨read.1,if read.2 = ['8','0'] then [] else read.2,searchParams ⟨fun _ => none,utf8Text⟩ ((rfcQuery text).getD []),
      (rfcFragment text).getD []⟩
  else none

def web : Javascript := ⟨webUrl,utf8Text⟩

def appleUrl (text : Text) : Option Components :=
  if ':' ∈ text ∧ text.all fun c => urlChar c || c ∈ ['%','[',']'] then
    let read := hostPort (authority text)
    some ⟨some (before ':' text),some read.1,if read.2 = [] then none else some (Nat.ofDigitChars 10 read.2 0),
      rfcQuery text,rfcFragment text⟩
  else none

-- Marks join what they follow.
def apple : Foundation :=
  ⟨appleUrl,fun text => some (utf8Text (percentBytes text)),fun raw => utf8Text (percentBytes raw),fun _ => true,
    fun _ c => 0x300 ≤ c.toNat && c.toNat ≤ 0x36f⟩

def python : Unicode := ⟨List.map Char.toLower,fun _ => true⟩

def noIdna (_ : Text) : Bool := false

variable {text : Text} {e : Endpoint}

theorem unstripped (shown : ∀ c ∈ text, graphic c = true) : stripChars blank text = text := by
  refine stripChars_self fun c member => decide_eq_false fun small => ?_
  have bounds := shown c member
  simp only [graphic,Bool.and_eq_true,decide_eq_true_eq] at bounds
  omega

def hostText (e : Endpoint) : Text :=
  if ':' ∈ e.hostname ∧ e.hostname.head? ≠ some '[' then '[' :: (e.hostname ++ [']']) else e.hostname

theorem hostText_some (known : Known noIdna e) : hostText e ≠ [] := by
  unfold hostText
  split
  · exact List.cons_ne_nil _ _
  · intro none
    have address := known.1
    rw [none] at address
    exact absurd address (by decide)

theorem hostPort_target (e : Endpoint) : hostPort e.target = (hostText e,Nat.toDigits 10 e.port) := by
  have shown : e.target = hostText e ++ ':' :: Nat.toDigits 10 e.port := rfl
  have digits : ∀ c ∈ (Nat.toDigits 10 e.port).reverse, decide (c ≠ ':') = true := by
    intro c member
    refine decide_eq_true ?_
    rintro rfl
    exact absurd (toDigits_digit e.port ':' (List.mem_reverse.mp member)) (by decide)
  have mirrored : e.target.reverse = (Nat.toDigits 10 e.port).reverse ++ ':' :: (hostText e).reverse := by
    rw [shown,List.reverse_append,List.reverse_cons,List.append_assoc,List.singleton_append]
  unfold hostPort
  rw [mirrored,List.takeWhile_append_of_pos digits,List.dropWhile_append_of_pos digits,if_pos (by rw [shown]; simp)]
  simp

theorem authority_http (known : Known noIdna e) : authority (httpBase ++ e.target) = e.target := by
  have rest : (after ':' (httpBase ++ e.target)).drop 2 = e.target := rfl
  unfold authority
  rw [rest]
  refine List.takeWhile_eq_self_iff.mpr fun c member => decide_eq_true fun listed => ?_
  have all : ∀ d ∈ ['/','?','#'], targetChar d = false := each_char (by decide)
  exact absurd (target_chars known c member) (by simp [all c listed])

theorem port_text (n : Nat) : Nat.toDigits 10 n = ['8','0'] ↔ n = 80 := by
  constructor
  · intro same
    have value := toDigits_value n
    rw [same] at value
    exact value.symm
  · rintro rfl
    decide

theorem http_graphic (known : Known noIdna e) : ∀ c ∈ httpBase ++ e.target, graphic c = true := by
  intro c member
  rcases List.mem_append.mp member with base | target
  · have all : ∀ d ∈ httpBase, graphic d = true := each_char (by decide)
    exact all c base
  · exact target_graphic known c target

theorem web_standard : Standard noIdna web where
  blanks text c small := by
    have dropped : blank c = true := decide_eq_true small
    unfold web webUrl
    dsimp only
    rw [strip_front dropped,strip_back dropped]
    exact ⟨rfl,rfl⟩
  parts text url shown read := by
    have kept := unstripped (whole_graphic (Bool.and_eq_true_iff.mp shown).1)
    unfold web webUrl at read
    dsimp only at read
    rw [kept] at read
    split at read
    · cases read
      exact ⟨rfl,rfl⟩
    · cases read
  accepted query _ shown := by
    have kept := unstripped (whole_graphic (Bool.and_eq_true_iff.mp shown).1)
    unfold web webUrl
    dsimp only
    rw [kept]
    rfl
  endpoint e known := by
    have kept := unstripped (http_graphic known)
    have scheme : ['h','t','t','p'].isPrefixOf (httpBase ++ e.target) = true := rfl
    refine ⟨_,if_pos (by rw [kept]; exact scheme),?_⟩
    dsimp only
    rw [kept,authority_http known,hostPort_target]
    refine ⟨hostText_some known,?_⟩
    dsimp only
    split
    · rename_i eighty
      exact ⟨fun _ => (port_text _).mp eighty,fun _ => rfl⟩
    · rename_i other
      exact ⟨fun none => absurd none Nat.toDigits_ne_nil,fun eighty => absurd ((port_text _).mpr eighty) other⟩
  decoded := utf8_text

theorem apple_conforms : Conforms noIdna apple where
  parts text components _ read := by
    unfold apple appleUrl at read
    dsimp only at read
    split at read
    · cases read
      exact ⟨rfl,rfl⟩
    · cases read
  accepted query _ shown := by
    have chars : ((payloadBase ++ query).all fun c => urlChar c || c ∈ ['%','[',']']) = true := by
      refine List.all_eq_true.mpr fun c member => ?_
      rcases whole_chars (Bool.and_eq_true_iff.mp shown).1 c member with rfl | plain
      · rfl
      · simp [plain]
    have colon : ':' ∈ payloadBase ++ query := List.mem_append_left query (by decide)
    exact ⟨_,if_pos ⟨colon,chars⟩,rfl,rfl⟩
  endpoint e known := by
    have chars : ((httpBase ++ e.target).all fun c => urlChar c || c ∈ ['%','[',']']) = true := by
      rw [List.all_append,Bool.and_eq_true]
      refine ⟨by decide,List.all_eq_true.mpr fun c member => ?_⟩
      have plain := target_chars known c member
      simp only [targetChar,Bool.or_eq_true,decide_eq_true_eq] at plain
      rcases plain with ((((alphanumeric | rfl) | rfl) | rfl) | rfl) | rfl
      · simp [urlChar,unreserved,alphanumeric]
      all_goals decide
    have colon : ':' ∈ httpBase ++ e.target := List.mem_append_left e.target (by decide)
    refine ⟨_,if_pos ⟨colon,chars⟩,rfl,?_,rfl⟩
    dsimp only
    rw [authority_http known,hostPort_target,if_neg Nat.toDigits_ne_nil]
    rfl
  fragment text unescaped := by
    unfold apple
    dsimp only
    rw [percent_unescaped unescaped,utf8_text]
  itemText raw text _ legible := by
    unfold apple
    dsimp only
    rw [legible,utf8_text]
  joins c small := by
    refine ⟨?_,rfl⟩
    unfold apple
    dsimp only
    rw [decide_eq_false (by omega),Bool.false_and]

end Libraries

section Phones
variable {idna : Text → Bool} {js : Javascript} {f : Foundation}

-- Of the hosts that both know, the two phones read every code the desktop shows, however often it was
-- refreshed, if and only if no endpoint has port 80; and what both read of a clear link is the same.
theorem scanned_links_read (standard : Standard idna js) (conforms : Conforms idna f) :
    (∀ unicode destinationParent urls strict uuid draw draft later platform,
      create unicode destinationParent urls strict uuid draw = .ok draft → ReflTransGen (Refreshed unicode) draft later →
      ∃ endpoints, advertised unicode urls = .ok endpoints ∧ ((∀ e ∈ endpoints, Known idna e) →
        ((decodePairingLink js (later.tokens platform).payload = .ok (offered later.sessionId strict (later.tokens platform)) ∧
          decode f (later.tokens platform).payload = .ok (offered later.sessionId strict (later.tokens platform))) ↔
            ∀ e ∈ endpoints, e.port ≠ 80))) ∧
      ∀ link p p', Clear f link → decodePairingLink js link = .ok p → decode f link = .ok p' → p = p' := by
  refine ⟨?_,fun link p p' clear typescript swift => links_agree standard conforms clear typescript swift⟩
  intro unicode destinationParent urls strict uuid draw draft later platform created path
  obtain ⟨endpoints,shown⟩ := create_advertised created
  have bounds := advertised_bounds shown
  obtain ⟨-,session,generation,drawn,tokens⟩ := made_reached (create_made shown created) path
  refine ⟨endpoints,shown,fun known => ?_⟩
  rw [session,tokens platform,typescript_reads standard known bounds,swift_reads conforms known bounds]
  constructor
  · rintro ⟨read,-⟩ e there eighty
    rw [if_pos ⟨e,there,eighty⟩] at read
    cases read
  · intro other
    refine ⟨if_neg ?_,rfl⟩
    rintro ⟨e,there,eighty⟩
    exact other e there eighty

end Phones

def portEighty : List Text := ["http://10.0.0.1:80".toList]
def plusLink : Text := "https://dl.boldman.net?v=1&ept=10.0.0.1:81&sid=a+b&opt=123456".toList

-- A code with port 80 is refused by the one and read by the other, and a plus is a space to one of them.
theorem eighty_and_plus :
    (create python [] portEighty false 5 ⟨0,0⟩).toOption.map (fun draft =>
      ((decodePairingLink web (draft.tokens .ios).payload).toOption.isSome,(decode apple (draft.tokens .ios).payload).toOption.isSome)) =
        some (false,true) ∧
    (decodePairingLink web plusLink).toOption.map PairingQRCodePayload.sessionId = some ['a',' ','b'] ∧
    (decode apple plusLink).toOption.map PairingQRCodePayload.sessionId = some ['a','+','b'] := by
  refine ⟨?_,?_,?_⟩
  · decide
  · decide
  · decide

def sampleUrls : List Text :=
  ["http://192.168.1.20:53317".toList,"http://[FE80::1]:8080".toList,"http://desk.local:1".toList,"http://192.168.1.20:53317".toList]

def sampleEndpoints : List Endpoint :=
  [⟨"192.168.1.20".toList,53317⟩,⟨"fe80::1".toList,8080⟩,⟨"desk.local".toList,1⟩]

def sampleLink : Text := " https://dl.boldman.net?v=1&ept=10.0.0.1:81&sid=a%20b&sec=1#opt=123456".toList

theorem sample_known : ∀ e ∈ sampleEndpoints, Known noIdna e ∧ e.port ≠ 80 := by
  intro e there
  simp only [sampleEndpoints,List.mem_cons,List.not_mem_nil,or_false] at there
  rcases there with rfl | rfl | rfl
  · exact ⟨⟨by decide,by decide,by decide⟩,by decide⟩
  · exact ⟨⟨by decide,by decide,by decide⟩,by decide⟩
  · exact ⟨⟨by decide,by decide,by decide⟩,by decide⟩

theorem sample_clear : Clear apple sampleLink := by
  have query : rfcQuery (trimmingCharacters sampleLink) = some "v=1&ept=10.0.0.1:81&sid=a%20b&sec=1".toList := by decide
  have fragment : rfcFragment (trimmingCharacters sampleLink) = some "opt=123456".toList := by decide
  have single {query : Option Text} {key raw other : Text} (there : given query key = some raw) (said : given query key = some other) :
      raw = other := Option.some.inj (there.symm.trans said)
  refine ⟨each_char (by decide),by decide,?_,?_,?_,?_,?_,?_⟩
  · rw [query]
    have plain : ∀ part ∈ pieces "v=1&ept=10.0.0.1:81&sid=a%20b&sec=1".toList, '%' ∉ part.1 := by decide
    exact fun part there => ⟨part.1,percent_unescaped (plain part there)⟩
  · intro key listed raw there
    rw [query] at there
    rcases List.mem_cons.mp listed with rfl | listed
    · cases single there (by decide : given _ ['v'] = some ['1'])
      exact ⟨['1'],by decide⟩
    · cases List.mem_singleton.mp listed
      cases (by decide : given (some "v=1&ept=10.0.0.1:81&sid=a%20b&sec=1".toList) ['u','s','p'] = none).symm.trans there
  · intro raw there
    rw [query] at there
    cases single there (by decide : given _ ['e','p','t'] = some "10.0.0.1:81".toList)
    exact ⟨by decide,"10.0.0.1:81".toList,by decide,each_char (by decide),each_char (by decide)⟩
  · intro key listed raw there
    rw [query] at there
    rcases List.mem_cons.mp listed with rfl | listed
    · cases single there (by decide : given _ ['s','i','d'] = some "a%20b".toList)
      exact ⟨by decide,"a b".toList,by decide,by decide⟩
    · cases List.mem_singleton.mp listed
      cases (by decide : given (some "v=1&ept=10.0.0.1:81&sid=a%20b&sec=1".toList) ['o','p','t'] = none).symm.trans there
  · intro raw there
    rw [query] at there
    cases single there (by decide : given _ ['s','e','c'] = some ['1'])
    exact ⟨by decide,['1'],by decide,fun _ => rfl⟩
  · intro text there
    cases fragment.symm.trans there
    refine ⟨by decide,by decide,fun raw there => ?_⟩
    cases single there (by decide : given _ ['o','p','t'] = some "123456".toList)
    exact ⟨by decide,by decide⟩

theorem samples_read :
    (∃ draft later, create python [] sampleUrls true 5 ⟨7,9⟩ = .ok draft ∧
      refreshToken python draft .ios ⟨123,1⟩ = .ok later ∧
      decodePairingLink web (later.tokens .android).payload = .ok (offered later.sessionId true (later.tokens .android)) ∧
      decode apple (later.tokens .android).payload = .ok (offered later.sessionId true (later.tokens .android))) ∧
    ∃ p p', decodePairingLink web sampleLink = .ok p ∧ decode apple sampleLink = .ok p' ∧ p = p' := by
  have shown : advertised python sampleUrls = .ok sampleEndpoints := rfl
  constructor
  · have both : ((create python [] sampleUrls true 5 ⟨7,9⟩).toOption.bind fun draft =>
        (refreshToken python draft .ios ⟨123,1⟩).toOption).isSome = true := by decide
    cases created : create python [] sampleUrls true 5 ⟨7,9⟩ with
    | error message =>
        rw [created] at both
        cases both
    | ok draft =>
        rw [created] at both
        cases refreshed : refreshToken python draft .ios ⟨123,1⟩ with
        | error message =>
            change (refreshToken python draft .ios ⟨123,1⟩).toOption.isSome = true at both
            rw [refreshed] at both
            cases both
        | ok later =>
            obtain ⟨endpoints,same,reads⟩ := (scanned_links_read web_standard apple_conforms).1 python [] sampleUrls true 5 ⟨7,9⟩
              draft later .android created (.single ⟨.ios,⟨123,1⟩,refreshed⟩)
            cases shown.symm.trans same
            have read := (reads fun e there => (sample_known e there).1).mpr fun e there => (sample_known e there).2
            exact ⟨draft,later,rfl,refreshed,read⟩
  · have both : (decodePairingLink web sampleLink).toOption.isSome = true ∧ (decode apple sampleLink).toOption.isSome = true := by decide
    cases typescript : decodePairingLink web sampleLink with
    | error message =>
        rw [typescript] at both
        cases both.1
    | ok p =>
        cases swift : decode apple sampleLink with
        | error error =>
            rw [swift] at both
            cases both.2
        | ok p' =>
            exact ⟨p,p',rfl,rfl,(scanned_links_read web_standard apple_conforms).2 sampleLink p p' sample_clear typescript swift⟩

end ImageSearch.ScannedLinks
