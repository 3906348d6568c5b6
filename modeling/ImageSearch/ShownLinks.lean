import ImageSearch.StandardUrls

namespace ImageSearch.ShownLinks
open FormTexts PairingTokens PairingLinks StandardUrls

variable {idna : Text → Bool} {js : Javascript} {f : Foundation} {text : Text} {c : Char} {endpoints : List Endpoint}
  {sessionId passcode : Text} {usbPort : Nat} {strict : Bool}

theorem toDigits_digit (n : Nat) : ∀ c ∈ Nat.toDigits 10 n, c.isDigit = true := fun _ member =>
  Nat.isDigit_of_mem_toDigits (by decide) (by decide) member

theorem digit_graphic (digit : c.isDigit = true) : graphic c = true :=
  alphanum_graphic (by simp [Char.isAlphanum,digit])

theorem passcode_digit (n : Nat) : ∀ c ∈ passcodeText n, c.isDigit = true := by
  intro c member
  unfold passcodeText at member
  rcases List.mem_append.mp member with zero | digit
  · rw [List.eq_of_mem_replicate zero]
    decide
  · exact toDigits_digit n c digit

theorem passcode_some (n : Nat) : passcodeText n ≠ [] := by
  unfold passcodeText
  exact List.append_ne_nil_of_right_ne_nil _ Nat.toDigits_ne_nil

theorem uuidHex_graphic (bits : Fin (2^128)) : ∀ c ∈ uuidHex bits, graphic c = true := by
  intro c member
  obtain ⟨i,-,rfl⟩ := List.mem_map.mp member
  have all : ∀ n : Fin 16, graphic (Nat.digitChar n) = true := by decide
  exact all ⟨_,Nat.mod_lt _ (by decide)⟩

theorem toDigits_head (n : Nat) : (Nat.toDigits 10 n).head? ≠ some '-' ∧ (Nat.toDigits 10 n).head? ≠ some '+' := by
  constructor
  · intro sign
    exact absurd (toDigits_digit n _ (List.mem_of_mem_head? sign)) (by decide)
  · intro sign
    exact absurd (toDigits_digit n _ (List.mem_of_mem_head? sign)) (by decide)

theorem toDigits_value (n : Nat) : Nat.ofDigitChars 10 (Nat.toDigits 10 n) 0 = n := Nat.ofDigitChars_ten_toDigits

theorem int_toDigits {n : Nat} (small : n < 2^63) : int (Nat.toDigits 10 n) = some (n : Int) := by
  obtain ⟨minus,plus⟩ := toDigits_head n
  have digits : (Nat.toDigits 10 n).all Char.isDigit = true := List.all_eq_true.mpr (toDigits_digit n)
  unfold int
  simp only [minus,plus,or_self,if_false,digits,Nat.toDigits_ne_nil,Bool.not_true,Bool.false_eq_true,toDigits_value]
  exact if_pos ⟨by omega,by exact_mod_cast small⟩

theorem parseInt_toDigits (n : Nat) : parseInt (Nat.toDigits 10 n) = some (n : Int) := by
  obtain ⟨minus,plus⟩ := toDigits_head n
  have shown : ∀ c ∈ Nat.toDigits 10 n, isJsSpace c = false := fun c member =>
    (graphic_bounds (digit_graphic (toDigits_digit n c member))).1
  have digits : (Nat.toDigits 10 n).takeWhile Char.isDigit = Nat.toDigits 10 n :=
    List.takeWhile_eq_self_iff.mpr (toDigits_digit n)
  unfold parseInt
  simp only [Payload.dropWhile_self shown,minus,plus,or_self,if_false,digits,Nat.toDigits_ne_nil,toDigits_value]

-- Where no character joins a comma, Characters split as scalars do.
theorem splitCommas_split {previous : Option Char} (first : ∀ c ∈ previous, f.joins c ',' = false)
    (apart : ∀ c ∈ text, f.joins ',' c = false ∧ f.joins c ',' = false) : splitCommas f previous text = text.splitOn ',' := by
  induction text generalizing previous with
  | nil => rfl
  | cons c rest ih =>
      have later := @ih (some c) (fun d same => by cases same; exact (apart c List.mem_cons_self).2)
        fun d member => apart d (List.mem_cons_of_mem c member)
      rw [List.splitOn_cons_eq_if_modifyHead,splitCommas,later]
      by_cases comma : c = ','
      · subst comma
        have before : previous.any (fun before => f.joins before ',') = false := by
          cases previous with
          | none => rfl
          | some d => exact first d rfl
        have after : rest.head?.any (f.joins ',') = false := by
          cases rest with
          | nil => rfl
          | cons d rest => exact (apart d (by simp)).1
        simp [before,after]
      · simp [comma]

theorem target_comma {e : Endpoint} (known : Known idna e) : ',' ∉ e.target := fun member =>
  absurd (target_chars known ',' member) (by decide)

theorem target_graphic {e : Endpoint} (known : Known idna e) : ∀ c ∈ e.target, graphic c = true := fun c member =>
  targetChar_graphic (target_chars known c member)

theorem target_some (e : Endpoint) : e.target ≠ [] := List.append_ne_nil_of_right_ne_nil _ (List.cons_ne_nil _ _)

theorem targets_graphic (known : ∀ e ∈ endpoints, Known idna e) :
    ∀ c ∈ [','].intercalate (endpoints.map Endpoint.target), graphic c = true := by
  intro c member
  rcases mem_intercalate member with rfl | ⟨part,inParts,within⟩
  · decide
  · obtain ⟨e,there,rfl⟩ := List.mem_map.mp inParts
    exact target_graphic (known e there) c within

theorem targets_split (known : ∀ e ∈ endpoints, Known idna e) (some : endpoints ≠ []) :
    ([','].intercalate (endpoints.map Endpoint.target)).splitOn ',' = endpoints.map Endpoint.target := by
  refine List.splitOn_intercalate ',' ?_ (by simpa using some)
  intro part member
  obtain ⟨e,there,rfl⟩ := List.mem_map.mp member
  exact target_comma (known e there)

theorem targets_some : (endpoints.map Endpoint.target).filter (fun target => target ≠ []) = endpoints.map Endpoint.target := by
  refine List.filter_eq_self.mpr fun part member => decide_eq_true ?_
  obtain ⟨e,-,rfl⟩ := List.mem_map.mp member
  exact target_some e

theorem targets_trimmed (known : ∀ e ∈ endpoints, Known idna e) :
    (endpoints.map Endpoint.target).map trim = endpoints.map Endpoint.target ∧
      (endpoints.map Endpoint.target).map trimmingCharacters = endpoints.map Endpoint.target := by
  have each : ∀ part ∈ endpoints.map Endpoint.target, trim part = part ∧ trimmingCharacters part = part := by
    intro part member
    obtain ⟨e,there,rfl⟩ := List.mem_map.mp member
    exact trimmed (target_graphic (known e there))
  exact ⟨(List.map_congr_left fun part member => (each part member).1).trans (List.map_id _),
    (List.map_congr_left fun part member => (each part member).2).trans (List.map_id _)⟩

theorem targets_typescript (known : ∀ e ∈ endpoints, Known idna e) (some : endpoints ≠ []) :
    endpointTargets ([','].intercalate (endpoints.map Endpoint.target)) = endpoints.map Endpoint.target := by
  unfold endpointTargets
  rw [targets_split known some,(targets_trimmed known).1,targets_some]

theorem targets_swift (conforms : Conforms idna f) (known : ∀ e ∈ endpoints, Known idna e) (some : endpoints ≠ []) :
    targetsOf f ([','].intercalate (endpoints.map Endpoint.target)) = endpoints.map Endpoint.target := by
  have apart := @splitCommas_split f _ none (fun _ same => by cases same) fun c member =>
    conforms.joins c (graphic_bounds (targets_graphic known c member)).2.2.2
  unfold targetsOf
  rw [apart,targets_split known some,targets_some,(targets_trimmed known).2,targets_some]

-- The one difference between the two: what a URL has no port for.
theorem target_typescript (standard : Standard idna js) {e : Endpoint} (known : Known idna e) :
    isValidEndpointTarget js e.target = decide (e.port ≠ 80) := by
  obtain ⟨url,read,host,port⟩ := standard.endpoint e known
  have plain (c : Char) (other : targetChar c = false) : c ∉ e.target := fun member =>
    absurd (target_chars known c member) (by simp [other])
  unfold isValidEndpointTarget
  simp [plain '/' (by decide),plain '?' (by decide),plain '#' (by decide),read,host,port]

theorem targets_invalid (standard : Standard idna js) (known : ∀ e ∈ endpoints, Known idna e) :
    ((endpoints.map Endpoint.target).any fun target => !isValidEndpointTarget js target) = true ↔ ∃ e ∈ endpoints, e.port = 80 := by
  rw [List.any_map,List.any_eq_true]
  constructor
  · rintro ⟨e,there,refused⟩
    rw [Function.comp_apply,target_typescript standard (known e there)] at refused
    exact ⟨e,there,by simpa using refused⟩
  · rintro ⟨e,there,eighty⟩
    refine ⟨e,there,?_⟩
    rw [Function.comp_apply,target_typescript standard (known e there)]
    simpa using eighty

theorem target_swift (conforms : Conforms idna f) {e : Endpoint} (known : Known idna e) : bootstrapURL f e.target = true := by
  obtain ⟨components,read,host,port,whole⟩ := conforms.endpoint e known
  have plain (c : Char) (other : targetChar c = false) : c ∉ e.target := fun member =>
    absurd (target_chars known c member) (by simp [other])
  unfold bootstrapURL
  simp [plain '/' (by decide),plain '?' (by decide),plain '#' (by decide),read,host,port,whole]

def offered (sessionId : Text) (strict : Bool) (token : MobilePairingToken) : PairingQRCodePayload :=
  ⟨2,token.endpointTargets,sessionId,token.oneTimePasscode,some token.suggestedUsbPort,strict⟩

theorem required {params : List (Text × Text)} {key value : Text} (given : get params key = some value)
    (shown : ∀ c ∈ value, graphic c = true) (some : value ≠ []) : parseRequiredQueryParam params key = Option.some value := by
  unfold parseRequiredQueryParam
  rw [given,Option.map_some,(trimmed shown).1]
  simp [some]

theorem targets_join (known : ∀ e ∈ endpoints, Known idna e) (some : endpoints ≠ []) :
    [','].intercalate (endpoints.map Endpoint.target) ≠ [] := by
  intro blank
  have parts := targets_split known some
  obtain ⟨e,rest,rfl⟩ := List.exists_cons_of_ne_nil some
  rw [blank,List.splitOn_nil,List.map_cons] at parts
  exact target_some e (List.cons.inj parts).1.symm

theorem port_toDigits {n : Nat} (port : 1 ≤ n ∧ n ≤ 65535) :
    (some (n : Int)).filter (fun port => 1 ≤ port ∧ port ≤ 65535) = some (n : Int) := by
  have bounds : (1 : Int) ≤ n ∧ (n : Int) ≤ 65535 := by omega
  simp [Option.filter,bounds]

theorem typescript_fields {link : Text} {url : JsUrl} (standard : Standard idna js) (known : ∀ e ∈ endpoints, Known idna e)
    (bounds : endpoints ≠ [] ∧ endpoints.length ≤ 5) (session : sessionId ≠ [] ∧ ∀ c ∈ sessionId, graphic c = true)
    (secret : passcode ≠ [] ∧ ∀ c ∈ passcode, graphic c = true) (port : 1 ≤ usbPort ∧ usbPort ≤ 65535)
    (read : js.url link = some url)
    (params : url.searchParams = payloadFields (endpoints.map Endpoint.target) sessionId passcode usbPort strict)
    (hash : url.hash = []) :
    decodePairingLink js link =
      if ∃ e ∈ endpoints, e.port = 80 then .error "Link field ept contains invalid endpoint targets."
      else .ok ⟨2,endpoints.map Endpoint.target,sessionId,passcode,some usbPort,strict⟩ := by
  have unsaid : get (parseFragmentSearchParams js []) ['o','p','t'] = none := rfl
  have version : parseRequiredQueryParam url.searchParams ['v'] = some ['2'] := by rw [params]; rfl
  have shown : parseRequiredQueryParam url.searchParams ['e','p','t'] = some ([','].intercalate (endpoints.map Endpoint.target)) := by
    rw [params]
    exact required rfl (targets_graphic known) (targets_join known bounds.1)
  have session : parseRequiredQueryParam url.searchParams ['s','i','d'] = some sessionId := by
    rw [params]
    exact required rfl session.2 session.1
  have secret : parseRequiredQueryParam url.searchParams ['o','p','t'] = some passcode := by
    rw [params]
    exact required rfl secret.2 secret.1
  have usb : ((get url.searchParams ['u','s','p']).map trim).getD [] = Nat.toDigits 10 usbPort := by
    rw [params]
    exact (trimmed fun c member => digit_graphic (toDigits_digit usbPort c member)).1
  have security : ((get url.searchParams ['s','e','c']).map trim = some ['1']) ↔ strict = true := by
    rw [params]
    cases strict
    · exact ⟨fun given => (by cases given),fun given => (by cases given)⟩
    · exact ⟨fun _ => rfl,fun _ => rfl⟩
  have suggested : suggestedPort (Nat.toDigits 10 usbPort) 2 = .ok (some usbPort) := by
    unfold suggestedPort
    rw [if_pos Nat.toDigits_ne_nil,parseInt_toDigits,port_toDigits port]
  have counted : ¬(endpoints.map Endpoint.target = [] ∨ 5 < (endpoints.map Endpoint.target).length) := by
    rw [List.map_eq_nil_iff,List.length_map]
    rintro (none | many)
    · exact bounds.1 none
    · exact absurd bounds.2 (by omega)
  have refusal : ((endpoints.map Endpoint.target = [] ∨ 5 < (endpoints.map Endpoint.target).length ∨
      ((endpoints.map Endpoint.target).any fun target => !isValidEndpointTarget js target) = true)) ↔
        ∃ e ∈ endpoints, e.port = 80 := by
    rw [← or_assoc,or_iff_right counted,targets_invalid standard known]
  have two : parseInt ['2'] = some 2 := rfl
  have flag : decide ((get url.searchParams ['s','e','c']).map trim = some ['1']) = strict := by
    rw [Bool.eq_iff_iff,decide_eq_true_iff,security]
  have fromQuery : (((none : Option Text).map trim).filter fun value => decide (value ≠ [])).or (some passcode) = some passcode := rfl
  unfold decodePairingLink
  simp only [read,hash,unsaid,version,shown,session,secret,usb,fromQuery,two,suggested,targets_typescript known bounds.1,refusal,flag]
  rfl

theorem newToken_fields (endpoints : List Endpoint) (sessionId : Text) (strict : Bool) (generation : Nat) (draw : Draw) :
    (newToken sessionId endpoints strict generation draw).payload = payloadBase ++ urlencode (payloadFields
      (endpoints.map Endpoint.target) sessionId (passcodeText draw.passcode) (47000+draw.usbPort) strict) := rfl

-- The phone of TypeScript reads a token if, and only if, no endpoint of it has port 80.
theorem typescript_reads (standard : Standard idna js) (known : ∀ e ∈ endpoints, Known idna e)
    (bounds : endpoints ≠ [] ∧ endpoints.length ≤ 5) (uuid : Fin (2^128)) (strict : Bool) (generation : Nat) (draw : Draw) :
    decodePairingLink js (newToken (uuidHex uuid) endpoints strict generation draw).payload =
      if ∃ e ∈ endpoints, e.port = 80 then .error "Link field ept contains invalid endpoint targets."
      else .ok (offered (uuidHex uuid) strict (newToken (uuidHex uuid) endpoints strict generation draw)) := by
  have drawn : draw.usbPort.val ≤ 10000 := Nat.le_of_lt_succ draw.usbPort.isLt
  have port : 1 ≤ 47000+draw.usbPort.val ∧ 47000+draw.usbPort.val ≤ 65535 := by omega
  rw [newToken_fields]
  generalize fieldsAre : payloadFields (endpoints.map Endpoint.target) (uuidHex uuid) (passcodeText draw.passcode)
    (47000+draw.usbPort) strict = fields
  have some : fields ≠ [] := by
    rw [← fieldsAre]
    exact List.cons_ne_nil _ _
  obtain ⟨whole,query,fragment⟩ := payload_text (whole_urlencode fields) (urlencode_hash fields)
  obtain ⟨url,read⟩ := Option.isSome_iff_exists.mp (standard.accepted _ (urlencode_hash fields) whole)
  obtain ⟨params,hash⟩ := standard.parts _ url whole read
  rw [query,Option.getD_some,search_urlencode standard some,← fieldsAre] at params
  rw [fragment,Option.getD_none] at hash
  exact typescript_fields standard known bounds ⟨by simp [uuidHex],uuidHex_graphic uuid⟩
    ⟨passcode_some _,fun c member => digit_graphic (passcode_digit _ c member)⟩ port read params hash

theorem swift_fields {link : Text} {components : Components} (conforms : Conforms idna f) (known : ∀ e ∈ endpoints, Known idna e)
    (bounds : endpoints ≠ [] ∧ endpoints.length ≤ 5) (port : 1 ≤ usbPort ∧ usbPort ≤ 65535)
    (untouched : trimmingCharacters link = link) (some : link ≠ []) (read : f.components link = Option.some components)
    (scheme : components.scheme = Option.some "https".toList) (host : components.host = Option.some "dl.boldman.net".toList)
    (items : queryItems f components.query = (payloadFields (endpoints.map Endpoint.target) sessionId passcode usbPort strict).map
      fun field => (field.1,Option.some field.2))
    (fragment : components.fragment = none) :
    decode f link = .ok ⟨2,endpoints.map Endpoint.target,sessionId,passcode,Option.some usbPort,strict⟩ := by
  have version : (item (queryItems f components.query) ['v']).bind int = Option.some 2 := by rw [items]; rfl
  have shown : item (queryItems f components.query) ['e','p','t'] = Option.some ([','].intercalate (endpoints.map Endpoint.target)) := by
    rw [items]
    rfl
  have session : item (queryItems f components.query) ['s','i','d'] = Option.some sessionId := by rw [items]; rfl
  have secret : item (queryItems f components.query) ['o','p','t'] = Option.some passcode := by rw [items]; rfl
  have usb : item (queryItems f components.query) ['u','s','p'] = Option.some (Nat.toDigits 10 usbPort) := by rw [items]; rfl
  have security : item (queryItems f components.query) ['s','e','c'] = Option.some ['1'] ↔ strict = true := by
    rw [items]
    cases strict
    · exact ⟨fun given => (by cases given),fun given => (by cases given)⟩
    · exact ⟨fun _ => rfl,fun _ => rfl⟩
  have suggested : suggestedUSBPort (Option.some (Nat.toDigits 10 usbPort)) 2 = .ok (Option.some usbPort) := by
    unfold suggestedUSBPort
    have small : usbPort < 2^63 := by omega
    simp only [int_toDigits small,port_toDigits port]
  have valid : ¬(endpoints.map Endpoint.target = [] ∨ 5 < (endpoints.map Endpoint.target).length ∨
      ((endpoints.map Endpoint.target).any fun target => !bootstrapURL f target) = true) := by
    rw [List.map_eq_nil_iff,List.length_map,List.any_map,List.any_eq_true]
    rintro (none | many | ⟨e,there,refused⟩)
    · exact bounds.1 none
    · exact absurd bounds.2 (by omega)
    · rw [Function.comp_apply,target_swift conforms (known e there)] at refused
      cases refused
  have flag : decide (item (queryItems f components.query) ['s','e','c'] = Option.some ['1']) = strict := by
    rw [Bool.eq_iff_iff,decide_eq_true_iff,security]
  have unsaid : item (fragmentQueryItems f ((none : Option Text).bind f.fragment)) ['o','p','t'] = none := rfl
  unfold decode
  simp only [untouched,if_neg some,read,scheme,host,fragment,version,shown,session,secret,usb,unsaid,
    targets_swift conforms known bounds.1,if_neg valid,suggested,flag]
  rfl

theorem fields_spaceless (known : ∀ e ∈ endpoints, Known idna e) (uuid : Fin (2^128)) (passcode usbPort : Nat) (strict : Bool) :
    ∀ field ∈ payloadFields (endpoints.map Endpoint.target) (uuidHex uuid) (passcodeText passcode) usbPort strict,
      ' ' ∉ field.1 ∧ ' ' ∉ field.2 := by
  have blankless {value : Text} (shown : ∀ c ∈ value, graphic c = true) : ' ' ∉ value := fun blank =>
    absurd (shown ' ' blank) (by decide)
  have digits {value : Text} (digit : ∀ c ∈ value, c.isDigit = true) : ' ' ∉ value :=
    blankless fun c member => digit_graphic (digit c member)
  have targets := blankless (targets_graphic known)
  have session := blankless (uuidHex_graphic uuid)
  have secret := digits (passcode_digit passcode)
  have usb := digits (toDigits_digit usbPort)
  intro field there
  unfold payloadFields at there
  rcases List.mem_append.mp there with there | there
  · simp only [List.mem_cons,List.not_mem_nil,or_false] at there
    rcases there with rfl | rfl | rfl | rfl | rfl
    · exact ⟨by decide,by decide⟩
    · exact ⟨by simp,targets⟩
    · exact ⟨by simp,session⟩
    · exact ⟨by simp,secret⟩
    · exact ⟨by simp,usb⟩
  · cases strict
    · cases there
    · cases List.mem_singleton.mp there
      exact ⟨by decide,by decide⟩

theorem swift_reads (conforms : Conforms idna f) (known : ∀ e ∈ endpoints, Known idna e)
    (bounds : endpoints ≠ [] ∧ endpoints.length ≤ 5) (uuid : Fin (2^128)) (strict : Bool) (generation : Nat) (draw : Draw) :
    decode f (newToken (uuidHex uuid) endpoints strict generation draw).payload =
      .ok (offered (uuidHex uuid) strict (newToken (uuidHex uuid) endpoints strict generation draw)) := by
  have drawn : draw.usbPort.val ≤ 10000 := Nat.le_of_lt_succ draw.usbPort.isLt
  have port : 1 ≤ 47000+draw.usbPort.val ∧ 47000+draw.usbPort.val ≤ 65535 := by omega
  rw [newToken_fields]
  generalize fieldsAre : payloadFields (endpoints.map Endpoint.target) (uuidHex uuid) (passcodeText draw.passcode)
    (47000+draw.usbPort) strict = fields
  have some : fields ≠ [] := by
    rw [← fieldsAre]
    exact List.cons_ne_nil _ _
  have spaceless : ∀ field ∈ fields, ' ' ∉ field.1 ∧ ' ' ∉ field.2 := by
    rw [← fieldsAre]
    exact fields_spaceless known uuid draw.passcode _ strict
  obtain ⟨whole,query,fragment⟩ := payload_text (whole_urlencode fields) (urlencode_hash fields)
  obtain ⟨components,read,scheme,host⟩ := conforms.accepted _ (urlencode_hash fields) whole
  obtain ⟨given,unsaid⟩ := conforms.parts _ components whole read
  have untouched := (trimmed (whole_graphic (Bool.and_eq_true_iff.mp whole).1)).2
  have items := items_urlencode conforms some spaceless
  rw [← query,← given,← fieldsAre] at items
  have some : payloadBase ++ urlencode fields ≠ [] := List.append_ne_nil_of_left_ne_nil (by decide) _
  exact swift_fields conforms known bounds port untouched some read scheme host items (unsaid.trans fragment)

end ImageSearch.ShownLinks
