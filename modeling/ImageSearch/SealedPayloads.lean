import ImageSearch.PayloadCiphers

namespace ImageSearch.SealedPayloads
open Payload PayloadCiphers

variable {Object : Type} {lib : Libraries Object} {data key nonce plaintext : Bytes} {text : List Char}

theorem symbols_plain : ∀ n < 64, isSpace (Base64.urlsafe (Base64.symbol n)) = false ∧
    isTrimmed (Base64.urlsafe (Base64.symbol n)) = false ∧ Base64.urlsafe (Base64.symbol n) ≠ '=' := by decide

theorem symbols_back : ∀ n < 64, (let c := Base64.urlsafe (Base64.symbol n)
    let plus := if c = '-' then '+' else c
    if plus = '_' then '/' else plus) = Base64.symbol n := by decide

theorem open_padding (closed : ∀ c ∈ text, c ≠ '=') (k : Nat) :
    (text ++ List.replicate k '=').rdropWhile (fun c => c = '=') = text := by
  induction k with
  | zero =>
      rw [List.replicate_zero,List.append_nil]
      cases ending : text.getLast? with
      | none =>
          rw [List.getLast?_eq_none_iff.mp ending]
          rfl
      | some last =>
          obtain ⟨front,rfl⟩ := List.getLast?_eq_some_iff.mp ending
          rw [List.rdropWhile_concat_neg]
          have other := closed last (List.mem_append_right _ List.mem_cons_self)
          simpa using other
  | succ k ih =>
      rw [List.replicate_succ',← List.append_assoc,List.rdropWhile_concat_pos _ _ _ (by decide)]
      exact ih

theorem unpadded_plain : ∀ c ∈ Base64.unpadded data, isSpace c = false ∧ isTrimmed c = false ∧ c ≠ '=' := by
  intro c member
  obtain ⟨n,small,rfl⟩ := Base64.unpadded_mem member
  exact symbols_plain n small

theorem encoded_desktop : base64urlEncode data = String.ofList (Base64.unpadded data) := by
  unfold base64urlEncode
  rw [Base64.encode_urlsafe,open_padding fun c member => (unpadded_plain c member).2.2]

theorem encoded_phone : toBase64Url data = base64urlEncode data := by
  have same : ∀ c : Char, (let dash := if c = '+' then '-' else c
      if dash = '/' then '_' else dash) = Base64.urlsafe c := by
    intro c
    unfold Base64.urlsafe
    by_cases plus : c = '+'
    · subst plus
      decide
    · simp [plus]
  unfold toBase64Url base64urlEncode
  rw [List.map_map]
  congr 2
  exact List.map_congr_left fun c _ => same c

theorem strip_unpadded : strip (String.ofList (Base64.unpadded data)) = String.ofList (Base64.unpadded data) := by
  unfold strip
  rw [String.toList_ofList,stripChars_self fun c member => (unpadded_plain c member).1]

theorem trim_unpadded : trim (String.ofList (Base64.unpadded data)) = String.ofList (Base64.unpadded data) := by
  unfold trim
  rw [String.toList_ofList,stripChars_self fun c member => (unpadded_plain c member).2.1]

theorem unpadded_text (some : data ≠ []) : String.ofList (Base64.unpadded data) ≠ "" := by
  intro empty
  have chars := congrArg String.toList empty
  rw [String.toList_ofList] at chars
  exact Base64.unpadded_some some chars

theorem decoded_desktop (some : data ≠ []) : base64urlDecode lib (base64urlEncode data) = .ok data := by
  unfold base64urlDecode
  rw [encoded_desktop,strip_unpadded,if_neg (unpadded_text some)]
  have decoded := lib.urlsafe_decodes data
  rw [Base64.encode_urlsafe] at decoded
  unfold padded
  rw [String.toList_ofList,decoded]
  rfl

theorem decoded_phone (some : data ≠ []) : fromBase64Url lib (base64urlEncode data) = .ok data := by
  have back : ((Base64.unpadded data).map fun c => if c = '-' then '+' else c).map (fun c => if c = '_' then '/' else c) =
      (Base64.sextets data).map Base64.symbol := by
    unfold Base64.unpadded
    rw [List.map_map,List.map_map,List.map_map]
    exact List.map_congr_left fun n member => symbols_back n (Base64.sextets_bound data n member)
  have length : ((Base64.sextets data).map Base64.symbol).length = (Base64.sextets data).length := List.length_map _
  unfold fromBase64Url
  rw [encoded_desktop,trim_unpadded,if_neg (unpadded_text some),String.toList_ofList,back]
  unfold padded
  rw [length,← Base64.padding_length]
  exact congrArg Except.ok (lib.base64_decodes data)

theorem sealed_length : (lib.cipher.sealed key nonce plaintext).length = plaintext.length + tagBytes := by
  unfold Cipher.sealed
  rw [List.length_append,lib.cipher.tag_length,lib.cipher.body_length]

theorem sealed_parts : (lib.cipher.sealed key nonce plaintext).take ((lib.cipher.sealed key nonce plaintext).length - tagBytes) =
      (lib.cipher.gcmEncrypt key nonce plaintext).1 ∧
    (lib.cipher.sealed key nonce plaintext).drop ((lib.cipher.sealed key nonce plaintext).length - tagBytes) =
      (lib.cipher.gcmEncrypt key nonce plaintext).2 := by
  have body : (lib.cipher.sealed key nonce plaintext).length - tagBytes = (lib.cipher.gcmEncrypt key nonce plaintext).1.length := by
    rw [sealed_length,Nat.add_sub_cancel,lib.cipher.body_length]
  rw [body]
  exact ⟨List.take_left,List.drop_left⟩

theorem unsealed_exact (whole : lib.cipher.gcmDecrypt key nonce (data.take (data.length - tagBytes))
    (data.drop (data.length - tagBytes)) = some plaintext) : data = lib.cipher.sealed key nonce plaintext := by
  have parts := lib.cipher.authentic key nonce _ _ plaintext whole
  unfold Cipher.sealed
  rw [← parts]
  exact (List.take_append_drop _ _).symm

theorem sealed_some : lib.cipher.sealed key nonce plaintext ≠ [] := by
  intro empty
  have length := @sealed_length _ lib key nonce plaintext
  rw [empty] at length
  cases length

theorem aes_opens : aesgcmDecrypt lib key nonce (lib.cipher.sealed key nonce plaintext) = .ok plaintext := by
  have long : ¬(lib.cipher.sealed key nonce plaintext).length < tagBytes := by
    rw [sealed_length]
    omega
  unfold aesgcmDecrypt
  rw [if_neg long,sealed_parts.1,sealed_parts.2,lib.cipher.opens]

theorem aes_authentic (opened : aesgcmDecrypt lib key nonce data = .ok plaintext) :
    data = lib.cipher.sealed key nonce plaintext := by
  unfold aesgcmDecrypt at opened
  split at opened
  · cases opened
  · split at opened
    · rename_i found
      cases opened
      exact unsealed_exact found
    · cases opened

section Acceptance
variable {message : Fields} {trustKeyB64 : String} {payload : Object} {chunk : Bytes}

def CarriedToDesktop (lib : Libraries Object) (message : Fields) (trustKeyB64 : String) (payload : Object) : Prop :=
  isEncrypted message = true ∧ ∃ key nonce plaintext, deriveMobileEncryptionKey lib trustKeyB64 = .ok key ∧
    nonce.length = nonceBytes ∧ decodeRequiredBase64urlField lib message "nonce" = .ok nonce ∧
    decodeRequiredBase64urlField lib message "ciphertext" = .ok (lib.cipher.sealed key nonce plaintext) ∧
    lib.loads plaintext = .object payload

def CarriedToPhone (lib : Libraries Object) (message : Fields) (trustKeyB64 : String) (payload : Object) : Prop :=
  isEncrypted message = true ∧ ∃ key nonce plaintext, deriveEncryptionKey lib trustKeyB64 = .ok key ∧
    nonce.length = nonceBytes ∧ (requiredField message "nonce" >>= fromBase64Url lib) = .ok nonce ∧
    (requiredField message "ciphertext" >>= fromBase64Url lib) = .ok (lib.cipher.sealed key nonce plaintext) ∧
    lib.parse plaintext = .object payload

def Translated {α : Type} (result : Except PythonError α) : Prop :=
  ∀ raised, result = .error raised → ∃ text, raised = .mobilePayloadEncryptionError text

theorem refuse_translated {α : Type} {text : String} : Translated (refuse text : Except PythonError α) := by
  intro raised same
  cases same
  exact ⟨text,rfl⟩

theorem ok_translated {α : Type} {value : α} : Translated (.ok value) := nofun

theorem bind_translated {α β : Type} {first : Except PythonError α} {next : α → Except PythonError β} (one : Translated first)
    (two : ∀ value, Translated (next value)) : Translated (first >>= next) := by
  cases first with
  | error raised => exact fun other same => one other (by cases same; rfl)
  | ok value => exact two value

theorem translated_translated {α : Type} {text : String} {result : Except String α} : Translated (translated text result) := by
  cases result with
  | error name => exact refuse_translated
  | ok value => exact ok_translated

theorem derive_translated : Translated (deriveMobileEncryptionKey lib trustKeyB64) := by
  unfold deriveMobileEncryptionKey
  dsimp only
  split
  · exact refuse_translated
  · exact ok_translated

theorem required_translated {fieldName : String} : Translated (decodeRequiredBase64urlField lib message fieldName) := by
  unfold decodeRequiredBase64urlField
  split
  · split
    · exact refuse_translated
    · unfold base64urlDecode
      dsimp only
      split
      · exact refuse_translated
      · exact translated_translated
  · exact refuse_translated

theorem decoded_translated {parsed : Parsed Object} : Translated (decodedObject parsed) := by
  cases parsed with
  | object value => exact ok_translated
  | other => exact refuse_translated
  | malformed => exact refuse_translated

theorem desktop_translated : Translated (decryptMobileJsonPayload lib message trustKeyB64) := by
  unfold decryptMobileJsonPayload
  split
  · exact refuse_translated
  · apply bind_translated required_translated
    intro nonce
    split
    · exact refuse_translated
    · exact bind_translated required_translated fun _ => bind_translated derive_translated fun _ =>
        bind_translated translated_translated fun _ => decoded_translated

theorem chunk_translated : Translated (decryptMobileBinaryChunk lib data trustKeyB64) := by
  unfold decryptMobileBinaryChunk
  split
  · exact refuse_translated
  · split
    · exact refuse_translated
    · exact bind_translated derive_translated fun _ => translated_translated

theorem bind_ok {ε α β : Type} {first : Except ε α} {next : α → Except ε β} {value : β} :
    (first >>= next) = .ok value ↔ ∃ middle, first = .ok middle ∧ next middle = .ok value := by
  cases first with
  | error raised => exact ⟨nofun,fun ⟨_,failed,_⟩ => nomatch failed⟩
  | ok middle => exact ⟨fun same => ⟨middle,rfl,same⟩,fun ⟨_,same,after⟩ => by cases same; exact after⟩

theorem translated_ok {α : Type} {text : String} {result : Except String α} {value : α} :
    translated text result = .ok value ↔ result = .ok value := by
  cases result with
  | error name => exact ⟨nofun,nofun⟩
  | ok other => exact ⟨fun same => by cases same; rfl,fun same => by cases same; rfl⟩

theorem decoded_ok {parsed : Parsed Object} : decodedObject parsed = .ok payload ↔ parsed = .object payload := by
  cases parsed with
  | object value => exact ⟨fun same => by cases same; rfl,fun same => by cases same; rfl⟩
  | other => exact ⟨nofun,nofun⟩
  | malformed => exact ⟨nofun,nofun⟩

theorem aes_iff : aesgcmDecrypt lib key nonce data = .ok plaintext ↔ data = lib.cipher.sealed key nonce plaintext :=
  ⟨aes_authentic,fun same => same ▸ aes_opens⟩

theorem desktop_accepts : decryptMobileJsonPayload lib message trustKeyB64 = .ok payload ↔
    CarriedToDesktop lib message trustKeyB64 payload := by
  unfold decryptMobileJsonPayload CarriedToDesktop
  constructor
  · intro accepted
    split at accepted
    · cases accepted
    · rename_i encrypted
      obtain ⟨nonce,first,accepted⟩ := bind_ok.mp accepted
      split at accepted
      · cases accepted
      · rename_i sized
        obtain ⟨ciphertext,second,accepted⟩ := bind_ok.mp accepted
        obtain ⟨key,derived,accepted⟩ := bind_ok.mp accepted
        obtain ⟨plaintext,opened,accepted⟩ := bind_ok.mp accepted
        rw [aes_iff.mp (translated_ok.mp opened)] at second
        exact ⟨by simpa using encrypted,key,nonce,plaintext,derived,not_not.mp sized,first,second,decoded_ok.mp accepted⟩
  · rintro ⟨encrypted,key,nonce,plaintext,derived,sized,first,second,loaded⟩
    rw [encrypted,if_neg (by decide)]
    refine bind_ok.mpr ⟨nonce,first,?_⟩
    rw [if_neg (not_not.mpr sized)]
    exact bind_ok.mpr ⟨_,second,bind_ok.mpr ⟨key,derived,bind_ok.mpr ⟨plaintext,translated_ok.mpr aes_opens,decoded_ok.mpr loaded⟩⟩⟩

-- The chunks that are accepted are the ones that the desktop's own encryption makes.
theorem chunk_accepts : decryptMobileBinaryChunk lib data trustKeyB64 = .ok chunk ↔
    ∃ nonce, nonce.length = nonceBytes ∧ encryptMobileBinaryChunk lib chunk trustKeyB64 nonce = .ok data := by
  unfold decryptMobileBinaryChunk encryptMobileBinaryChunk
  constructor
  · intro accepted
    split at accepted
    · cases accepted
    · rename_i long
      split at accepted
      · cases accepted
      · rename_i version
        obtain ⟨key,derived,accepted⟩ := bind_ok.mp accepted
        have whole := aes_iff.mp (translated_ok.mp accepted)
        refine ⟨data.tail.take nonceBytes,?_,bind_ok.mpr ⟨key,derived,?_⟩⟩
        · unfold binaryChunkOverheadBytes at long
          rw [List.length_take,List.length_tail]
          omega
        · rw [← whole]
          have head := not_not.mp version
          cases data with
          | nil => cases head
          | cons first rest =>
              cases head
              rw [List.tail_cons,List.cons_append,List.take_append_drop]
              rfl
  · rintro ⟨nonce,sized,made⟩
    obtain ⟨key,derived,made⟩ := bind_ok.mp made
    cases made
    have long : ¬(binaryChunkVersion :: nonce ++ lib.cipher.sealed key nonce chunk).length < binaryChunkOverheadBytes := by
      unfold binaryChunkOverheadBytes
      rw [List.length_append,List.length_cons,sealed_length]
      omega
    rw [if_neg long,if_neg (fun other => other rfl)]
    refine bind_ok.mpr ⟨key,derived,translated_ok.mpr ?_⟩
    rw [List.cons_append,List.tail_cons,← sized,List.take_left,List.drop_left]
    exact aes_opens

theorem opened_ok {trusted : String} : opened lib trusted nonce data = .ok payload ↔
    ∃ key plaintext, deriveEncryptionKey lib trusted = .ok key ∧ data = lib.cipher.sealed key nonce plaintext ∧
      lib.parse plaintext = .object payload := by
  unfold opened
  constructor
  · intro accepted
    split at accepted
    · cases accepted
    · rename_i key derived
      split at accepted
      · cases accepted
      · rename_i plaintext found
        split at accepted
        · rename_i value parsed
          cases accepted
          exact ⟨key,plaintext,derived,unsealed_exact found,parsed⟩
        · cases accepted
        · cases accepted
  · rintro ⟨key,plaintext,derived,rfl,parsed⟩
    rw [derived]
    dsimp only
    rw [sealed_parts.1,sealed_parts.2,lib.cipher.opens]
    dsimp only
    rw [parsed]

theorem phone_accepts : decryptJsonPayload lib message trustKeyB64 = .ok payload ↔
    CarriedToPhone lib message trustKeyB64 payload := by
  unfold decryptJsonPayload CarriedToPhone
  constructor
  · intro accepted
    split at accepted
    · cases accepted
    · rename_i encrypted
      obtain ⟨rawNonce,first,accepted⟩ := bind_ok.mp accepted
      obtain ⟨rawCiphertext,second,accepted⟩ := bind_ok.mp accepted
      obtain ⟨nonce,third,accepted⟩ := bind_ok.mp accepted
      split at accepted
      · cases accepted
      · rename_i sized
        obtain ⟨ciphertext,fourth,accepted⟩ := bind_ok.mp accepted
        split at accepted
        · cases accepted
        · obtain ⟨key,plaintext,derived,rfl,parsed⟩ := opened_ok.mp accepted
          exact ⟨by simpa using encrypted,key,nonce,plaintext,derived,not_not.mp sized,bind_ok.mpr ⟨rawNonce,first,third⟩,
            bind_ok.mpr ⟨rawCiphertext,second,fourth⟩,parsed⟩
  · rintro ⟨encrypted,key,nonce,plaintext,derived,sized,first,second,parsed⟩
    obtain ⟨rawNonce,first,third⟩ := bind_ok.mp first
    obtain ⟨rawCiphertext,second,fourth⟩ := bind_ok.mp second
    rw [encrypted,if_neg (by decide)]
    refine bind_ok.mpr ⟨rawNonce,first,bind_ok.mpr ⟨rawCiphertext,second,bind_ok.mpr ⟨nonce,third,?_⟩⟩⟩
    rw [if_neg (not_not.mpr sized)]
    refine bind_ok.mpr ⟨_,fourth,?_⟩
    have long : ¬(lib.cipher.sealed key nonce plaintext).length ≤ tagBytes := by
      rw [sealed_length]
      intro short
      have empty : plaintext = [] := List.length_eq_zero_iff.mp (by omega)
      rw [empty,lib.parse_empty] at parsed
      cases parsed
    rw [if_neg long]
    exact opened_ok.mpr ⟨key,plaintext,derived,rfl,parsed⟩

end Acceptance

section RoundTrips
variable {trustKeyB64 : String} {payload : Object} {chunk : Bytes}

-- What both sides strip the key to, where they agree and something is left.
def SharedKey (trustKeyB64 : String) : Prop := strip trustKeyB64 = trim trustKeyB64 ∧ trim trustKeyB64 ≠ ""

theorem key_derived (shared : SharedKey trustKeyB64) : ∃ key, deriveEncryptionKey lib trustKeyB64 = .ok key ∧
    deriveMobileEncryptionKey lib trustKeyB64 = .ok key := by
  refine ⟨lib.sha256 (keyDerivationContext ++ "\n" ++ trim trustKeyB64),?_,?_⟩
  · unfold deriveEncryptionKey
    rw [if_neg shared.2]
  · unfold deriveMobileEncryptionKey
    rw [shared.1,if_neg shared.2]

-- The envelope as both sides write it, whatever fields come behind.
def Enveloped (lib : Libraries Object) (message : Fields) (key nonce plaintext : Bytes) : Prop :=
  get message "schema" = .string mobileEncryptionSchema ∧ get message "nonce" = .string (base64urlEncode nonce) ∧
    get message "ciphertext" = .string (base64urlEncode (lib.cipher.sealed key nonce plaintext))

variable {message : Fields}

theorem enveloped_encrypted (enveloped : Enveloped lib message key nonce plaintext) : isEncrypted message = true := by
  unfold isEncrypted
  rw [enveloped.1]
  exact decide_eq_true rfl

theorem field_desktop {fieldName : String} (some : data ≠ []) (held : get message fieldName = .string (base64urlEncode data)) :
    decodeRequiredBase64urlField lib message fieldName = .ok data := by
  unfold decodeRequiredBase64urlField
  rw [held]
  dsimp only
  rw [encoded_desktop,strip_unpadded,if_neg (unpadded_text some),← encoded_desktop]
  exact decoded_desktop some

theorem field_phone {fieldName : String} (some : data ≠ []) (held : get message fieldName = .string (base64urlEncode data)) :
    (requiredField message fieldName >>= fromBase64Url lib) = .ok data := by
  refine bind_ok.mpr ⟨base64urlEncode data,?_,decoded_phone some⟩
  unfold requiredField
  rw [held]
  dsimp only
  rw [encoded_desktop,trim_unpadded,if_neg (unpadded_text some)]

theorem nonce_some (sized : nonce.length = nonceBytes) : nonce ≠ [] := by
  rintro rfl
  cases sized

theorem enveloped_desktop (enveloped : Enveloped lib message key nonce plaintext) (sized : nonce.length = nonceBytes)
    (derived : deriveMobileEncryptionKey lib trustKeyB64 = .ok key) (loaded : lib.loads plaintext = .object payload) :
    decryptMobileJsonPayload lib message trustKeyB64 = .ok payload :=
  desktop_accepts.mpr ⟨enveloped_encrypted enveloped,key,nonce,plaintext,derived,sized,
    field_desktop (nonce_some sized) enveloped.2.1,field_desktop sealed_some enveloped.2.2,loaded⟩

theorem enveloped_phone (enveloped : Enveloped lib message key nonce plaintext) (sized : nonce.length = nonceBytes)
    (derived : deriveEncryptionKey lib trustKeyB64 = .ok key) (parsed : lib.parse plaintext = .object payload) :
    decryptJsonPayload lib message trustKeyB64 = .ok payload :=
  phone_accepts.mpr ⟨enveloped_encrypted enveloped,key,nonce,plaintext,derived,sized,
    field_phone (nonce_some sized) enveloped.2.1,field_phone sealed_some enveloped.2.2,parsed⟩

theorem phone_to_desktop (shared : SharedKey trustKeyB64) (sized : nonce.length = nonceBytes)
    (located : optionalLocatorField lib payload "session_id" ≠ none) :
    ∃ message, encryptJsonPayload lib payload trustKeyB64 nonce = .ok message ∧
      decryptMobileJsonPayload lib message trustKeyB64 = .ok payload := by
  obtain ⟨key,derived,derived'⟩ := @key_derived _ lib _ shared
  obtain ⟨sessionId,session⟩ := Option.ne_none_iff_exists'.mp located
  unfold encryptJsonPayload
  rw [session,derived]
  refine ⟨_,rfl,enveloped_desktop ⟨rfl,?_,?_⟩ sized derived' (lib.loads_stringify payload)⟩
  · rw [← encoded_phone]
    rfl
  · rw [← encoded_phone]
    rfl

theorem chunk_to_desktop (shared : SharedKey trustKeyB64) (sized : nonce.length = nonceBytes) :
    ∃ data, encryptBinaryChunk lib chunk trustKeyB64 nonce = .ok data ∧
      decryptMobileBinaryChunk lib data trustKeyB64 = .ok chunk := by
  obtain ⟨key,derived,derived'⟩ := @key_derived _ lib _ shared
  refine ⟨_,bind_ok.mpr ⟨key,derived,rfl⟩,chunk_accepts.mpr ⟨nonce,sized,bind_ok.mpr ⟨key,derived',rfl⟩⟩⟩

-- Locators with a text in them, that leave the envelope's own fields alone.
def Harmless (locatorFields : List (String × String)) : Prop :=
  ∀ locator ∈ locatorFields, strip locator.1 ≠ "" ∧ strip locator.2 ≠ "" ∧ locator.1 ∉ ["schema","nonce","ciphertext"]

theorem lookup_replaced {fieldName other : String} {value : Json} (different : fieldName ≠ other) :
    (message.map fun field => if field.1 = fieldName then (fieldName,value) else field).lookup other = message.lookup other := by
  induction message with
  | nil => rfl
  | cons field message ih =>
      obtain ⟨name,held⟩ := field
      rw [List.map_cons]
      by_cases same : name = fieldName
      · subst same
        rw [if_pos rfl,List.lookup_cons,List.lookup_cons,beq_false_of_ne different.symm]
        exact ih
      · rw [if_neg same,List.lookup_cons,List.lookup_cons,ih]

theorem setField_other {fieldName other : String} {value : Json} (different : fieldName ≠ other) :
    Payload.get (setField message fieldName value) other = Payload.get message other := by
  unfold Payload.get setField
  split
  · rw [lookup_replaced different]
  · rw [List.lookup_append,List.lookup_cons,beq_false_of_ne different.symm,List.lookup_nil,Option.or_none]

theorem setField_enveloped {fieldName : String} {value : Json} (enveloped : Enveloped lib message key nonce plaintext)
    (apart : fieldName ∉ ["schema","nonce","ciphertext"]) :
    Enveloped lib (setField message fieldName value) key nonce plaintext := by
  simp only [List.mem_cons,List.not_mem_nil,or_false,not_or] at apart
  unfold Enveloped
  rw [setField_other apart.1,setField_other apart.2.1,setField_other apart.2.2]
  exact enveloped

theorem located_enveloped {locatorFields : List (String × String)} (harmless : Harmless locatorFields)
    (enveloped : Enveloped lib message key nonce plaintext) :
    ∃ located, addLocators locatorFields message = .ok located ∧ Enveloped lib located key nonce plaintext := by
  induction locatorFields generalizing message with
  | nil => exact ⟨message,rfl,enveloped⟩
  | cons locator rest ih =>
      obtain ⟨named,filled,apart⟩ := harmless locator List.mem_cons_self
      rw [addLocators,if_neg named,if_neg filled]
      exact ih (fun other member => harmless other (List.mem_cons_of_mem _ member)) (setField_enveloped enveloped apart)

theorem desktop_to_phone {locatorFields : List (String × String)} {serialized : Bytes} (shared : SharedKey trustKeyB64)
    (sized : nonce.length = nonceBytes) (harmless : Harmless locatorFields) (encoded : lib.dumps payload = .ok serialized) :
    ∃ message, encryptMobileJsonPayload lib payload trustKeyB64 locatorFields nonce = .ok message ∧
      decryptJsonPayload lib message trustKeyB64 = .ok payload := by
  obtain ⟨key,derived,derived'⟩ := @key_derived _ lib _ shared
  obtain ⟨message,located,enveloped⟩ := @located_enveloped _ lib key nonce serialized
    [("schema",.string mobileEncryptionSchema),("nonce",.string (base64urlEncode nonce)),
      ("ciphertext",.string (base64urlEncode (lib.cipher.sealed key nonce serialized)))] locatorFields harmless ⟨rfl,rfl,rfl⟩
  refine ⟨message,bind_ok.mpr ⟨key,derived',bind_ok.mpr ⟨serialized,?_,located⟩⟩,
    enveloped_phone enveloped sized derived (lib.parse_dumps payload serialized encoded)⟩
  rw [encoded]
  rfl

end RoundTrips

theorem encryption_interoperates (lib : Libraries Object) (trustKeyB64 : String) :
    (SharedKey trustKeyB64 → ∀ nonce, nonce.length = nonceBytes →
      (∀ payload, optionalLocatorField lib payload "session_id" ≠ none →
        ∃ message, encryptJsonPayload lib payload trustKeyB64 nonce = .ok message ∧
          decryptMobileJsonPayload lib message trustKeyB64 = .ok payload) ∧
      (∀ chunk, ∃ data, encryptBinaryChunk lib chunk trustKeyB64 nonce = .ok data ∧
        decryptMobileBinaryChunk lib data trustKeyB64 = .ok chunk) ∧
      ∀ payload locatorFields serialized, Harmless locatorFields → lib.dumps payload = .ok serialized →
        ∃ message, encryptMobileJsonPayload lib payload trustKeyB64 locatorFields nonce = .ok message ∧
          decryptJsonPayload lib message trustKeyB64 = .ok payload) ∧
    (∀ message payload, decryptMobileJsonPayload lib message trustKeyB64 = .ok payload ↔
      CarriedToDesktop lib message trustKeyB64 payload) ∧
    (∀ data chunk, decryptMobileBinaryChunk lib data trustKeyB64 = .ok chunk ↔
      ∃ nonce, nonce.length = nonceBytes ∧ encryptMobileBinaryChunk lib chunk trustKeyB64 nonce = .ok data) ∧
    (∀ message payload, decryptJsonPayload lib message trustKeyB64 = .ok payload ↔
      CarriedToPhone lib message trustKeyB64 payload) ∧
    (∀ message, Translated (decryptMobileJsonPayload lib message trustKeyB64)) ∧
    ∀ data, Translated (decryptMobileBinaryChunk lib data trustKeyB64) :=
  ⟨fun shared _ sized => ⟨fun _ located => phone_to_desktop shared sized located,fun _ => chunk_to_desktop shared sized,
      fun _ _ _ harmless encoded => desktop_to_phone shared sized harmless encoded⟩,
    fun _ _ => desktop_accepts,fun _ _ => chunk_accepts,fun _ _ => phone_accepts,fun _ => desktop_translated,
    fun _ => chunk_translated⟩

section Envelopes
variable {trustKeyB64 : String} {payload : Object} {message : Fields}

def Textual (message : Fields) : Prop := ∀ field ∈ message, ∃ text, field.2 = .string text

theorem optional_textual {fieldName : String} {found : Option String} :
    Textual ((found.map fun text => (fieldName,Json.string text)).toList) := by
  cases found with
  | none => exact nofun
  | some text =>
      intro field member
      rw [List.mem_singleton.mp member]
      exact ⟨text,rfl⟩

theorem phone_textual (made : encryptJsonPayload lib payload trustKeyB64 nonce = .ok message) : Textual message := by
  unfold encryptJsonPayload at made
  split at made
  · cases made
  · obtain ⟨key,-,made⟩ := bind_ok.mp made
    cases made
    intro field member
    simp only [List.mem_append] at member
    rcases member with (front | device) | platform
    · simp only [List.mem_cons,List.not_mem_nil,or_false] at front
      rcases front with rfl | rfl | rfl | rfl <;> exact ⟨_,rfl⟩
    · exact optional_textual field device
    · exact optional_textual field platform

theorem setField_textual {fieldName text : String} (textual : Textual message) :
    Textual (setField message fieldName (.string text)) := by
  intro field member
  unfold setField at member
  split at member
  · obtain ⟨old,there,rfl⟩ := List.mem_map.mp member
    split
    · exact ⟨text,rfl⟩
    · exact textual old there
  · rcases List.mem_append.mp member with there | new
    · exact textual field there
    · rw [List.mem_singleton.mp new]
      exact ⟨text,rfl⟩

theorem located_textual {locatorFields : List (String × String)} {located : Fields} (textual : Textual message)
    (added : addLocators locatorFields message = .ok located) : Textual located := by
  induction locatorFields generalizing message with
  | nil =>
      cases added
      exact textual
  | cons locator rest ih =>
      rw [addLocators] at added
      split at added
      · cases added
      · split at added
        · cases added
        · exact ih (setField_textual textual) added

theorem desktop_textual {locatorFields : List (String × String)}
    (made : encryptMobileJsonPayload lib payload trustKeyB64 locatorFields nonce = .ok message) : Textual message := by
  obtain ⟨key,-,made⟩ := bind_ok.mp made
  obtain ⟨serialized,-,made⟩ := bind_ok.mp made
  refine located_textual ?_ made
  intro field member
  simp only [List.mem_cons,List.not_mem_nil,or_false] at member
  rcases member with rfl | rfl | rfl <;> exact ⟨_,rfl⟩

end Envelopes

-- {"session_id":"s"}, and the same with a field of one unpaired surrogate.
inductive SampleObject where
  | session | surrogate
  deriving DecidableEq, Repr

def sessionText : Bytes := [123,34,115,101,115,115,105,111,110,95,105,100,34,58,34,115,34,125]
def surrogateText : Bytes :=
  [123,34,115,101,115,115,105,111,110,95,105,100,34,58,34,115,34,44,34,120,34,58,34,92,117,100,56,48,48,34,125]

-- SHA-256 of the derivation context and "key", and what AES-256-GCM makes of the text under it.
def sampleKey : Bytes :=
  [78,41,72,5,142,1,90,227,210,41,142,127,236,168,113,166,11,31,250,198,5,6,87,25,251,222,63,231,43,43,140,2]
def markedKey : Bytes :=
  [105,3,166,203,152,216,183,48,38,252,128,239,47,80,105,4,12,210,185,196,140,105,177,90,209,192,203,137,156,146,236,141]
def sampleNonce : Bytes := [0,1,2,3,4,5,6,7,8,9,10,11]
def sessionBody : Bytes := [223,250,47,235,7,247,109,229,34,136,89,13,231,55,1,237,201,226]
def sessionTag : Bytes := [201,19,213,173,158,70,30,87,60,75,169,229,209,126,7,236]

def plainTag : Bytes := List.replicate tagBytes 0

def sampleCipher : Cipher where
  gcmEncrypt key nonce plaintext :=
    if key = sampleKey ∧ nonce = sampleNonce ∧ plaintext = sessionText then (sessionBody,sessionTag) else (plaintext,plainTag)
  gcmDecrypt key nonce ciphertext tag :=
    if key = sampleKey ∧ nonce = sampleNonce ∧ ciphertext = sessionBody ∧ tag = sessionTag then some sessionText
    else if tag = plainTag ∧ ¬(key = sampleKey ∧ nonce = sampleNonce ∧ ciphertext = sessionText) then some ciphertext
    else none
  tag_length key nonce plaintext := by split <;> rfl
  body_length key nonce plaintext := by
    split
    · rename_i same
      rw [same.2.2]
      rfl
    · rfl
  opens key nonce plaintext := by
    by_cases same : key = sampleKey ∧ nonce = sampleNonce ∧ plaintext = sessionText
    · rw [if_pos same,if_pos ⟨same.1,same.2.1,rfl,rfl⟩,same.2.2]
    · have other : plainTag ≠ sessionTag := by decide
      rw [if_neg same,if_neg (fun all => other all.2.2.2),if_pos ⟨rfl,same⟩]
  authentic key nonce ciphertext tag plaintext found := by
    split at found
    · rename_i same
      cases found
      rw [if_pos ⟨same.1,same.2.1,rfl⟩,same.2.2.1,same.2.2.2]
    · split at found
      · rename_i plain
        cases found
        rw [if_neg plain.2,plain.1]
      · cases found

def sampleLibraries : Libraries SampleObject where
  cipher := sampleCipher
  sha256 text := if text = "dtis.mobile-encryption.key.v1\nkey" then sampleKey
    else if text = "dtis.mobile-encryption.key.v1\n\uFEFFkey" then markedKey else []
  urlsafeB64decode text := .ok (Base64.decode text.toList)
  urlsafe_decodes bytes := by rw [String.toList_ofList,Base64.decode_urlsafe]
  fromBase64 text := Base64.decode text.toList
  base64_decodes bytes := by rw [String.toList_ofList,Base64.decode_encode]
  field _ fieldName := if fieldName = "session_id" then .string "s" else .null
  stringify
    | .session => sessionText
    | .surrogate => surrogateText
  loads bytes := if bytes = sessionText then .object .session else if bytes = surrogateText then .object .surrogate else .malformed
  loads_stringify payload := by cases payload <;> rfl
  dumps
    | .session => .ok sessionText
    | .surrogate => .error "UnicodeEncodeError"
  parse bytes := if bytes = sessionText then .object .session else .malformed
  parse_dumps payload bytes made := by
    cases payload with
    | session =>
        cases made
        rfl
    | surrogate => cases made
  parse_empty := rfl

theorem sample_shared : SharedKey "key" := ⟨by decide,by decide⟩

theorem sample_interoperates :
    (∃ message, encryptJsonPayload sampleLibraries .session "key" sampleNonce = .ok message ∧
      decryptMobileJsonPayload sampleLibraries message "key" = .ok .session) ∧
    (∃ data, encryptBinaryChunk sampleLibraries sessionText "key" sampleNonce = .ok data ∧
      decryptMobileBinaryChunk sampleLibraries data "key" = .ok sessionText) ∧
    ∃ message, encryptMobileJsonPayload sampleLibraries .session "key" [("session_id","s")] sampleNonce = .ok message ∧
      decryptJsonPayload sampleLibraries message "key" = .ok .session := by
  obtain ⟨toDesktop,chunks,toPhone⟩ := (encryption_interoperates sampleLibraries "key").1 sample_shared sampleNonce rfl
  refine ⟨toDesktop .session nofun,chunks sessionText,toPhone .session [("session_id","s")] sessionText ?_ rfl⟩
  intro locator member
  rw [List.mem_singleton.mp member]
  exact ⟨by decide,by decide,by decide⟩

def extended : Fields :=
  [("schema",.string mobileEncryptionSchema),("nonce",.string (base64urlEncode sampleNonce)),
    ("ciphertext",.string (base64urlEncode (sampleCipher.sealed sampleKey sampleNonce sessionText))),
    ("session_id",.string "s"),("retry",.int 1)]

theorem extended_unmade : ¬Textual extended := by
  intro textual
  obtain ⟨text,same⟩ := textual ("retry",.int 1) (by simp [extended])
  cases same

theorem envelopes_diverge :
    (decryptMobileJsonPayload sampleLibraries extended "key" = .ok .session ∧
      (∀ payload nonce, encryptJsonPayload sampleLibraries payload "key" nonce ≠ .ok extended) ∧
      ∀ payload locatorFields nonce, encryptMobileJsonPayload sampleLibraries payload "key" locatorFields nonce ≠ .ok extended) ∧
    (∃ message, encryptJsonPayload sampleLibraries .session "\uFEFFkey" sampleNonce = .ok message ∧
      decryptMobileJsonPayload sampleLibraries message "\uFEFFkey" =
        refuse "Desktop could not decrypt the encrypted payload.") ∧
    encryptMobileJsonPayload sampleLibraries .surrogate "key" [("session_id","s")] sampleNonce =
      .error (.exception "UnicodeEncodeError") := by
  refine ⟨⟨?_,fun _ _ made => extended_unmade (phone_textual made),fun _ _ _ made => extended_unmade (desktop_textual made)⟩,
    ⟨_,rfl,?_⟩,rfl⟩
  · exact @enveloped_desktop _ sampleLibraries sampleKey sampleNonce sessionText _ _ extended ⟨rfl,rfl,rfl⟩ rfl rfl rfl
  · decide +kernel

end ImageSearch.SealedPayloads
