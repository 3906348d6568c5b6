import ImageSearch.Base64
import ImageSearch.UpdatePrompts
import ImageSearch.UploadOutcomes

namespace ImageSearch.TrustProofs
open Payload MobileStore TransferService UploadOutcomes CapabilityExchange UpdatePrompts Base64

def utf8 (text : String) : Bytes := text.toUTF8.data.toList

-- str.rstrip("=") of urlsafe_b64encode, and what the phone replaces in base64EncodedString.
def pythonBase64 (bytes : Bytes) : String :=
  String.ofList (((encode bytes).map urlsafe).reverse.dropWhile (· = '=')).reverse

def base64URLEncodedString (bytes : Bytes) : String :=
  String.ofList ((((encode bytes).map fun c => if c = '+' then '-' else c).map fun c => if c = '/' then '_' else c).filter (· ≠ '='))

-- HMAC-SHA256 as an ideal tag: under one key, two materials have two tags.
structure Signing (lib : Libraries) where
  digest : Bytes → Bytes → Bytes
  injective : ∀ key, Function.Injective (digest key)
  computes : ∀ key material, lib.hmacSha256B64 key material = pythonBase64 (digest (utf8 key) (utf8 material))

def make {lib : Libraries} (signing : Signing lib) (trustKey purpose schema sessionID deviceUUID : String) : String :=
  base64URLEncodedString (signing.digest (utf8 trustKey)
    (utf8 ("\n".intercalate [trustProofContext,purpose,schema,sessionID,deviceUUID])))

def issuedId (sessionId : String) : Bool := sessionId.toList.length == 32 && sessionId.toList.all isHexDigit

def lineFree (text : String) : Bool := text.toList.all (· ≠ '\n')

structure Signed where
  trustKeyB64 : String
  purpose : String
  schema : String
  sessionId : String
  deviceUuid : String
  trustProof : String
  deriving DecidableEq, Repr

inductive Request where
  | start (payload : Fields)
  | existence (payload : Fields)
  | asset (call : UploadCall)
  | streamError (metadataPayload : Fields) (error : OSError)
  | complete (payload : Fields)
  | capabilities (desktopCapabilities : List String) (payload : Fields)
  | prompt (urlparse : String → Except String (String × String)) (payload : Fields)

def signedSession (purpose : String) (request : MobileTransferSessionRequest) (context : MobileTransferContext) : Signed :=
  ⟨context.trustKeyB64,purpose,request.schema,request.sessionId,request.deviceUuid,request.trustProof⟩

def signedAsset (metadata : MobileTransferAssetMetadata) (context : MobileTransferContext) : Signed :=
  ⟨context.trustKeyB64,assetProofPurpose,metadata.schema,metadata.sessionId,metadata.deviceUuid,metadata.trustProof⟩

def Passes (lib : Libraries) (store : Store) : Request → Signed → Prop
  | .start payload,signed => ∃ request context, checkStart lib store payload = .ok (request,context) ∧
      signed = signedSession startProofPurpose request context
  | .existence payload,signed => ∃ request context, checkExistence lib store payload = .ok (request,context) ∧
      signed = signedSession existenceProofPurpose request.session context
  | .asset call,signed => ∃ metadata context, checkUpload lib call store = .passed metadata context ∧ signed = signedAsset metadata context
  | .streamError metadataPayload error,signed => ∃ metadata context, parseTransferAssetMetadata lib metadataPayload = .ok metadata ∧
      checkStreamError lib store (some metadataPayload) error = .ok context ∧ signed = signedAsset metadata context
  | .complete payload,signed => ∃ request context, checkComplete lib store payload = .ok (request,context) ∧
      signed = signedSession completeProofPurpose request context
  | .capabilities desktopCapabilities payload,signed => ∃ request context response,
      parseCapabilityExchangeRequest payload = .ok request ∧
      getMobileTransferContext store request.sessionId request.deviceUuid = some context ∧
      handleExchangeRequest lib desktopCapabilities payload store = .ok response ∧ response.status = .accepted ∧
      signed = ⟨context.trustKeyB64,capabilityExchangeProofPurpose,request.schema,request.sessionId,request.deviceUuid,request.trustProof⟩
  | .prompt urlparse payload,signed => ∃ request context response,
      parseUpdatePromptRequest urlparse payload = .ok request ∧
      getMobileTransferContext store request.sessionId request.deviceUuid = some context ∧
      handlePromptRequest lib urlparse payload store = .ok (response,some request) ∧
      signed = ⟨context.trustKeyB64,updatePromptProofPurpose,request.schema,request.sessionId,request.deviceUuid,request.trustProof⟩

theorem encode_safe (bytes : Bytes) : (encode bytes).map urlsafe =
    ((sextets bytes).map symbol).map urlsafe ++ List.replicate (padding bytes) '=' := by
  unfold encode
  rw [List.map_append,List.map_replicate]
  rfl

theorem safe_symbols (bytes : Bytes) : ∀ c ∈ ((sextets bytes).map symbol).map urlsafe, c ≠ '=' ∧ c.toNat < 128 := by
  intro c member
  obtain ⟨d,inside,rfl⟩ := List.mem_map.mp member
  obtain ⟨n,small,rfl⟩ := List.mem_map.mp inside
  have facts := symbol_cases n (sextets_bound bytes n small)
  exact ⟨facts.1,facts.2.2.1⟩

theorem python_symbols (bytes : Bytes) : pythonBase64 bytes = String.ofList (((sextets bytes).map symbol).map urlsafe) := by
  have symbols := safe_symbols bytes
  unfold pythonBase64
  rw [encode_safe]
  generalize ((sextets bytes).map symbol).map urlsafe = text at symbols
  have kept : text.reverse.dropWhile (· = '=') = text.reverse := by
    cases reversed : text.reverse with
    | nil => rfl
    | cons c rest =>
        have member : c ∈ text := by
          rw [← List.mem_reverse,reversed]
          simp
        rw [List.dropWhile_cons_of_neg (by simpa using (symbols c member).1)]
  rw [List.reverse_append,List.reverse_replicate,List.dropWhile_append_of_pos (by intro c member; simpa using List.eq_of_mem_replicate member),
    kept,List.reverse_reverse]

theorem swift_symbols (bytes : Bytes) : base64URLEncodedString bytes = String.ofList (((sextets bytes).map symbol).map urlsafe) := by
  have replaced : (fun c => if c = '/' then '_' else c) ∘ (fun c => if c = '+' then '-' else c) = urlsafe := by
    funext c
    unfold urlsafe
    dsimp only [Function.comp_apply]
    by_cases plus : c = '+'
    · rw [if_pos plus,if_pos plus]
      rfl
    · rw [if_neg plus,if_neg plus]
  have symbols : (((sextets bytes).map symbol).map urlsafe).filter (· ≠ '=') = ((sextets bytes).map symbol).map urlsafe := by
    apply List.filter_eq_self.mpr
    intro c member
    simpa using (safe_symbols bytes c member).1
  unfold base64URLEncodedString
  rw [List.map_map,replaced,encode_safe,List.filter_append,symbols]
  simp

theorem python_injective : Function.Injective pythonBase64 := by
  intro one two same
  rw [python_symbols,python_symbols] at same
  apply encode_injective
  rw [← String.toList_ofList (l := ((sextets one).map symbol).map urlsafe),same,String.toList_ofList]

section Joining
variable {lib : Libraries} {trustKey purpose schema sessionId deviceUuid purpose' schema' sessionId' deviceUuid' : String}

theorem utf8_injective : Function.Injective utf8 := by
  intro one two same
  have arrays : one.toUTF8.data = two.toUTF8.data := Array.toList_inj.mp same
  have bytes : one.toUTF8 = two.toUTF8 := ByteArray.ext arrays
  exact String.toByteArray_inj.mp (by simpa [String.toUTF8_eq_toByteArray] using bytes)

theorem line_injective {one two : List Char} {rest rest' : List Char} (free : '\n' ∉ one) (free' : '\n' ∉ two)
    (same : one ++ '\n' :: rest = two ++ '\n' :: rest') : one = two ∧ rest = rest' := by
  induction one generalizing two with
  | nil =>
      cases two with
      | nil =>
          obtain ⟨-,tail⟩ := List.cons.inj same
          exact ⟨rfl,tail⟩
      | cons c two =>
          obtain ⟨head,-⟩ := List.cons.inj same
          exact absurd (by rw [head]; simp) free'
  | cons c one ih =>
      cases two with
      | nil =>
          obtain ⟨head,-⟩ := List.cons.inj same
          exact absurd (by rw [← head]; simp) free
      | cons d two =>
          obtain ⟨rfl,tail⟩ := List.cons.inj same
          obtain ⟨rfl,rest⟩ := ih (fun member => free (by simp [member])) (fun member => free' (by simp [member])) tail
          exact ⟨rfl,rest⟩

theorem lineFree_chars {text : String} (free : lineFree text = true) : '\n' ∉ text.toList := by
  intro member
  have differs := List.all_eq_true.mp free '\n' member
  simp at differs

def joined (purpose schema sessionId deviceUuid : String) : String :=
  trustProofContext ++ "\n" ++ purpose ++ "\n" ++ schema ++ "\n" ++ sessionId ++ "\n" ++ deviceUuid

theorem joined_injective (purposes : lineFree purpose = true ∧ lineFree purpose' = true)
    (schemas : lineFree schema = true ∧ lineFree schema' = true) (sessions : lineFree sessionId = true ∧ lineFree sessionId' = true)
    (same : joined purpose schema sessionId deviceUuid = joined purpose' schema' sessionId' deviceUuid') :
    purpose = purpose' ∧ schema = schema' ∧ sessionId = sessionId' ∧ deviceUuid = deviceUuid' := by
  have lines : purpose.toList ++ '\n' :: (schema.toList ++ '\n' :: (sessionId.toList ++ '\n' :: deviceUuid.toList)) =
      purpose'.toList ++ '\n' :: (schema'.toList ++ '\n' :: (sessionId'.toList ++ '\n' :: deviceUuid'.toList)) := by
    have chars := congrArg String.toList same
    unfold joined at chars
    simpa [String.toList_append] using chars
  obtain ⟨purposes,lines⟩ := line_injective (lineFree_chars purposes.1) (lineFree_chars purposes.2) lines
  obtain ⟨schemas,lines⟩ := line_injective (lineFree_chars schemas.1) (lineFree_chars schemas.2) lines
  obtain ⟨sessions,devices⟩ := line_injective (lineFree_chars sessions.1) (lineFree_chars sessions.2) lines
  exact ⟨String.toList_inj.mp purposes,String.toList_inj.mp schemas,String.toList_inj.mp sessions,String.toList_inj.mp devices⟩

theorem derive_injective (signing : Signing lib) (purposes : lineFree purpose = true ∧ lineFree purpose' = true)
    (schemas : lineFree schema = true ∧ lineFree schema' = true) (sessions : lineFree sessionId = true ∧ lineFree sessionId' = true)
    (same : deriveTrustProofB64 lib trustKey purpose schema sessionId deviceUuid =
      deriveTrustProofB64 lib trustKey purpose' schema' sessionId' deviceUuid') :
    purpose = purpose' ∧ schema = schema' ∧ sessionId = sessionId' ∧ deviceUuid = deviceUuid' := by
  unfold deriveTrustProofB64 at same
  rw [signing.computes,signing.computes] at same
  exact joined_injective purposes schemas sessions (utf8_injective (signing.injective _ (python_injective same)))

theorem make_derives (signing : Signing lib) : make signing trustKey purpose schema sessionId deviceUuid =
    deriveTrustProofB64 lib trustKey purpose schema sessionId deviceUuid := by
  unfold make deriveTrustProofB64
  rw [signing.computes,python_symbols,swift_symbols]
  rfl

-- The digest of a proof is written in ASCII, so that comparing it does not raise.
theorem proof_valid (signing : Signing lib) : isValidTrustProof lib trustKey purpose' schema' sessionId' deviceUuid'
    (deriveTrustProofB64 lib trustKey purpose schema sessionId deviceUuid) =
      .ok (deriveTrustProofB64 lib trustKey purpose' schema' sessionId' deviceUuid' =
        deriveTrustProofB64 lib trustKey purpose schema sessionId deviceUuid) := by
  unfold isValidTrustProof
  apply if_pos
  apply List.all_eq_true.mpr
  intro c member
  conv at member => rw [deriveTrustProofB64,signing.computes,python_symbols,String.toList_ofList]
  simpa using (safe_symbols _ c member).2

end Joining

section Passing
variable {lib : Libraries} {store : Store} {purpose : String} {statuses : List BackupState.SessionStatus} {signed : Signed} {request : Request}

theorem valid_derives {trustKey schema sessionId deviceUuid trustProof : String}
    (valid : isValidTrustProof lib trustKey purpose schema sessionId deviceUuid trustProof = .ok true) :
    deriveTrustProofB64 lib trustKey purpose schema sessionId deviceUuid = trustProof := by
  unfold isValidTrustProof at valid
  split at valid
  · simpa using valid
  · cases valid

theorem authorise_derives {schema sessionId deviceUuid trustProof : String} {context : MobileTransferContext}
    (granted : authoriseTransfer lib store purpose statuses schema sessionId deviceUuid trustProof = .ok (some context)) :
    deriveTrustProofB64 lib context.trustKeyB64 purpose schema sessionId deviceUuid = trustProof := by
  unfold authoriseTransfer at granted
  split at granted
  · cases granted
  · split at granted
    · cases granted
    · split at granted
      · cases granted
      · rename_i valid checked
        cases valid with
        | false => cases granted
        | true =>
            cases granted
            exact valid_derives checked

theorem session_derives {Parsed : Type} {session : Parsed → MobileTransferSessionRequest} {parsed : Except Raised Parsed}
    {request : Parsed} {context : MobileTransferContext}
    (passed : checkSession session lib store parsed purpose statuses = .ok (request,context)) :
    (session request).schema = mobileTransferSchema ∧ deriveTrustProofB64 lib context.trustKeyB64 purpose (session request).schema
      (session request).sessionId (session request).deviceUuid = (session request).trustProof := by
  unfold checkSession at passed
  split at passed
  · cases passed
  · cases passed
  · split at passed
    · cases passed
    · rename_i schema
      split at passed
      · cases passed
      · cases passed
      · rename_i granted
        cases passed
        exact ⟨not_not.mp schema,authorise_derives granted⟩

structure Proved (lib : Libraries) (store : Store) (signed : Signed) : Prop where
  derived : deriveTrustProofB64 lib signed.trustKeyB64 signed.purpose signed.schema signed.sessionId signed.deviceUuid = signed.trustProof
  purpose : lineFree signed.purpose = true
  schema : lineFree signed.schema = true
  session : signed.sessionId ∈ store.sessions.rows.map BackupSessionRow.sessionId

theorem context_session {sessionId deviceUuid : String} {context : MobileTransferContext}
    (found : getMobileTransferContext store sessionId deviceUuid = some context) :
    sessionId ∈ store.sessions.rows.map BackupSessionRow.sessionId := by
  obtain ⟨row,_,_,located,-⟩ := context_parts found
  obtain ⟨member,rfl⟩ := Tables.find_mem located
  exact List.mem_map_of_mem member

theorem session_proved {Parsed : Type} {session : Parsed → MobileTransferSessionRequest} {parsed : Except Raised Parsed}
    {request : Parsed} {context : MobileTransferContext} (free : lineFree purpose = true)
    (passed : checkSession session lib store parsed purpose statuses = .ok (request,context)) :
    Proved lib store (signedSession purpose (session request) context) := by
  obtain ⟨schema,derived⟩ := session_derives passed
  obtain ⟨-,located,-⟩ := session_parts passed
  have lines : lineFree (session request).schema = true := by
    rw [schema]
    decide
  exact ⟨derived,free,lines,context_session located⟩

theorem refused_schema {call : UploadCall} {metadata : MobileTransferAssetMetadata} (unrefused : refuseUpload call metadata = none) :
    metadata.schema = mobileTransferSchema := by
  unfold refuseUpload at unrefused
  split at unrefused
  · cases unrefused
  · rename_i schema
    exact not_not.mp schema

theorem asset_proved {metadata : MobileTransferAssetMetadata} {context : MobileTransferContext} (schema : metadata.schema = mobileTransferSchema)
    (granted : authoriseTransfer lib store assetProofPurpose statuses metadata.schema metadata.sessionId metadata.deviceUuid
      metadata.trustProof = .ok (some context)) : Proved lib store (signedAsset metadata context) := by
  have lines : lineFree metadata.schema = true := by
    rw [schema]
    decide
  exact ⟨authorise_derives granted,(by decide : lineFree assetProofPurpose = true),lines,context_session (authorise_parts granted).1⟩

theorem passes_proved (passes : Passes lib store request signed) : Proved lib store signed := by
  cases request with
  | start payload =>
      obtain ⟨parsed,context,checked,rfl⟩ := passes
      exact session_proved (by decide) checked
  | existence payload =>
      obtain ⟨parsed,context,checked,rfl⟩ := passes
      exact session_proved (by decide) checked
  | complete payload =>
      obtain ⟨parsed,context,checked,rfl⟩ := passes
      exact session_proved (by decide) checked
  | asset call =>
      obtain ⟨metadata,context,checked,rfl⟩ := passes
      unfold checkUpload at checked
      split at checked
      · cases checked
      · split at checked
        · cases checked
        · cases checked
        · split at checked
          · cases checked
          · rename_i unrefused
            have schema := refused_schema unrefused
            split at checked
            · cases checked
            · cases checked
            · rename_i granted
              cases checked
              exact asset_proved schema granted
  | streamError metadataPayload error =>
      obtain ⟨metadata,context,parsed,checked,rfl⟩ := passes
      unfold checkStreamError at checked
      rw [Option.map_some,parsed] at checked
      split at checked
      · cases checked
      · dsimp only at checked
        split at checked
        · cases checked
        · rename_i schema
          split at checked
          · cases checked
          · cases checked
          · rename_i granted
            cases checked
            exact asset_proved (not_not.mp schema) granted
  | capabilities desktopCapabilities payload =>
      obtain ⟨parsed,context,response,read,located,answered,accepted,rfl⟩ := passes
      unfold handleExchangeRequest at answered
      rw [read] at answered
      dsimp only at answered
      split at answered
      · cases answered
        cases accepted
      · rename_i schema
        rw [located] at answered
        dsimp only at answered
        split at answered
        · cases answered
        · cases answered
          cases accepted
        · rename_i valid
          have lines : lineFree parsed.schema = true := by
            rw [not_not.mp schema]
            decide
          exact ⟨valid_derives valid,(by decide : lineFree capabilityExchangeProofPurpose = true),lines,context_session located⟩
  | prompt urlparse payload =>
      obtain ⟨parsed,context,response,read,located,answered,rfl⟩ := passes
      unfold handlePromptRequest at answered
      rw [read] at answered
      dsimp only at answered
      split at answered
      · cases answered
      · rename_i schema
        rw [located] at answered
        dsimp only at answered
        split at answered
        · cases answered
        · cases answered
        · rename_i valid
          have lines : lineFree parsed.schema = true := by
            rw [not_not.mp schema]
            decide
          exact ⟨valid_derives valid,(by decide : lineFree updatePromptProofPurpose = true),lines,context_session located⟩

theorem issued_lines {sessionId : String} (issued : issuedId sessionId = true) : lineFree sessionId = true := by
  obtain ⟨-,digits⟩ := Bool.and_eq_true_iff.mp issued
  apply List.all_eq_true.mpr
  intro c member
  have digit := List.all_eq_true.mp digits c member
  have differs : c ≠ '\n' := by
    intro same
    subst same
    exact absurd digit (by decide)
  simpa using differs

end Passing

-- A proof is good for one purpose, schema, session and device: whatever the device uuid is, two
-- requests that pass with one proof under one key agree on them, and what either side computes
-- for them is valid for them alone.
theorem proofs_separate {lib : Libraries} (signing : Signing lib) :
    (∀ (store store' : Store), (∀ row ∈ store.sessions.rows, issuedId row.sessionId = true) →
      (∀ row ∈ store'.sessions.rows, issuedId row.sessionId = true) →
      ∀ (request request' : Request) (signed signed' : Signed), Passes lib store request signed → Passes lib store' request' signed' →
        signed.trustKeyB64 = signed'.trustKeyB64 → signed.trustProof = signed'.trustProof →
        signed.purpose = signed'.purpose ∧ signed.schema = signed'.schema ∧ signed.sessionId = signed'.sessionId ∧
          signed.deviceUuid = signed'.deviceUuid) ∧
    ∀ trustKey purpose schema sessionId deviceUuid purpose' schema' sessionId' deviceUuid',
      lineFree purpose = true → lineFree schema = true → issuedId sessionId = true →
      lineFree purpose' = true → lineFree schema' = true → issuedId sessionId' = true →
      make signing trustKey purpose schema sessionId deviceUuid = deriveTrustProofB64 lib trustKey purpose schema sessionId deviceUuid ∧
      (isValidTrustProof lib trustKey purpose' schema' sessionId' deviceUuid'
          (deriveTrustProofB64 lib trustKey purpose schema sessionId deviceUuid) = .ok true ↔
        purpose' = purpose ∧ schema' = schema ∧ sessionId' = sessionId ∧ deviceUuid' = deviceUuid) := by
  constructor
  · intro store store' issued issued' request request' signed signed' passes passes' key proof
    have one := passes_proved passes
    have two := passes_proved passes'
    obtain ⟨row,member,session⟩ := List.mem_map.mp one.session
    obtain ⟨row',member',session'⟩ := List.mem_map.mp two.session
    have lines := issued_lines (issued row member)
    have lines' := issued_lines (issued' row' member')
    have derived := two.derived
    rw [← key,← proof,← one.derived] at derived
    exact derive_injective signing ⟨one.purpose,two.purpose⟩ ⟨one.schema,two.schema⟩ ⟨session ▸ lines,session' ▸ lines'⟩ derived.symm
  · intro trustKey purpose schema sessionId deviceUuid purpose' schema' sessionId' deviceUuid' purposes schemas issued purposes' schemas' issued'
    refine ⟨make_derives signing,?_⟩
    rw [proof_valid signing]
    constructor
    · intro valid
      have same : deriveTrustProofB64 lib trustKey purpose' schema' sessionId' deviceUuid' =
          deriveTrustProofB64 lib trustKey purpose schema sessionId deviceUuid := by simpa using valid
      exact derive_injective signing ⟨purposes',purposes⟩ ⟨schemas',schemas⟩ ⟨issued_lines issued',issued_lines issued⟩ same
    · rintro ⟨rfl,rfl,rfl,rfl⟩
      simp

def sampleSession : String := "4f2a9c0d7be84e13a6d25f8091c3b7e6"

def sampleTag : Bytes := [184,171,162,34,145,157,223,97,14,3,86,92,194,243,198,251,230,96,72,190,184,247,46,51,1,104,239,131,53,165,251,19]

def sampleDigest (key material : Bytes) : Bytes :=
  if key = utf8 "trust-key" ∧ material = utf8 (joined startProofPurpose mobileTransferSchema sampleSession "phone\n1") then sampleTag
  else 0 :: material

def signingLibraries : Libraries := {sampleLibraries with hmacSha256B64 key material := pythonBase64 (sampleDigest (utf8 key) (utf8 material))}

def sampleSigning : Signing signingLibraries where
  digest := sampleDigest
  injective key one two same := by
    unfold sampleDigest at same
    split at same
    · rename_i first
      split at same
      · rename_i second
        rw [first.2,second.2]
      · cases same
    · split at same
      · cases same
      · exact (List.cons.inj same).2
  computes _ _ := rfl

def signingStore : Store := {sampleStore with
  devices:=⟨[⟨"phone\n1","ios","Phone","trust-key",0,0⟩],by decide⟩
  sessions:=⟨[⟨sampleSession,"phone\n1",1,.paired,0,0,0,0,some 0,none⟩],by decide⟩}

def startPayload (deviceUuid : String) : Fields :=
  [("schema",.string mobileTransferSchema),("session_id",.string sampleSession),("device_uuid",.string deviceUuid),
    ("trust_proof",.string "uKuiIpGd32EOA1ZcwvPG--ZgSL649y4zAWjvgzWl-xM"),("total_assets",.int 3)]

def sampleSigned : Signed :=
  ⟨"trust-key",startProofPurpose,mobileTransferSchema,sampleSession,"phone\n1","uKuiIpGd32EOA1ZcwvPG--ZgSL649y4zAWjvgzWl-xM"⟩

theorem start_passes {deviceUuid : String} (checked : ((checkStart signingLibraries signingStore (startPayload deviceUuid)).toOption.any
    fun passed => signedSession startProofPurpose passed.1 passed.2 = sampleSigned) = true) :
    Passes signingLibraries signingStore (.start (startPayload deviceUuid)) sampleSigned := by
  cases result : checkStart signingLibraries signingStore (startPayload deviceUuid) with
  | error refused =>
      rw [result] at checked
      cases checked
  | ok passed =>
      rw [result] at checked
      exact ⟨passed.1,passed.2,result,(of_decide_eq_true checked).symm⟩

-- A phone whose uuid has two lines starts a transfer twice, once with blanks around the uuid.
theorem two_line_device : sampleSigned.deviceUuid = "phone\n1" ∧
    isValidTrustProof signingLibraries "trust-key" startProofPurpose mobileTransferSchema sampleSession "phone\n1"
      (deriveTrustProofB64 signingLibraries "trust-key" startProofPurpose mobileTransferSchema sampleSession "phone\n1") = .ok true ∧
    sampleSigned.purpose = startProofPurpose := by
  have issued : ∀ row ∈ signingStore.sessions.rows, issuedId row.sessionId = true := by decide
  have separate := proofs_separate sampleSigning
  have agrees := separate.1 signingStore signingStore issued issued _ _ _ _ (@start_passes "phone\n1" (by decide +kernel))
    (@start_passes " phone\n1 " (by decide +kernel)) rfl rfl
  have valid := (separate.2 "trust-key" startProofPurpose mobileTransferSchema sampleSession "phone\n1" startProofPurpose
    mobileTransferSchema sampleSession "phone\n1" (by decide) (by decide) (by decide) (by decide) (by decide) (by decide)).2
  exact ⟨agrees.2.2.2,valid.mpr ⟨rfl,rfl,rfl,rfl⟩,agrees.1⟩

end ImageSearch.TrustProofs
