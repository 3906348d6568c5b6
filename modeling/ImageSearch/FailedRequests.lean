import ImageSearch.IpAddresses
import ImageSearch.TrustSessions
import ImageSearch.ImageBatches

namespace ImageSearch.FailedRequests
open Payload IpAddresses TrustSessions TrustSession
open ShareSessions (PayloadClass)

inductive TargetIntent where
  | clipboardOnly | clipboardOrFile
  deriving DecidableEq, Repr

inductive TrustMode where
  | firstShare | trustedDirect
  deriving DecidableEq, Repr

-- What a call may raise. A decoding error is binascii's or a UnicodeEncodeError, a rejected key
-- X25519's ValueError; `outside` is what the keychain, the identity or the PIN's display raises.
inductive Raised where
  | instantShareError (errorCode : ErrorCode) (message : String) (statusCode : Nat)
  | serviceUnavailable (message : String)
  | valueError (message : String)
  | notAMember (enumeration value : String)
  | invalidTarget (targetIntent : TargetIntent) (payloadClass : PayloadClass)
  | notAnAddress (value : String)
  | decodingError
  | rejectedKey
  | outside
  deriving DecidableEq, Repr

def failure (errorCode : ErrorCode) (message : String) : Raised := .instantShareError errorCode message 400

-- The exceptions that _build_app has a handler for.
def Raised.answered : Raised → Bool
  | .instantShareError .. | .serviceUnavailable _ => true
  | _ => false

inductive Answer where
  | handshake (pcDhPublicKey : Nat) (pcNonce kdfContext : Bytes)
  | accepted (key : SessionKey)
  | trusted (key : SessionKey) (deviceCertificatePem : String)
  deriving DecidableEq, Repr

structure TrustHandshakeRequest where
  mobileDhPublicKey : String
  mobileNonce : String
  payloadClass : String := "text"
  targetIntent : String := "clipboard_only"
  trustMode : String := "first_share"
  mobilePort : Int := 1
  mobileIpList : List String := ["127.0.0.1"]

structure InstantShareMetadata where
  payloadClass : PayloadClass
  targetIntent : TargetIntent
  trustMode : TrustMode
  flowId : String := "instant_share"

structure ConnectionConfig where
  sessionId : String
  mobilePort : Int
  mobileIpList : List String
  correlationId : String
  metadata : InstantShareMetadata

def payloadClassOf : String → Except Raised PayloadClass
  | "text" => .ok .text
  | "link" => .ok .link
  | "image" => .ok .image
  | value => .error (.notAMember "PayloadClass" value)

def targetIntentOf : String → Except Raised TargetIntent
  | "clipboard_only" => .ok .clipboardOnly
  | "clipboard_or_file" => .ok .clipboardOrFile
  | value => .error (.notAMember "TargetIntent" value)

def trustModeOf : String → Except Raised TrustMode
  | "first_share" => .ok .firstShare
  | "trusted_direct" => .ok .trustedDirect
  | value => .error (.notAMember "TrustMode" value)

def allowedTargets : PayloadClass → List TargetIntent
  | .text | .link => [.clipboardOnly]
  | .image => [.clipboardOrFile]

def InstantShareMetadata.validate (metadata : InstantShareMetadata) : Except Raised Unit :=
  if metadata.flowId ≠ "instant_share" then .error (.valueError "flow_id must be instant_share.")
  else if metadata.targetIntent ∉ allowedTargets metadata.payloadClass then
    .error (.invalidTarget metadata.targetIntent metadata.payloadClass)
  else .ok ()

def ConnectionConfig.validate (config : ConnectionConfig) : Except Raised Unit :=
  if strip config.sessionId = "" then .error (.valueError "session_id must not be empty.")
  else if strip config.correlationId = "" then .error (.valueError "correlation_id must not be empty.")
  else if config.mobilePort ≤ 0 ∨ 65535 < config.mobilePort then .error (.valueError "mobile_port must be between 1 and 65535.")
  else match config.mobileIpList,config.mobileIpList.find? fun ip => !ipAddress ip with
    | [],_ => .error (.valueError "mobile_ip_list must contain at least one IP address.")
    | _,some ip => .error (.notAnAddress ip)
    | _,none => config.metadata.validate

def configOf (sessionId correlationId : String) (body : TrustHandshakeRequest) : Except Raised ConnectionConfig := do
  let payloadClass ← payloadClassOf body.payloadClass
  let targetIntent ← targetIntentOf body.targetIntent
  let trustMode ← trustModeOf body.trustMode
  let config : ConnectionConfig := ⟨sessionId,body.mobilePort,body.mobileIpList,correlationId,{payloadClass,targetIntent,trustMode}⟩
  config.validate
  return config

-- The trust sessions of the registry, the instant-share registry, and whether there is an orchestrator,
-- which works on that same registry.
structure Deps where
  trustSessionRegistry : Option (String → Option TrustSession)
  sessionRegistry : Option ShareSessions.Registry
  orchestrator : Bool

def Deps.put (deps : Deps) (sessionId : String) (session : TrustSession) : Deps :=
  {deps with trustSessionRegistry:=deps.trustSessionRegistry.map fun sessions => Function.update sessions sessionId (some session)}

-- Code that is not here: X25519's view of a peer key, HMAC, AES-GCM, json.loads of the decoded
-- plaintext, str() of a value, and the name that is read off a certificate.
structure Outlying where
  exchanges : Bytes → Bool
  hmac : PairingAuth → Bytes
  decrypt : SessionKey → Bytes → Bytes → Option Bytes
  loads : Bytes → Option Json
  text : Json → String
  deviceId : String → Option String

structure Outside where
  uuid4 : String := "uuid"
  privateKey : Nat := 0
  nonce : Bytes := []
  urandom : Bytes := []
  displays : Bool := true
  stores : String → String → Bool := fun _ _ => true
  certificatePem : Option String := some "PEM"

variable (code : Outlying)

-- handle_connection_config and handle_trust_handshake_received, or bootstrap alone. An
-- InstantShareError is logged, with what came before it done.
def acceptConfig (orchestrator : Bool) (registry : ShareSessions.Registry) (config : ConnectionConfig) : ShareSessions.Registry :=
  match registry.bootstrap {sessionId:=config.sessionId,payloadClass:=config.metadata.payloadClass} with
  | .error _ => registry
  | .ok (registry,_) =>
    if orchestrator then
      match registry.transition config.sessionId .queued with
      | .error _ => registry
      | .ok (registry,_) =>
        match registry.transition config.sessionId .negotiating with
        | .error _ => registry
        | .ok (registry,_) => registry
    else registry

-- Only a session of MOBILE_TO_PC is bootstrapped.
def bootstrapShare (deps : Deps) (flowType : TrustFlowType) (sessionId correlationId : String) (body : TrustHandshakeRequest) :
    Except Raised (Option ShareSessions.Registry) :=
  match flowType,deps.sessionRegistry with
  | .mobileToPc,some registry => do
    let config ← configOf sessionId correlationId body
    return some (acceptConfig deps.orchestrator registry config)
  | _,registry => .ok registry

def decodingFailure (fieldName value : String) : Raised :=
  if strip value = "" then .valueError (fieldName ++ " must be a non-empty base64url string.") else .decodingError

def sessionIdOf (header : String) (outside : Outside) : String := if header = "" then outside.uuid4 else header

def sessionOf (sessions : String → Option TrustSession) (sessionId : String) (outside : Outside) : TrustSession :=
  (sessions sessionId).getD {sessionId,flowType:=.mobileToPc,pcKeyResolver:=⟨outside.privateKey,outside.nonce⟩}

def underivable : Raised := failure .handshakeRequired
  "Instant-share trust session protector could not derive a shared key from /trust/handshake."

def doTrustHandshake (deps : Deps) (sessionIdHeader correlationIdHeader : String) (body : TrustHandshakeRequest)
    (outside : Outside) : Deps × Except Raised Answer :=
  match deps.trustSessionRegistry with
  | none => (deps,.error (.serviceUnavailable "Trust service not initialized"))
  | some sessions =>
    let sessionId := sessionIdOf sessionIdHeader outside
    let session := sessionOf sessions sessionId outside
    let deps := deps.put sessionId session
    match bootstrapShare deps session.flowType sessionId correlationIdHeader body with
    | .error raised => (deps,.error raised)
    | .ok registry =>
      let stored := session.storeMobileHandshake body.mobileDhPublicKey body.mobileNonce
      let deps := {deps with sessionRegistry:=registry}.put sessionId stored.1
      if stored.2 then
        let established := stored.1.establishSessionKey code.exchanges outside.urandom
        let deps := deps.put sessionId established.1
        if established.2 then (deps,.ok (.handshake established.1.pcKeyResolver.privateKey established.1.pcKeyResolver.nonce
          (established.1.kdfContext.getD outside.urandom)))
        else (deps,.error underivable)
      else (deps,.error (decodingFailure "mobile_dh_public_key" body.mobileDhPublicKey))

def unreadable (message : String) : Raised := failure .payloadUnreadable message

def decodeRequired (envelope : Fields) (fieldName : String) : Except Raised Bytes :=
  match get envelope fieldName with
  | .string value =>
    if strip value = "" then .error (unreadable ("Instant-share trust response field '" ++ fieldName ++ "' is missing."))
    else match base64urlDecode value with
      | some bytes => .ok bytes
      | none => .error (unreadable "Instant-share trust response contains an invalid base64url field.")
  | _ => .error (unreadable ("Instant-share trust response field '" ++ fieldName ++ "' is missing."))

def isTrustSessionEnvelope (envelope : Fields) : Bool :=
  match get envelope "schema" with
  | .string schema => schema = "dtis.instant-share.trust-envelope.v1"
  | _ => false

def decryptJsonPayload (key : SessionKey) (envelope : Fields) : Except Raised Fields :=
  if !isTrustSessionEnvelope envelope then .error (unreadable "Instant-share trust response is not a supported encrypted envelope.")
  else match decodeRequired envelope "nonce" with
    | .error raised => .error raised
    | .ok nonce =>
      if nonce.length ≠ 12 then .error (unreadable "Instant-share trust response nonce length is invalid.")
      else match decodeRequired envelope "ciphertext" with
        | .error raised => .error raised
        | .ok ciphertext =>
          match code.decrypt key nonce ciphertext with
          | none => .error (unreadable "Instant-share trust response could not be decrypted.")
          | some plaintext =>
            match code.loads plaintext with
            | none => .error (unreadable "Instant-share trust response decrypted to invalid JSON.")
            | some (.object fields) => .ok fields
            | some _ => .error (unreadable "Instant-share trust response decrypted to a non-object JSON payload.")

-- What apply and confirm begin with: the session, its key and the decrypted request of that action.
def openRequest (deps : Deps) (sessionId : String) (envelope : Fields) (action : String) :
    Except Raised (TrustSession × SessionKey × Fields) :=
  match deps.trustSessionRegistry with
  | none => .error (.serviceUnavailable "Trust service not initialized")
  | some sessions =>
    match sessions sessionId with
    | none => .error (failure .handshakeRequired "No active session found")
    | some session =>
      match session.sessionKey with
      | none => .error (failure .handshakeRequired "Session key not established. Complete handshake first.")
      | some key => do
        let decrypted ← decryptJsonPayload code key envelope
        match get decrypted "action" with
        | .string found =>
          if found = action then return (session,key,decrypted)
          throw (failure .invalidRequest ("Unsupported action: " ++ found))
        | found => throw (failure .invalidRequest ("Unsupported action: " ++ code.text found))

def textOf (value : Json) : Option String :=
  match value with
  | .string text => some text
  | _ => none

def doTrustApply (deps : Deps) (sessionId : String) (envelope : Fields) (outside : Outside) : Deps × Except Raised Answer :=
  match openRequest code deps sessionId envelope "request_pin" with
  | .error raised => (deps,.error raised)
  | .ok (session,key,decrypted) =>
    let named := session.setPeerDeviceName (textOf (get decrypted "peer_device_name"))
    let deps := deps.put sessionId (named.generatePin outside.urandom)
    if outside.displays then (deps,.ok (.accepted key)) else (deps,.error .outside)

def decodeAuth (auth : String) : Option Bytes :=
  let symbols := auth.toList
  if symbols.any (128 ≤ ·.toNat) then none
  else a2bBase64 0 0 0 (symbols ++ List.replicate ((4 - symbols.length % 4) % 4) '=')

def verifyPairingAuth (session : TrustSession) (auth : String) : Except Raised Bool :=
  match session.shortSecret,session.mobileDhPublicKeyBytes with
  | some shortSecret,some mobileDhPublicKey =>
    let privateKey := session.pcKeyResolver.privateKey
    if code.exchanges mobileDhPublicKey then
      match decodeAuth auth with
      | some given => .ok (given = code.hmac (computePairingAuth ⟨privateKey,mobileDhPublicKey⟩ shortSecret privateKey mobileDhPublicKey))
      | none => .error .decodingError
    else .error .rejectedKey
  | _,_ => .ok false

def certificateOf (decrypted : Fields) : Option String :=
  (textOf (get decrypted "device_certificate_pem")).filter fun certificatePem => strip certificatePem ≠ ""

def finishConfirm (deps : Deps) (sessionId : String) (session : TrustSession) (key : SessionKey) (outside : Outside) :
    Deps × Except Raised Answer :=
  let deps := deps.put sessionId session.markTrusted
  match outside.certificatePem with
  | some certificatePem => (deps,.ok (.trusted key certificatePem))
  | none => (deps,.error .outside)

def unauthenticated : Raised := failure .invalidRequest "pairing_auth is required for trust confirmation."

def doTrustConfirm (deps : Deps) (sessionId correlationId : String) (envelope : Fields) (outside : Outside) :
    Deps × Except Raised Answer :=
  match openRequest code deps sessionId envelope "confirm" with
  | .error raised => (deps,.error raised)
  | .ok (session,key,decrypted) =>
    let session := session.setPeerDeviceName (textOf (get decrypted "peer_device_name"))
    let deps := deps.put sessionId session
    match textOf (get decrypted "pairing_auth") with
    | none => (deps,.error unauthenticated)
    | some auth =>
      if strip auth = "" then (deps,.error unauthenticated)
      else match verifyPairingAuth code session (strip auth) with
        | .error raised => (deps,.error raised)
        | .ok false => (deps,.error (.instantShareError .pinMismatchOrRejected "Pairing auth does not match." 403))
        | .ok true =>
          match certificateOf decrypted with
          | none => finishConfirm deps sessionId session key outside
          | some certificatePem =>
            let session := session.storeMobileCertificate certificatePem
            let deps := deps.put sessionId session
            if outside.stores ((code.deviceId certificatePem).getD correlationId) certificatePem then
              finishConfirm deps sessionId session key outside
            else (deps,.error .outside)

inductive Request where
  | handshake (sessionIdHeader correlationIdHeader : String) (body : TrustHandshakeRequest)
  | apply (sessionIdHeader : String) (envelope : Fields)
  | confirm (sessionIdHeader correlationIdHeader : String) (envelope : Fields)

def answer (deps : Deps) (outside : Outside) : Request → Deps × Except Raised Answer
  | .handshake sessionId correlationId body => doTrustHandshake code deps sessionId correlationId body outside
  | .apply sessionId envelope => doTrustApply code deps sessionId envelope outside
  | .confirm sessionId correlationId envelope => doTrustConfirm code deps sessionId correlationId envelope outside

-- What a failed request may not change of a trust session; there is nothing of it where there is none.
structure Stored where
  mobileDhPublicKey : Option String := none
  mobileDhPublicKeyBytes : Option Bytes := none
  sessionKey : Option SessionKey := none
  pinCode : Option String := none
  mobileCertificatePem : Option String := none
  isTrusted : Bool := false
  deriving DecidableEq, Repr

def fieldsOf (session : TrustSession) : Stored :=
  ⟨session.mobileDhPublicKey,session.mobileDhPublicKeyBytes,session.sessionKey,session.pinCode,session.mobileCertificatePem,
    session.isTrusted⟩

def storedOf (deps : Deps) (sessionId : String) : Stored :=
  ((deps.trustSessionRegistry.bind fun sessions => sessions sessionId).map fieldsOf).getD {}

structure Unchanged (before after : Deps) : Prop where
  sessionRegistry : after.sessionRegistry = before.sessionRegistry
  stored : ∀ sessionId, storedOf after sessionId = storedOf before sessionId

def Answered (before : Deps) (result : Deps × Except Raised Answer) : Prop :=
  ∀ raised, result.2 = .error raised → raised.answered = true ∧ Unchanged before result.1

-- Whether the registry takes the config as a new session, or moves the session it has.
def takesConfig (registry : ShareSessions.Registry) (orchestrator : Bool) (sessionId : String) : Bool :=
  match registry.getSession sessionId with
  | none => registry.activeCount < registry.maxSessions
  | some existing => orchestrator && existing.state = .bootstrapped

-- A config that is needed is valid, the peer's key decodes, and the session key is derived from it; where
-- it is not, nothing was bootstrapped and the same key was stored before.
def HandshakeHolds (deps : Deps) (session : TrustSession) (sessionId correlationId : String) (body : TrustHandshakeRequest) : Prop :=
  (session.flowType = .mobileToPc → deps.sessionRegistry.isSome → (configOf sessionId correlationId body).isOk) ∧
  ∃ bytes, base64urlDecode body.mobileDhPublicKey = some bytes ∧
    ((base64urlDecode body.mobileNonce).isSome ∧ code.exchanges bytes = true ∨
      (session.flowType = .mobileToPc →
        ∀ registry, deps.sessionRegistry = some registry → takesConfig registry deps.orchestrator sessionId = false) ∧
      session.mobileDhPublicKey = some body.mobileDhPublicKey ∧ session.mobileDhPublicKeyBytes = some bytes)

def Proves (session : TrustSession) (auth : String) : Prop :=
  ∃ shortSecret mobileDhPublicKey, session.shortSecret = some shortSecret ∧ session.mobileDhPublicKeyBytes = some mobileDhPublicKey ∧
    decodeAuth auth = some (code.hmac (computePairingAuth ⟨session.pcKeyResolver.privateKey,mobileDhPublicKey⟩ shortSecret
      session.pcKeyResolver.privateKey mobileDhPublicKey))

-- Where there is something to compare the proof with, the stored key is one that X25519 takes and the
-- proof decodes; after a proof that is accepted the certificate is filed and the identity is there.
def ConfirmHolds (session : TrustSession) (correlationId : String) (decrypted : Fields) (auth : String) (outside : Outside) : Prop :=
  (∀ shortSecret mobileDhPublicKey, session.shortSecret = some shortSecret →
    session.mobileDhPublicKeyBytes = some mobileDhPublicKey →
    code.exchanges mobileDhPublicKey = true ∧ (decodeAuth auth).isSome) ∧
  (Proves code session auth →
    (∀ certificatePem, certificateOf decrypted = some certificatePem →
      outside.stores ((code.deviceId certificatePem).getD correlationId) certificatePem = true) ∧ outside.certificatePem.isSome)

def Holds (deps : Deps) (outside : Outside) : Request → Prop
  | .handshake sessionIdHeader correlationId body => ∀ sessions, deps.trustSessionRegistry = some sessions →
      HandshakeHolds code deps (sessionOf sessions (sessionIdOf sessionIdHeader outside) outside)
        (sessionIdOf sessionIdHeader outside) correlationId body
  | .apply sessionId envelope => (openRequest code deps sessionId envelope "request_pin").isOk → outside.displays = true
  | .confirm sessionId correlationId envelope => ∀ session key decrypted auth,
      openRequest code deps sessionId envelope "confirm" = .ok (session,key,decrypted) →
      textOf (get decrypted "pairing_auth") = some auth → strip auth ≠ "" →
      ConfirmHolds code session correlationId decrypted (strip auth) outside

variable {code} {deps : Deps} {outside : Outside} {sessionId correlationId : String} {session : TrustSession}

theorem unchanged_refl : Unchanged deps deps := ⟨rfl,fun _ => rfl⟩

theorem queued_state {registry : ShareSessions.Registry} {existing : ShareSessions.InstantShareSession}
    (here : registry.getSession sessionId = some existing) (new : existing.state = .bootstrapped) :
    ∃ queued next first second, registry.transition sessionId .queued = .ok (queued,first) ∧
      queued.transition sessionId .negotiating = .ok (next,second) ∧
      next.getSession sessionId = some {existing with state:=.negotiating} := by
  have queues : ShareSessions.SessionState.queued ∈ ShareSessions.allowedTransitions existing.state := by rw [new]; decide
  obtain ⟨queued,moved,found⟩ := ImageBatches.transition_some here queues
  obtain ⟨next,moved',found'⟩ := @ImageBatches.transition_some queued sessionId _ .negotiating found (by simp [ShareSessions.allowedTransitions])
  exact ⟨queued,next,_,_,moved,moved',found'⟩

theorem accept_same (registry : ShareSessions.Registry) (orchestrator : Bool) (config : ConnectionConfig) :
    acceptConfig orchestrator registry config = registry ↔ takesConfig registry orchestrator config.sessionId = false := by
  unfold acceptConfig takesConfig
  cases here : registry.getSession config.sessionId with
  | some existing =>
      have found : registry.bootstrap {sessionId:=config.sessionId,payloadClass:=config.metadata.payloadClass} = .ok (registry,existing) :=
        ImageBatches.bootstrap_known here
      rw [found]
      cases orchestrator with
      | false => simp
      | true =>
          dsimp only
          by_cases new : existing.state = .bootstrapped
          · obtain ⟨queued,next,first,second,moved,moved',state⟩ := queued_state here new
            rw [if_pos rfl,moved]
            dsimp only
            rw [moved']
            dsimp only
            refine iff_of_false (fun same => ?_) (by simp [new])
            rw [same,here] at state
            have changed := congrArg ShareSessions.InstantShareSession.state (Option.some.inj state)
            rw [new] at changed
            cases changed
          · have refused : ∃ error, registry.transition config.sessionId .queued = .error error := by
              have disallowed : ShareSessions.SessionState.queued ∉ ShareSessions.allowedTransitions existing.state := by
                cases state : existing.state with
                | bootstrapped => exact absurd state new
                | _ => decide
              unfold ShareSessions.Registry.transition
              rw [ImageBatches.require_some here]
              simp [bind,Except.bind,disallowed,throw,throwThe,MonadExceptOf.throw]
            obtain ⟨error,refused⟩ := refused
            rw [refused]
            simp [new]
  | none =>
      by_cases full : registry.maxSessions ≤ registry.activeCount
      · have refused : registry.bootstrap {sessionId:=config.sessionId,payloadClass:=config.metadata.payloadClass} =
            .error .receiverBusyMaxSessions := by
          unfold ShareSessions.Registry.bootstrap
          simp only [here,if_pos full]
        rw [refused]
        simp [full]
      · obtain ⟨opened,added,state⟩ := ImageBatches.bootstrap_new
          {sessionId:=config.sessionId,payloadClass:=config.metadata.payloadClass} here (Nat.lt_of_not_le full)
        rw [added]
        have absent (later : ShareSessions.Registry) {found : ShareSessions.InstantShareSession}
            (there : later.getSession config.sessionId = some found) : later ≠ registry := by
          rintro rfl
          cases here.symm.trans there
        cases orchestrator with
        | false => simp [absent opened state,Nat.lt_of_not_le full]
        | true =>
            obtain ⟨queued,next,first,second,moved,moved',state'⟩ := queued_state state rfl
            dsimp only at moved moved' ⊢
            rw [if_pos rfl,moved]
            dsimp only
            rw [moved']
            simp [absent next state',Nat.lt_of_not_le full]

theorem member_unanswered {value : String} {raised : Raised} (refused : payloadClassOf value = .error raised ∨
    targetIntentOf value = .error raised ∨ trustModeOf value = .error raised) : raised.answered = false := by
  unfold payloadClassOf targetIntentOf trustModeOf at refused
  rcases refused with refused | refused | refused
  all_goals
    split at refused
    all_goals
      cases refused
      try rfl

theorem metadata_unanswered {metadata : InstantShareMetadata} {raised : Raised} (refused : metadata.validate = .error raised) :
    raised.answered = false := by
  unfold InstantShareMetadata.validate at refused
  split at refused
  · cases refused
    rfl
  · split at refused
    · cases refused
      rfl
    · cases refused

theorem validate_unanswered {config : ConnectionConfig} {raised : Raised} (refused : config.validate = .error raised) :
    raised.answered = false := by
  unfold ConnectionConfig.validate at refused
  split at refused
  · cases refused
    rfl
  split at refused
  · cases refused
    rfl
  split at refused
  · cases refused
    rfl
  split at refused
  · cases refused
    rfl
  · cases refused
    rfl
  · exact metadata_unanswered refused

-- Whatever the enumerations and validate raise is a ValueError.
theorem config_parts {body : TrustHandshakeRequest} :
    (∃ config, configOf sessionId correlationId body = .ok config ∧ config.sessionId = sessionId) ∨
    ∃ raised, configOf sessionId correlationId body = .error raised ∧ raised.answered = false := by
  unfold configOf
  cases parsed : payloadClassOf body.payloadClass with
  | error raised => exact .inr ⟨raised,rfl,member_unanswered (.inl parsed)⟩
  | ok payloadClass =>
      cases parsed' : targetIntentOf body.targetIntent with
      | error raised => exact .inr ⟨raised,rfl,member_unanswered (.inr (.inl parsed'))⟩
      | ok targetIntent =>
          cases parsed'' : trustModeOf body.trustMode with
          | error raised => exact .inr ⟨raised,rfl,member_unanswered (.inr (.inr parsed''))⟩
          | ok trustMode =>
              simp only [bind,Except.bind]
              generalize made : ConnectionConfig.mk sessionId _ _ _ _ = config
              have same : config.sessionId = sessionId := by rw [← made]
              cases valid : config.validate with
              | error raised => exact .inr ⟨raised,rfl,validate_unanswered valid⟩
              | ok _ => exact .inl ⟨config,rfl,same⟩

theorem share_parts {body : TrustHandshakeRequest} (flowType : TrustFlowType) :
    (∃ registry, bootstrapShare deps flowType sessionId correlationId body = .ok registry ∧
      (flowType = .mobileToPc → deps.sessionRegistry.isSome → (configOf sessionId correlationId body).isOk) ∧
      (registry = deps.sessionRegistry ↔ (flowType = .mobileToPc →
        ∀ registry, deps.sessionRegistry = some registry → takesConfig registry deps.orchestrator sessionId = false))) ∨
    ∃ raised, bootstrapShare deps flowType sessionId correlationId body = .error raised ∧ raised.answered = false ∧
      ¬ (flowType = .mobileToPc → deps.sessionRegistry.isSome → (configOf sessionId correlationId body).isOk) := by
  cases flowType with
  | pcToMobile =>
      exact .inl ⟨deps.sessionRegistry,rfl,fun other => (by cases other),iff_of_true rfl fun other => by cases other⟩
  | mobileToPc =>
      unfold bootstrapShare
      cases there : deps.sessionRegistry with
      | none => exact .inl ⟨none,rfl,fun _ some => (by cases some),iff_of_true rfl fun _ _ some => by cases some⟩
      | some registry =>
          rcases @config_parts sessionId correlationId body with ⟨config,valid,same⟩ | ⟨raised,refused,unanswered⟩
          · refine .inl ⟨some (acceptConfig deps.orchestrator registry config),?_,fun _ _ => by rw [valid]; rfl,?_⟩
            · simp only [valid,bind,Except.bind]
              rfl
            · rw [Option.some.injEq,accept_same,same]
              constructor
              · rintro unmoved - other found
                cases found
                exact unmoved
              · exact fun unmoved => unmoved rfl registry rfl
          · refine .inr ⟨raised,?_,unanswered,fun valid => ?_⟩
            · simp only [refused,bind,Except.bind]
            · have ok := valid rfl rfl
              rw [refused] at ok
              cases ok

theorem stored_put {sessions : String → Option TrustSession} (there : deps.trustSessionRegistry = some sessions) (other : String) :
    storedOf (deps.put sessionId session) other = if other = sessionId then fieldsOf session else storedOf deps other := by
  unfold storedOf Deps.put
  rw [there]
  dsimp only [Option.map_some,Option.bind_some]
  by_cases same : other = sessionId
  · subst same
    rw [if_pos rfl,Function.update_self]
    rfl
  · rw [if_neg same,Function.update_of_ne same]

theorem put_unchanged {sessions : String → Option TrustSession} (there : deps.trustSessionRegistry = some sessions) :
    Unchanged deps (deps.put sessionId session) ↔ fieldsOf session = storedOf deps sessionId := by
  constructor
  · intro unchanged
    have same := unchanged.stored sessionId
    rwa [stored_put there,if_pos rfl] at same
  · intro same
    refine ⟨rfl,fun other => ?_⟩
    rw [stored_put there]
    split
    · rename_i hit
      rw [hit,same]
    · rfl

theorem created_fields {sessions : String → Option TrustSession} (there : deps.trustSessionRegistry = some sessions) :
    fieldsOf (sessionOf sessions sessionId outside) = storedOf deps sessionId := by
  unfold storedOf sessionOf
  rw [there,Option.bind_some]
  cases sessions sessionId <;> rfl

theorem put_put {later : TrustSession} : (deps.put sessionId session).put sessionId later = deps.put sessionId later := by
  unfold Deps.put
  cases there : deps.trustSessionRegistry with
  | none => rfl
  | some sessions => simp only [Option.map_some,Function.update_idem]

-- The session key is derived where the nonce decodes and X25519 takes the key; where it is not, only the
-- context may have been drawn.
theorem establish_parts {mobileNonce text : String} {bytes : Bytes} (urandom : Bytes) (stored : session.mobileDhPublicKey = some text)
    (decoded : base64urlDecode text = some bytes) (nonce : session.mobileNonce = some mobileNonce) :
    ((session.establishSessionKey code.exchanges urandom).2 = true ↔
      (base64urlDecode mobileNonce).isSome ∧ code.exchanges bytes = true) ∧
    ((session.establishSessionKey code.exchanges urandom).2 = false →
      fieldsOf (session.establishSessionKey code.exchanges urandom).1 = fieldsOf session) := by
  unfold establishSessionKey resolvedKey deriveKdfContext
  rw [if_neg (by simp [stored,nonce])]
  simp only [stored,nonce,decoded,bind,Option.bind_some]
  cases salt : base64urlDecode mobileNonce with
  | none => simp [fieldsOf,stored]
  | some salt => by_cases taken : code.exchanges bytes = true <;> simp [taken,fieldsOf,stored]

theorem store_parts {mobileDhPublicKey mobileNonce : String} {bytes : Bytes} (decoded : base64urlDecode mobileDhPublicKey = some bytes) :
    ∃ stored, session.storeMobileHandshake mobileDhPublicKey mobileNonce = (stored,true) ∧
      stored.mobileDhPublicKey = some mobileDhPublicKey ∧ stored.mobileNonce = some mobileNonce ∧
      fieldsOf stored = {fieldsOf session with mobileDhPublicKey:=some mobileDhPublicKey,mobileDhPublicKeyBytes:=some bytes} := by
  unfold storeMobileHandshake
  rw [decoded]
  exact ⟨_,rfl,rfl,rfl,rfl⟩

theorem store_refused {mobileDhPublicKey mobileNonce : String} (undecodable : base64urlDecode mobileDhPublicKey = none) :
    (session.storeMobileHandshake mobileDhPublicKey mobileNonce).2 = false := by
  unfold storeMobileHandshake
  rw [undecodable]

theorem underived_unchanged {sessions : String → Option TrustSession} {stored later : TrustSession} {text : String} {bytes : Bytes}
    {registry : Option ShareSessions.Registry} (there : deps.trustSessionRegistry = some sessions)
    (created : fieldsOf session = storedOf deps sessionId) (same : fieldsOf later = fieldsOf stored)
    (fields : fieldsOf stored = {fieldsOf session with mobileDhPublicKey:=some text,mobileDhPublicKeyBytes:=some bytes}) :
    Unchanged deps ((({deps.put sessionId session with sessionRegistry:=registry} : Deps).put sessionId stored).put sessionId later) ↔
      registry = deps.sessionRegistry ∧ session.mobileDhPublicKey = some text ∧ session.mobileDhPublicKeyBytes = some bytes := by
  have after : (({deps.put sessionId session with sessionRegistry:=registry} : Deps).put sessionId stored).put sessionId later =
      {deps.put sessionId later with sessionRegistry:=registry} := by
    rw [put_put]
    exact congrArg (fun putting : Deps => {putting with sessionRegistry:=registry}) (@put_put deps sessionId session later)
  have known : fieldsOf later = storedOf deps sessionId ↔
      session.mobileDhPublicKey = some text ∧ session.mobileDhPublicKeyBytes = some bytes := by
    rw [same,fields,← created]
    simp only [fieldsOf,Stored.mk.injEq,and_true]
    exact and_congr eq_comm eq_comm
  rw [after,← known,← put_unchanged there]
  exact ⟨fun unchanged => ⟨unchanged.sessionRegistry,rfl,unchanged.stored⟩,fun parts => ⟨parts.1,parts.2.stored⟩⟩

theorem handshake_exact (sessionIdHeader correlationId : String) (body : TrustHandshakeRequest) :
    Answered deps (doTrustHandshake code deps sessionIdHeader correlationId body outside) ↔
      Holds code deps outside (.handshake sessionIdHeader correlationId body) := by
  unfold Holds doTrustHandshake
  cases there : deps.trustSessionRegistry with
  | none =>
      refine iff_of_true ?_ (fun sessions found => by cases found)
      intro raised same
      cases same
      exact ⟨rfl,unchanged_refl⟩
  | some sessions =>
      simp only [Option.some.injEq,forall_eq']
      generalize sessionIdOf sessionIdHeader outside = sessionId
      have created : fieldsOf (sessionOf sessions sessionId outside) = storedOf deps sessionId := created_fields there
      generalize sessionOf sessions sessionId outside = session at created
      unfold HandshakeHolds
      rcases @share_parts (deps.put sessionId session) sessionId correlationId body session.flowType with
        ⟨registry,booted,valid,moved⟩ | ⟨raised,refused,unanswered,invalid⟩
      · rw [booted]
        dsimp only
        cases decoded : base64urlDecode body.mobileDhPublicKey with
        | none =>
            rw [if_neg (by simp [store_refused decoded])]
            refine iff_of_false (fun answered => ?_) (fun holds => by obtain ⟨-,bytes,found,-⟩ := holds; cases found)
            have wrong := (answered _ rfl).1
            unfold decodingFailure at wrong
            split at wrong <;> cases wrong
        | some bytes =>
            obtain ⟨stored,keeps,text,nonce,fields⟩ := @store_parts session body.mobileDhPublicKey body.mobileNonce bytes decoded
            rw [keeps]
            dsimp only
            rw [if_pos rfl]
            obtain ⟨derives,same⟩ := @establish_parts code stored body.mobileNonce body.mobileDhPublicKey bytes outside.urandom text decoded nonce
            cases derived : (stored.establishSessionKey code.exchanges outside.urandom).2 with
            | true =>
                rw [if_pos rfl]
                exact iff_of_true (fun raised found => by cases found) ⟨valid,bytes,rfl,.inl (derives.mp derived)⟩
            | false =>
                rw [if_neg (by decide)]
                have underived : ¬ ((base64urlDecode body.mobileNonce).isSome ∧ code.exchanges bytes = true) := by
                  rw [← derives,derived]
                  decide
                have unchanged := @underived_unchanged deps sessionId session sessions stored _ body.mobileDhPublicKey bytes registry
                  there created (same derived) fields
                constructor
                · intro answered
                  obtain ⟨unmoved,known⟩ := unchanged.mp (answered _ rfl).2
                  exact ⟨valid,bytes,rfl,.inr ⟨moved.mp unmoved,known⟩⟩
                · rintro ⟨-,_,⟨⟩,derivable | ⟨unmoved,known⟩⟩ raised found
                  · exact absurd derivable underived
                  · cases found
                    exact ⟨rfl,unchanged.mpr ⟨moved.mpr unmoved,known⟩⟩
      · rw [refused]
        refine iff_of_false (fun answered => ?_) (fun holds => invalid holds.1)
        have wrong := (answered raised rfl).1
        rw [unanswered] at wrong
        cases wrong

theorem required_answered {envelope : Fields} {fieldName : String} {raised : Raised}
    (refused : decodeRequired envelope fieldName = .error raised) : raised.answered = true := by
  unfold decodeRequired at refused
  split at refused
  · split at refused
    · cases refused
      rfl
    · split at refused
      · cases refused
      · cases refused
        rfl
  · cases refused
    rfl

theorem decrypt_answered {envelope : Fields} {key : SessionKey} {raised : Raised}
    (refused : decryptJsonPayload code key envelope = .error raised) : raised.answered = true := by
  unfold decryptJsonPayload at refused
  split at refused
  · cases refused
    rfl
  split at refused
  · rename_i nonce
    cases refused
    exact required_answered nonce
  split at refused
  · cases refused
    rfl
  split at refused
  · rename_i ciphertext
    cases refused
    exact required_answered ciphertext
  split at refused
  · cases refused
    rfl
  split at refused
  · cases refused
    rfl
  · cases refused
  · cases refused
    rfl

-- What apply and confirm refuse before they change anything is answered.
theorem open_answered {envelope : Fields} {action : String} {raised : Raised}
    (refused : openRequest code deps sessionId envelope action = .error raised) : raised.answered = true := by
  unfold openRequest at refused
  split at refused
  · cases refused
    rfl
  split at refused
  · cases refused
    rfl
  split at refused
  · cases refused
    rfl
  · rename_i key _
    cases opened : decryptJsonPayload code key envelope with
    | error other =>
        rw [opened] at refused
        cases refused
        exact decrypt_answered opened
    | ok decrypted =>
        rw [opened] at refused
        dsimp only [bind,Except.bind] at refused
        split at refused
        · split at refused
          · cases refused
          · cases refused
            rfl
        · cases refused
          rfl

theorem open_session {envelope decrypted : Fields} {action : String} {key : SessionKey}
    (opened : openRequest code deps sessionId envelope action = .ok (session,key,decrypted)) :
    ∃ sessions, deps.trustSessionRegistry = some sessions ∧ sessions sessionId = some session := by
  unfold openRequest at opened
  split at opened
  · cases opened
  · rename_i sessions there
    split at opened
    · cases opened
    · rename_i found here
      split at opened
      · cases opened
      · rename_i key' _
        cases decrypts : decryptJsonPayload code key' envelope with
        | error other => rw [decrypts] at opened; cases opened
        | ok fields =>
            rw [decrypts] at opened
            dsimp only [bind,Except.bind] at opened
            split at opened
            · split at opened
              · cases opened
                exact ⟨sessions,there,here⟩
              · cases opened
            · cases opened

theorem apply_exact (envelope : Fields) : Answered deps (doTrustApply code deps sessionId envelope outside) ↔
    Holds code deps outside (.apply sessionId envelope) := by
  change _ ↔ ((openRequest code deps sessionId envelope "request_pin").isOk → outside.displays = true)
  unfold doTrustApply
  cases opened : openRequest code deps sessionId envelope "request_pin" with
  | error raised =>
      refine iff_of_true ?_ (fun found => by cases found)
      intro found same
      cases same
      exact ⟨open_answered opened,unchanged_refl⟩
  | ok request =>
      dsimp only
      cases displays : outside.displays with
      | true => exact iff_of_true (fun raised found => by cases found) fun _ => rfl
      | false =>
          refine iff_of_false (fun answered => ?_) (fun shown => by cases shown rfl)
          cases (answered .outside rfl).1

theorem named_fields (name : Option String) : fieldsOf (session.setPeerDeviceName name) = fieldsOf session := by
  unfold setPeerDeviceName
  split
  · split <;> rfl
  · rfl

theorem named_verified (name : Option String) (auth : String) :
    verifyPairingAuth code (session.setPeerDeviceName name) auth = verifyPairingAuth code session auth := by
  unfold setPeerDeviceName
  split
  · split <;> rfl
  · rfl

-- The comparison is made, or there is nothing to compare with, or it raises.
theorem verify_parts (auth : String) :
    (∃ raised, verifyPairingAuth code session auth = .error raised ∧ raised.answered = false ∧
      ¬ ∀ shortSecret mobileDhPublicKey, session.shortSecret = some shortSecret →
        session.mobileDhPublicKeyBytes = some mobileDhPublicKey →
        code.exchanges mobileDhPublicKey = true ∧ (decodeAuth auth).isSome) ∨
    ∃ accepted, verifyPairingAuth code session auth = .ok accepted ∧ (accepted = true ↔ Proves code session auth) ∧
      ∀ shortSecret mobileDhPublicKey, session.shortSecret = some shortSecret →
        session.mobileDhPublicKeyBytes = some mobileDhPublicKey →
        code.exchanges mobileDhPublicKey = true ∧ (decodeAuth auth).isSome := by
  unfold verifyPairingAuth Proves
  cases secret : session.shortSecret with
  | none =>
      refine .inr ⟨false,rfl,by simp,?_⟩
      rintro shortSecret mobileDhPublicKey ⟨⟩
  | some shortSecret =>
      cases stored : session.mobileDhPublicKeyBytes with
      | none =>
          refine .inr ⟨false,rfl,by simp,?_⟩
          rintro shortSecret mobileDhPublicKey - ⟨⟩
      | some mobileDhPublicKey =>
          dsimp only
          cases taken : code.exchanges mobileDhPublicKey with
          | false =>
              refine .inl ⟨_,rfl,rfl,fun usable => ?_⟩
              cases taken.symm.trans (usable _ _ rfl rfl).1
          | true =>
              rw [if_pos rfl]
              cases decoded : decodeAuth auth with
              | none =>
                  refine .inl ⟨_,rfl,rfl,fun usable => ?_⟩
                  cases (usable _ _ rfl rfl).2
              | some given =>
                  refine .inr ⟨_,rfl,by simp,?_⟩
                  rintro _ _ ⟨⟩ ⟨⟩
                  exact ⟨taken,rfl⟩

theorem finish_answered (later : Deps) (key : SessionKey) : Answered deps (finishConfirm later sessionId session key outside) ↔
    outside.certificatePem.isSome := by
  unfold finishConfirm
  cases outside.certificatePem with
  | none => exact iff_of_false (fun answered => by cases (answered _ rfl).1) (by decide)
  | some certificatePem => exact iff_of_true (fun raised found => by cases found) rfl

theorem confirm_exact (envelope : Fields) : Answered deps (doTrustConfirm code deps sessionId correlationId envelope outside) ↔
    Holds code deps outside (.confirm sessionId correlationId envelope) := by
  change _ ↔ ∀ session key decrypted auth, openRequest code deps sessionId envelope "confirm" = .ok (session,key,decrypted) →
    textOf (get decrypted "pairing_auth") = some auth → strip auth ≠ "" →
    ConfirmHolds code session correlationId decrypted (strip auth) outside
  unfold doTrustConfirm
  cases opened : openRequest code deps sessionId envelope "confirm" with
  | error raised =>
      refine iff_of_true ?_ (fun _ _ _ _ found => by cases found)
      intro found same
      cases same
      exact ⟨open_answered opened,unchanged_refl⟩
  | ok request =>
      obtain ⟨session,key,decrypted⟩ := request
      obtain ⟨sessions,there,here⟩ := open_session opened
      simp only [Except.ok.injEq,Prod.mk.injEq,and_imp]
      have known : fieldsOf session = storedOf deps sessionId := by
        unfold storedOf
        rw [there,Option.bind_some,here]
        rfl
      have unchanged : Unchanged deps (deps.put sessionId (session.setPeerDeviceName (textOf (get decrypted "peer_device_name")))) :=
        (put_unchanged there).mpr ((named_fields _).trans known)
      have onlyOne {property : TrustSession → SessionKey → Fields → String → Prop} :
          (∀ session' key' decrypted' auth, session = session' → key = key' → decrypted = decrypted' → property session' key' decrypted' auth) ↔
            ∀ auth, property session key decrypted auth :=
        ⟨fun all auth => all _ _ _ auth rfl rfl rfl,fun all _ _ _ auth one two three => one ▸ two ▸ three ▸ all auth⟩
      rw [onlyOne]
      cases given : textOf (get decrypted "pairing_auth") with
      | none =>
          refine iff_of_true ?_ (fun auth found => by cases found)
          intro raised same
          cases same
          exact ⟨rfl,unchanged⟩
      | some auth =>
          simp only [Option.some.injEq,forall_eq']
          by_cases blank : strip auth = ""
          · rw [if_pos blank]
            refine iff_of_true ?_ (fun nonblank => absurd blank nonblank)
            intro raised same
            cases same
            exact ⟨rfl,unchanged⟩
          · rw [if_neg blank,named_verified]
            refine Iff.trans ?_ (forall_prop_of_true blank).symm
            unfold ConfirmHolds
            rcases @verify_parts code session (strip auth) with ⟨raised,fails,unanswered,unusable⟩ | ⟨accepted,verified,proves,usable⟩
            · rw [fails]
              refine iff_of_false (fun answered => ?_) (fun holds => unusable holds.1)
              have wrong := (answered raised rfl).1
              rw [unanswered] at wrong
              cases wrong
            · rw [verified]
              cases accepted with
              | false =>
                  refine iff_of_true ?_ ⟨usable,fun proven => by cases proves.mpr proven⟩
                  intro raised same
                  cases same
                  exact ⟨rfl,unchanged⟩
              | true =>
                  have proven := proves.mp rfl
                  dsimp only
                  cases certificate : certificateOf decrypted with
                  | none =>
                      rw [finish_answered]
                      exact ⟨fun there => ⟨usable,fun _ => ⟨fun _ found => by (cases found),there⟩⟩,fun holds => (holds.2 proven).2⟩
                  | some certificatePem =>
                      dsimp only
                      split
                      · rename_i stores
                        rw [finish_answered]
                        refine ⟨fun there => ⟨usable,fun _ => ⟨?_,there⟩⟩,fun holds => (holds.2 proven).2⟩
                        rintro _ ⟨⟩
                        exact stores
                      · rename_i unstored
                        refine iff_of_false (fun answered => ?_) (fun holds => unstored ((holds.2 proven).1 _ rfl))
                        cases (answered .outside rfl).1

-- Exactly the requests that meet the condition are answered, and where they fail change nothing.
theorem failed_requests_answered (request : Request) : Answered deps (answer code deps outside request) ↔
    Holds code deps outside request := by
  cases request with
  | handshake sessionIdHeader correlationId body => exact handshake_exact sessionIdHeader correlationId body
  | apply sessionId envelope => exact apply_exact envelope
  | confirm sessionId correlationId envelope => exact confirm_exact envelope

def sampleCode : Outlying where
  exchanges key := key.length = 32
  hmac _ := []
  decrypt _ _ _ := none
  loads _ := none
  text _ := ""
  deviceId _ := none

def emptyRegistry : ShareSessions.Registry := ⟨.empty,100,[],0⟩

def sampleDeps : Deps := ⟨some fun _ => none,some emptyRegistry,true⟩

-- A request without the correlation header is answered by no handler.
theorem bare_handshake_raises : ¬ ∀ (code : Outlying) (deps : Deps) (outside : Outside) (request : Request),
    Answered deps (answer code deps outside request) := by
  intro all
  have answered := all sampleCode sampleDeps {} (.handshake "1" "" ⟨sampleText 'C',"AAAA","text","clipboard_only","first_share",1,["127.0.0.1"]⟩)
  have raises : (answer sampleCode sampleDeps {} (.handshake "1" "" ⟨sampleText 'C',"AAAA","text","clipboard_only","first_share",1,
      ["127.0.0.1"]⟩)).2 = .error (.valueError "correlation_id must not be empty.") := by decide +kernel
  cases (answered _ raises).1

end ImageSearch.FailedRequests
