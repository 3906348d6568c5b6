import ImageSearch.Payload
import ImageSearch.Threads

namespace ImageSearch.TrustSessions
open Payload

-- X25519, HKDF and HMAC are ideal: each result is named by what it is computed from,
-- and a private key by a number.
structure X25519TrustSessionKeyResolver where
  privateKey : Nat
  nonce : Bytes
  deriving DecidableEq, Repr

structure SharedSecret where
  privateKey : Nat
  mobilePublicKey : Bytes
  deriving DecidableEq, Repr

structure SessionKey where
  sharedSecret : SharedSecret
  salt : Bytes
  kdfContext : Bytes
  deriving DecidableEq, Repr

structure PairingAuth where
  sharedSecret : SharedSecret
  shortSecret : String
  pcDhPublicKey : Nat
  mobileDhPublicKey : Bytes
  deriving DecidableEq, Repr

def computePairingAuth (sharedSecret : SharedSecret) (shortSecret : String) (pcDhPublicKey : Nat)
    (mobileDhPublicKey : Bytes) : PairingAuth := ⟨sharedSecret,shortSecret,pcDhPublicKey,mobileDhPublicKey⟩

-- The base64 alphabet after urlsafe_b64decode has translated "-" and "_".
def sextet (c : Char) : Option Nat :=
  if 'A' ≤ c ∧ c ≤ 'Z' then some (c.toNat - 65)
  else if 'a' ≤ c ∧ c ≤ 'z' then some (c.toNat - 71)
  else if '0' ≤ c ∧ c ≤ '9' then some (c.toNat + 4)
  else if c = '-' ∨ c = '+' then some 62
  else if c = '_' ∨ c = '/' then some 63
  else none

-- binascii.a2b_base64: other characters are skipped, the bytes end where the padding
-- completes a group.
def a2bBase64 (position left pads : Nat) : List Char → Option Bytes
  | [] => if position = 0 then some [] else none
  | c :: rest =>
    if c = '=' then
      if position < 2 then a2bBase64 position left pads rest
      else if 4 ≤ position + (pads + 1) then some []
      else a2bBase64 position left (pads + 1) rest
    else
      match sextet c with
      | none => a2bBase64 position left pads rest
      | some bits =>
        match position with
        | 0 => a2bBase64 1 bits 0 rest
        | 1 => (a2bBase64 2 (bits % 16) 0 rest).map (UInt8.ofNat (left * 4 + bits / 16) :: ·)
        | 2 => (a2bBase64 3 (bits % 4) 0 rest).map (UInt8.ofNat (left * 16 + bits / 4) :: ·)
        | _ => (a2bBase64 0 0 0 rest).map (UInt8.ofNat (left * 64 + bits) :: ·)

-- none where the Python raises.
def base64urlDecode (value : String) : Option Bytes :=
  let normalized := stripChars isSpace value.toList
  if normalized.isEmpty || normalized.any (128 ≤ ·.toNat) then none
  else a2bBase64 0 0 0 (normalized ++ List.replicate ((4 - normalized.length % 4) % 4) '=')

inductive TrustFlowType where
  | mobileToPc
  | pcToMobile
  deriving DecidableEq, Repr

inductive ErrorCode where
  | sessionNotFound
  | handshakeRequired
  | trustRequired
  | pinMismatchOrRejected
  | sessionSignatureInvalid
  | trustedKeyNotFound
  | payloadUnreadable
  | invalidRequest
  deriving DecidableEq, Repr

structure TrustSession where
  sessionId : String
  flowType : TrustFlowType
  pcKeyResolver : X25519TrustSessionKeyResolver
  sessionKey : Option SessionKey := none
  mobileDhPublicKey : Option String := none
  mobileDhPublicKeyBytes : Option Bytes := none
  mobileNonce : Option String := none
  kdfContext : Option Bytes := none
  pinCode : Option String := none
  optCode : Option String := none
  stashId : Option String := none
  mobileCertificatePem : Option String := none
  peerDeviceName : String := ""
  isTrusted : Bool := false
  deriving DecidableEq, Repr

namespace TrustSession

def setPeerDeviceName (session : TrustSession) (name : Option String) : TrustSession :=
  match name with
  | some name =>
    if strip name = "" || session.peerDeviceName ≠ "" then session else {session with peerDeviceName:=strip name}
  | none => session

def storeMobileCertificate (session : TrustSession) (certificatePem : String) : TrustSession :=
  {session with mobileCertificatePem:=some certificatePem}

-- The text is stored before base64url_decode may raise; `false` then.
def storeMobileHandshake (session : TrustSession) (mobileDhPublicKey mobileNonce : String) : TrustSession × Bool :=
  let session := {session with mobileDhPublicKey:=some mobileDhPublicKey}
  match base64urlDecode mobileDhPublicKey with
  | some bytes => ({session with mobileDhPublicKeyBytes:=some bytes,mobileNonce:=some mobileNonce},true)
  | none => (session,false)

def deriveKdfContext (session : TrustSession) (urandom : Bytes) : TrustSession :=
  {session with kdfContext:=some (session.kdfContext.getD urandom)}

-- What X25519TrustSessionKeyResolver makes of the stored handshake. `exchanges` is whether
-- from_public_bytes and the exchange take the peer's key.
def resolvedKey (exchanges : Bytes → Bool) (session : TrustSession) : Option SessionKey := do
  let mobilePublicKey ← base64urlDecode (← session.mobileDhPublicKey)
  let mobileNonce ← base64urlDecode (← session.mobileNonce)
  let kdfContext ← session.kdfContext
  if exchanges mobilePublicKey then
    some ⟨⟨session.pcKeyResolver.privateKey,mobilePublicKey⟩,session.pcKeyResolver.nonce ++ mobileNonce,kdfContext⟩
  else none

-- Nothing stored yet raises before the context is drawn.
def establishSessionKey (exchanges : Bytes → Bool) (session : TrustSession) (urandom : Bytes) : TrustSession × Bool :=
  if session.mobileDhPublicKey.isNone || session.mobileNonce.isNone then (session,false)
  else
    let session := session.deriveKdfContext urandom
    match session.resolvedKey exchanges with
    | some key => ({session with sessionKey:=some key},true)
    | none => (session,false)

def generatePinCode (urandom : Bytes) : String :=
  let value := urandom.foldl (fun value byte => value * 256 + byte.toNat) 0 % 10000
  String.ofList ([value / 1000,value / 100 % 10,value / 10 % 10,value % 10].map Nat.digitChar)

def generatePin (session : TrustSession) (urandom : Bytes) : TrustSession :=
  {session with pinCode:=some (session.pinCode.getD (generatePinCode urandom))}

def shortSecret (session : TrustSession) : Option String :=
  match session.flowType with
  | .pcToMobile => session.optCode
  | .mobileToPc => session.pinCode

-- none where the exchange raises, or the decoding of a text that is no base64.
def verifyPairingAuth (exchanges : Bytes → Bool) (session : TrustSession) (auth : Option PairingAuth) : Option Bool :=
  match session.shortSecret,session.mobileDhPublicKeyBytes with
  | some shortSecret,some mobileDhPublicKey =>
    let privateKey := session.pcKeyResolver.privateKey
    if exchanges mobileDhPublicKey then auth.map fun auth =>
      auth = computePairingAuth ⟨privateKey,mobileDhPublicKey⟩ shortSecret privateKey mobileDhPublicKey
    else none
  | _,_ => some false

def verifyOpt (session : TrustSession) (optCode : String) : Bool := session.optCode = some optCode

def markTrusted (session : TrustSession) : TrustSession := {session with isTrusted:=true}

end TrustSession

-- Ghost: each pairing proof compared, what the session stored then, and the key its
-- confirm was opened with; and each certificate stored for a session.
structure PairingCheck where
  session : Nat
  key : SessionKey
  auth : Option PairingAuth
  accepted : Bool
  deriving DecidableEq, Repr

structure Delivery where
  session : Nat
  key : SessionKey
  certificatePem : String
  deriving DecidableEq, Repr

-- A registry entry refers to an object: create_session puts another one in its place, and
-- a request keeps the one it found.
structure Registry where
  sessions : String → Option Nat := fun _ => none
  objects : Nat → Option TrustSession := fun _ => none
  created : Nat := 0
  keychain : String → Option String := fun _ => none
  checks : List PairingCheck := []
  deliveries : List Delivery := []

namespace Registry

def modify (w : Registry) (i : Nat) (session : TrustSession) : Registry :=
  {w with objects:=Function.update w.objects i (some session)}

def createSession (w : Registry) (sessionId : String) (flowType : TrustFlowType) (optCode stashId : Option String)
    (nonce : Bytes) : Registry :=
  {w with
    sessions:=Function.update w.sessions sessionId (some w.created)
    objects:=Function.update w.objects w.created
      (some {sessionId:=sessionId,flowType:=flowType,pcKeyResolver:=⟨w.created,nonce⟩,optCode:=optCode,stashId:=stashId})
    created:=w.created + 1}

def store (w : Registry) (deviceId : String) (certificatePem : Option String) : Registry :=
  {w with keychain:=Function.update w.keychain deviceId certificatePem}

end Registry

structure TrustHandshakeRequest where
  mobileDhPublicKey : String
  mobileNonce : String
  deriving DecidableEq, Repr

-- The fields of the decrypted object that are strings. `pairingAuth` is none where the text
-- is blank, and `some none` where it is no base64.
structure TrustPayload where
  action : Option String
  peerDeviceName : Option String
  pairingAuth : Option (Option PairingAuth)
  deviceCertificatePem : Option String
  deriving DecidableEq, Repr

-- AES-GCM is ideal: an envelope opens under the key it was sealed with alone.
structure TrustEnvelope where
  key : SessionKey
  payload : TrustPayload
  deriving DecidableEq, Repr

inductive Answer where
  | handshake (pcDhPublicKey : Nat) (pcNonce kdfContext : Bytes)
  | pinRequested (key : SessionKey)
  | trusted (key : SessionKey)
  | failed (code : ErrorCode)
  | raised
  deriving DecidableEq, Repr

-- What a step is handed from outside: random bytes, what a file holds, and whether the
-- code called returns.
structure Outside where
  urandom : Bytes := []
  contents : Bytes := []
  returns : Bool := true

-- _do_trust_handshake and its to-do, one stage for each lock acquisition.
inductive HandshakeStage where
  | arrived
  | creating
  | bootstrapping (session : Nat)
  | storing (session : Nat)
  | establishing (session : Nat)
  | responding (session : Nat)
  | answered (answer : Answer)
  deriving DecidableEq, Repr

structure Opened where
  session : Nat
  key : SessionKey
  payload : TrustPayload
  deriving DecidableEq, Repr

inductive ApplyStage where
  | arrived
  | found (session : Nat)
  | established (session : Nat)
  | opened (o : Opened)
  | named (o : Opened)
  | sealing (o : Opened)
  | answered (answer : Answer)
  deriving DecidableEq, Repr

inductive ConfirmStage where
  | arrived
  | found (session : Nat)
  | established (session : Nat)
  | opened (o : Opened)
  | named (o : Opened)
  | accepted (o : Opened)
  | certified (o : Opened) (certificatePem : String)
  | removed (o : Opened) (certificatePem : String)
  | filed (o : Opened)
  | sealing (o : Opened)
  | answered (answer : Answer)
  deriving DecidableEq, Repr

inductive TrustRequest where
  | handshake (sessionId : String) (body : TrustHandshakeRequest) (stage : HandshakeStage)
  | apply (sessionId : String) (envelope : Option TrustEnvelope) (stage : ApplyStage)
  | confirm (sessionId correlationId : String) (envelope : Option TrustEnvelope) (stage : ConfirmStage)
  deriving DecidableEq, Repr

-- Code that is not here: X25519's view of a peer key, and the device id or common name
-- that is read off a certificate.
structure Outlying where
  exchanges : Bytes → Bool
  deviceId : String → Option String

variable (code : Outlying)

def stepHandshake (w : Registry) (sessionId : String) (body : TrustHandshakeRequest) (stage : HandshakeStage)
    (outside : Outside) : Option (Registry × HandshakeStage) :=
  match stage with
  | .arrived => some (w,(w.sessions sessionId).elim .creating .bootstrapping)
  | .creating => some (w.createSession sessionId .mobileToPc none none outside.urandom,.bootstrapping w.created)
  -- Only a session of MOBILE_TO_PC is bootstrapped.
  | .bootstrapping i => (w.objects i).map fun session =>
      (w,if session.flowType = .pcToMobile || outside.returns then .storing i else .answered .raised)
  | .storing i => (w.objects i).map fun session =>
      let stored := session.storeMobileHandshake body.mobileDhPublicKey body.mobileNonce
      (w.modify i stored.1,if stored.2 then .establishing i else .answered .raised)
  | .establishing i => (w.objects i).map fun session =>
      let established := session.establishSessionKey code.exchanges outside.urandom
      (w.modify i established.1,if established.2 then .responding i else .answered (.failed .handshakeRequired))
  | .responding i => (w.objects i).map fun session =>
      let derived := session.deriveKdfContext outside.urandom
      (w.modify i derived,.answered (.handshake session.pcKeyResolver.privateKey session.pcKeyResolver.nonce
        (session.kdfContext.getD outside.urandom)))
  | .answered _ => none

-- The lookup and the established check, which apply and confirm begin with, then the
-- decryption under the key of that moment and the action.
def openEnvelope (session : TrustSession) (i : Nat) (envelope : Option TrustEnvelope) (action : String) :
    Except ErrorCode Opened :=
  match session.sessionKey with
  | none => .error .handshakeRequired
  | some key =>
    match envelope with
    | none => .error .payloadUnreadable
    | some envelope =>
      if envelope.key ≠ key then .error .payloadUnreadable
      else if envelope.payload.action ≠ some action then .error .invalidRequest
      else .ok ⟨i,key,envelope.payload⟩

def stepApply (w : Registry) (sessionId : String) (envelope : Option TrustEnvelope) (stage : ApplyStage)
    (outside : Outside) : Option (Registry × ApplyStage) :=
  match stage with
  | .arrived => some (w,(w.sessions sessionId).elim (.answered (.failed .handshakeRequired)) .found)
  | .found i => (w.objects i).map fun session =>
      (w,if session.sessionKey.isSome then .established i else .answered (.failed .handshakeRequired))
  | .established i => (w.objects i).map fun session =>
      (w,match openEnvelope session i envelope "request_pin" with
        | .ok o => .opened o
        | .error code => .answered (.failed code))
  | .opened o => (w.objects o.session).map fun session =>
      (w.modify o.session (session.setPeerDeviceName o.payload.peerDeviceName),.named o)
  | .named o => (w.objects o.session).map fun session =>
      (w.modify o.session (session.generatePin outside.urandom),.sealing o)
  | .sealing o => (w.objects o.session).map fun session =>
      (w,.answered ((session.sessionKey.filter fun _ => outside.returns).elim .raised .pinRequested))
  | .answered _ => none

def certificateOf (payload : TrustPayload) : Option String :=
  payload.deviceCertificatePem.filter fun certificatePem => strip certificatePem ≠ ""

def stepConfirm (w : Registry) (sessionId correlationId : String) (envelope : Option TrustEnvelope)
    (stage : ConfirmStage) (outside : Outside) : Option (Registry × ConfirmStage) :=
  match stage with
  | .arrived => some (w,(w.sessions sessionId).elim (.answered (.failed .handshakeRequired)) .found)
  | .found i => (w.objects i).map fun session =>
      (w,if session.sessionKey.isSome then .established i else .answered (.failed .handshakeRequired))
  | .established i => (w.objects i).map fun session =>
      (w,match openEnvelope session i envelope "confirm" with
        | .ok o => .opened o
        | .error code => .answered (.failed code))
  | .opened o => (w.objects o.session).map fun session =>
      (w.modify o.session (session.setPeerDeviceName o.payload.peerDeviceName),.named o)
  | .named o => (w.objects o.session).map fun session =>
      match o.payload.pairingAuth with
      | none => (w,.answered (.failed .invalidRequest))
      | some auth =>
        match session.verifyPairingAuth code.exchanges auth with
        | none => (w,.answered .raised)
        | some accepted =>
          ({w with checks:=w.checks ++ [⟨o.session,o.key,auth,accepted⟩]},
            if accepted then .accepted o else .answered (.failed .pinMismatchOrRejected))
  | .accepted o => (w.objects o.session).map fun session =>
      match certificateOf o.payload with
      | none => (w,.filed o)
      | some certificatePem =>
        ({w.modify o.session (session.storeMobileCertificate certificatePem) with
          deliveries:=w.deliveries ++ [⟨o.session,o.key,certificatePem⟩]},.certified o certificatePem)
  -- store_peer_certificate: a delete whose failure is ignored, then an add that is refused
  -- where an entry stands.
  | .certified o certificatePem =>
      let deviceId := (code.deviceId certificatePem).getD correlationId
      some (if outside.returns then w.store deviceId none else w,.removed o certificatePem)
  | .removed o certificatePem =>
      let deviceId := (code.deviceId certificatePem).getD correlationId
      if outside.returns && (w.keychain deviceId).isNone then
        some (w.store deviceId (some certificatePem),.filed o)
      else some (w,.answered .raised)
  | .filed o => (w.objects o.session).map fun session => (w.modify o.session session.markTrusted,.sealing o)
  | .sealing o => (w.objects o.session).map fun session =>
      (w,.answered ((session.sessionKey.filter fun _ => outside.returns).elim .raised .trusted))
  | .answered _ => none

def stepTrust (w : Registry) (t : TrustRequest) (outside : Outside) : Option (Registry × TrustRequest) :=
  match t with
  | .handshake sessionId body stage =>
      (stepHandshake code w sessionId body stage outside).map fun next => (next.1,.handshake sessionId body next.2)
  | .apply sessionId envelope stage =>
      (stepApply w sessionId envelope stage outside).map fun next => (next.1,.apply sessionId envelope next.2)
  | .confirm sessionId correlationId envelope stage =>
      (stepConfirm code w sessionId correlationId envelope stage outside).map fun next =>
        (next.1,.confirm sessionId correlationId envelope next.2)

structure QRTrigger where
  sessionId : String
  optCode : String
  stashId : String
  nonce : Bytes

def triggerSession (w : Registry) (trigger : QRTrigger) : Registry :=
  w.createSession trigger.sessionId .pcToMobile (some trigger.optCode) (some trigger.stashId) trigger.nonce

def sampleCode : Outlying := ⟨fun mobilePublicKey => mobilePublicKey.length = 32,fun _ => some "phone-1"⟩

def sampleText (first : Char) : String := String.ofList (first :: 'Q' :: List.replicate 41 'A')

def sampleHandshake (first : Char) (stage : HandshakeStage) : TrustRequest :=
  .handshake "1" ⟨sampleText first,"AAAA"⟩ stage

def sampleShared : SharedSecret := ⟨0,9 :: List.replicate 31 0⟩

def sampleKey : SessionKey := ⟨sampleShared,[7] ++ [0,0,0],[1]⟩

def sampleConfirm : TrustRequest :=
  .confirm "1" "c" (some ⟨sampleKey,some "confirm",none,
    some (some (computePairingAuth sampleShared "123456" 0 sampleShared.mobilePublicKey)),some "PEM"⟩) .arrived

end ImageSearch.TrustSessions
