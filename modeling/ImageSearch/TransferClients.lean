import ImageSearch.UploadOutcomes

namespace ImageSearch.TransferClients
open Payload BackupFolder TransferService UploadOutcomes

inductive Transport where
  | lan | usb
  deriving DecidableEq, Repr

inductive Operation where
  | start | existence | asset | complete
  deriving DecidableEq, Repr

def mobileEncryptionSchema : String := "dtis.mobile-encryption.v1"
def mobileTransportEnvelopeSchema : String := "dtis.mobile-transport.v1"

-- AES-256-GCM under the key derived from a trust key, over the JSON text of a payload,
-- in base64url: what both sides' cipher code calls. `decrypt` fails as the phone throws.
structure PayloadCipher where
  base64url : Bytes → String
  encrypt : String → Bytes → Fields → String
  decrypt : String → String → String → Option Fields

structure Encryption where
  trustKeyB64 : String
  nonce : Bytes
  sessionId : String

def encryptMobileJsonPayload (cipher : PayloadCipher) (encryption : Encryption) (payload : Fields) : Fields :=
  [("schema",.string mobileEncryptionSchema),("nonce",.string (cipher.base64url encryption.nonce)),
    ("ciphertext",.string (cipher.encrypt encryption.trustKeyB64 encryption.nonce payload)),
    ("session_id",.string (strip encryption.sessionId))]

-- The desktop answers an encrypted request in kind. The AOA client encrypts only the
-- metadata that opens an asset stream; the LAN client encrypts every request.
def answerEncryption (encryption : Option Encryption) : Transport → Operation → Option Encryption
  | .lan,_ | .usb,.asset => encryption
  | .usb,_ => none

def encryptResponsePayloadIfNeeded (cipher : PayloadCipher) (encryption : Option Encryption) (payload : Fields) : Fields :=
  encryption.elim payload fun encryption => encryptMobileJsonPayload cipher encryption payload

def encodeResponseEnvelope (requestId : String) (statusCode : Nat) (body : Fields) : Fields :=
  [("body",.object body),("request_id",.string requestId),("schema",.string mobileTransportEnvelopeSchema),
    ("status_code",.int statusCode)]

structure ClientError where
  message : String
  deriving DecidableEq, Repr

def decryptJsonPayload (cipher : PayloadCipher) (trustKeyB64 : String) (payload : Fields) : Except ClientError Fields :=
  match get payload "schema" with
  | .string schema =>
    if schema ≠ mobileEncryptionSchema then .error ⟨"Desktop transfer response must be encrypted."⟩ else
    match get payload "nonce",get payload "ciphertext" with
    | .string rawNonce,.string rawCiphertext =>
      if strip rawNonce = "" then .error ⟨"Encrypted transfer response is missing field 'nonce'."⟩
      else if strip rawCiphertext = "" then .error ⟨"Encrypted transfer response is missing field 'ciphertext'."⟩
      else
      match cipher.decrypt trustKeyB64 rawNonce rawCiphertext with
      | some decoded => .ok decoded
      | none => .error ⟨"Desktop transfer response decryption failed."⟩
    | .string _,_ => .error ⟨"Encrypted transfer response is missing field 'ciphertext'."⟩
    | _,_ => .error ⟨"Encrypted transfer response is missing field 'nonce'."⟩
  | _ => .error ⟨"Desktop transfer response must be encrypted."⟩

def responseOk (statusCode : Nat) : Bool := 200 ≤ statusCode && statusCode < 300

def fallbackMessage : Operation → String
  | .start => "Transfer start request failed."
  | .existence => "Transfer existence request failed."
  | .asset => "Transfer asset request failed."
  | .complete => "Transfer complete request failed."

def failureMessage (operation : Operation) (statusCode : Nat) (payload : Fields) : String :=
  match get payload "message" with
  | .string "" | .null => fallbackMessage operation ++ " Status=" ++ toString statusCode ++ "."
  | .string message => message
  | _ => ""

def parseHttpResponse (cipher : PayloadCipher) (encryption : Option Encryption) (operation : Operation)
    (statusCode : Nat) (body : Fields) : Except ClientError Json := do
  let payload ← encryption.elim (.ok body) fun encryption => decryptJsonPayload cipher encryption.trustKeyB64 body
  if responseOk statusCode then .ok (.object payload) else .error ⟨failureMessage operation statusCode payload⟩

-- AoaTransferClient.parse_response, of the envelope's JSON text once parsed.
def parseAoaResponse (parsed : Fields) : Json :=
  match get parsed "body" with
  | .object body => .object body
  | .array items => .array items
  | _ => .object parsed

def receiveAnswer (cipher : PayloadCipher) (encryption : Option Encryption) (requestId : String) (operation : Operation)
    (statusCode : Nat) (body : Fields) : Transport → Except ClientError Json
  | .lan => parseHttpResponse cipher encryption operation statusCode body
  | .usb => .ok (parseAoaResponse (encodeResponseEnvelope requestId statusCode body))

def exchange (cipher : PayloadCipher) (encryption : Option Encryption) (requestId : String) (operation : Operation)
    (response : Response) (transport : Transport) : Except ClientError Json :=
  receiveAnswer cipher encryption requestId operation response.statusCode
    (encryptResponsePayloadIfNeeded cipher (answerEncryption encryption transport operation) response.payload) transport

def answerStatus : Json → Option String
  | .object payload =>
    match get payload "status" with
    | .string status => some status
    | _ => none
  | _ => none

-- upload_asset adds one to transferred_assets for every answer it is handed but a skip.
def countsTransferred : Except ClientError Json → Bool
  | .ok answer => answerStatus answer ≠ some "skipped"
  | .error _ => false

inductive ServiceRequest where
  | start (payload : Fields) (currentTime : DateTime)
  | existence (payload : Fields)
  | asset (call : UploadCall)
  | complete (payload : Fields) (currentTime : DateTime)

def ServiceRequest.operation : ServiceRequest → Operation
  | .start .. => .start
  | .existence _ => .existence
  | .asset _ => .asset
  | .complete .. => .complete

def ServiceRequest.answer (lib : Libraries) (d : Desktop) : ServiceRequest → Except Raised Response
  | .start payload currentTime => (handleStartRequest lib payload currentTime d).1
  | .existence payload => handleAssetExistenceRequest lib payload d
  | .asset call => (handleAssetUpload lib call d).1
  | .complete payload currentTime => (handleCompleteRequest lib payload currentTime d).1

def Opens (cipher : PayloadCipher) (payload : Fields) (encryption : Encryption) : Prop :=
  strip (cipher.base64url encryption.nonce) ≠ "" ∧
  strip (cipher.encrypt encryption.trustKeyB64 encryption.nonce payload) ≠ "" ∧
  cipher.decrypt encryption.trustKeyB64 (cipher.base64url encryption.nonce)
    (cipher.encrypt encryption.trustKeyB64 encryption.nonce payload) = some payload

variable {lib : Libraries} {d : Desktop} {cipher : PayloadCipher} {encryption : Option Encryption} {requestId : String}
  {request : ServiceRequest} {operation : Operation} {response : Response} {transport : Transport}

theorem decrypt_encrypted {opened : Encryption} {payload : Fields} (opens : Opens cipher payload opened) :
    decryptJsonPayload cipher opened.trustKeyB64 (encryptMobileJsonPayload cipher opened payload) = .ok payload := by
  obtain ⟨nonce,ciphertext,decrypts⟩ := opens
  have schema : Payload.get (encryptMobileJsonPayload cipher opened payload) "schema" = .string mobileEncryptionSchema :=
    rfl
  have first : Payload.get (encryptMobileJsonPayload cipher opened payload) "nonce" =
    .string (cipher.base64url opened.nonce) := rfl
  have second : Payload.get (encryptMobileJsonPayload cipher opened payload) "ciphertext" =
    .string (cipher.encrypt opened.trustKeyB64 opened.nonce payload) := rfl
  simp [decryptJsonPayload,schema,first,second,nonce,ciphertext,decrypts]

theorem lan_answer (opens : ∀ opened, encryption = some opened → Opens cipher response.payload opened) :
    exchange cipher encryption requestId operation response .lan =
      if responseOk response.statusCode then .ok (.object response.payload)
      else .error ⟨failureMessage operation response.statusCode response.payload⟩ := by
  cases encryption with
  | none => rfl
  | some opened =>
      simp only [exchange,receiveAnswer,parseHttpResponse,answerEncryption,encryptResponsePayloadIfNeeded,Option.elim_some,
        decrypt_encrypted (opens opened rfl)]
      rfl

theorem usb_answer : exchange cipher encryption requestId operation response .usb =
    .ok (.object (encryptResponsePayloadIfNeeded cipher (answerEncryption encryption .usb operation) response.payload)) :=
  rfl

theorem asset_status {call : UploadCall} (answered : (handleAssetUpload lib call d).1 = .ok response)
    (accepted : responseOk response.statusCode = true) : response.status = .skipped ∨ response.status = .stored := by
  have outcome : UploadOutcome lib call d (handleAssetUpload lib call d) := upload_outcome
  generalize handleAssetUpload lib call d = result at outcome answered
  have unrefused : ∀ {result : Except Raised Response}, NotOk result → result = .ok response → False := by
    intro result refusal equal
    have above := refusal response equal
    simp only [responseOk,Bool.and_eq_true,decide_eq_true_eq] at accepted
    omega
  cases outcome with
  | refused refusal => exact (unrefused refusal answered).elim
  | skippedSignature => cases answered; exact .inl rfl
  | skippedVersion => cases answered; exact .inl rfl
  | stored => cases answered; exact .inr rfl
  | failed _ _ _ refusal => exact (unrefused refusal answered).elim

-- Both clients throw at a refusal and hand on the desktop's own answer otherwise; so only
-- a stored asset is counted, and only an accepted start or completion is gone past.
structure Agrees (cipher : PayloadCipher) (encryption : Option Encryption) (requestId : String) (operation : Operation)
    (response : Response) : Prop where
  refused : responseOk response.statusCode = false →
    ∀ transport, ∃ error, exchange cipher encryption requestId operation response transport = .error error
  returned : responseOk response.statusCode = true →
    ∀ transport, exchange cipher encryption requestId operation response transport = .ok (.object response.payload)
  counted : operation = .asset → ∀ transport,
    countsTransferred (exchange cipher encryption requestId operation response transport) = true → response.status = .stored
  continued : operation = .start ∨ operation = .complete → ∀ transport answer,
    exchange cipher encryption requestId operation response transport = .ok answer → responseOk response.statusCode = true

theorem payload_status : answerStatus (.object response.payload) = some response.status.value := rfl

theorem plain_answer (clear : answerEncryption encryption .usb operation = none)
    (opens : ∀ opened, encryption = some opened → Opens cipher response.payload opened)
    (accepted : responseOk response.statusCode = true) :
    exchange cipher encryption requestId operation response transport = .ok (.object response.payload) := by
  cases transport with
  | lan => rw [lan_answer opens,if_pos accepted]
  | usb => rw [usb_answer,clear]; rfl

theorem clients_agree (lib : Libraries) (d : Desktop) (request : ServiceRequest) (response : Response)
    (answered : request.answer lib d = .ok response) (cipher : PayloadCipher) (encryption : Option Encryption)
    (requestId : String) (opens : ∀ opened, encryption = some opened → Opens cipher response.payload opened) :
    Agrees cipher encryption requestId request.operation response ↔
      responseOk response.statusCode = true ∧ (encryption = none ∨ request.operation ≠ .asset) := by
  constructor
  · intro agrees
    have accepted : responseOk response.statusCode = true := by
      cases ok : responseOk response.statusCode with
      | true => rfl
      | false =>
          obtain ⟨error,thrown⟩ := agrees.refused ok .usb
          cases thrown
    refine ⟨accepted,?_⟩
    cases encryption with
    | none => exact .inl rfl
    | some opened =>
        right
        intro asset
        have same := agrees.returned accepted .usb
        rw [usb_answer,asset] at same
        have schemas : Json.string mobileEncryptionSchema = .string mobileTransferSchema :=
          congrArg (fun fields => Payload.get fields "schema") (Json.object.inj (Except.ok.inj same))
        exact absurd (Json.string.inj schemas) (by decide)
  · rintro ⟨accepted,plain⟩
    have clear : answerEncryption encryption .usb request.operation = none := by
      rcases plain with rfl | other
      · cases request.operation <;> rfl
      · cases operation : request.operation <;> first | rfl | exact absurd operation other
    have same : ∀ transport, exchange cipher encryption requestId request.operation response transport =
        .ok (.object response.payload) := fun _ => plain_answer clear opens accepted
    refine ⟨by simp [accepted],fun _ => same,?_,fun _ _ _ _ => accepted⟩
    intro asset transport counted
    cases request with
    | asset call =>
        rcases asset_status answered accepted with skipped | stored
        · simp [same transport,countsTransferred,payload_status,skipped,ReplyStatus.value] at counted
        · exact stored
    | _ => cases asset

def fullDiskCall : UploadCall :=
  {sampleCall "asset-1" "/tmp/1" "86f7e437faa5a7fce15d1ddcb9eaeaea377667b8" with
    faults:=fun operation => if operation = .replace then some ⟨"No space left on device",some 28,none,[]⟩ else none}

def stagedDesktop : Desktop := {sampleDesktop with files:=writeFile .empty (.staged "/tmp/1") [97]}

def sampleNonce : Bytes := [0,1,2,3,4,5,6,7,8,9,10,11]
def sampleCiphertext : String :=
  "jR327thW-F_HQqiw6BZd3cTerLIzelsdK5VUHnxbpoDNT9wM2cvLYixXKNo6HyVNBU69bNCwpYdwfm7tXOa1sSNOyoxEz3gdMbtKs8-6ej41wVv5" ++
  "GwzkEADbVNK32PmAfxliaVDukGDRQiq_XTmkMEiaqSTm5350IW4dk1k1TO9mxv9B8zy5uKFlv2g5CkzZVdY12NsiA6RoWb3shTWQmIw8UGCrQtUz" ++
  "N4EmCFFJrvH0tBcFvoKzEIxPMN4-z5KnGsPQ3DsxS-P3jGf69dQnHgCvUedhLQ"

def completedResponse : Response := {
  statusCode:=200,status:=.completed
  message:="Desktop finished the transfer session after receiving 0 assets with 0 failures."
  sessionId:=some "session-1",deviceUuid:=some "phone-1"}

def sampleCipher : PayloadCipher where
  base64url nonce := if nonce = sampleNonce then "AAECAwQFBgcICQoL" else ""
  encrypt trustKeyB64 nonce payload :=
    if trustKeyB64 = "trust-key" ∧ nonce = sampleNonce ∧ answerStatus (.object payload) = some "completed" then
      sampleCiphertext
    else ""
  decrypt trustKeyB64 nonce ciphertext :=
    if trustKeyB64 = "trust-key" ∧ nonce = "AAECAwQFBgcICQoL" ∧ ciphertext = sampleCiphertext then
      some completedResponse.payload
    else none

theorem full_disk_answered : (ServiceRequest.asset fullDiskCall).answer sampleLibraries stagedDesktop = .ok diskFullRejected := by
  decide +kernel

-- The refused upload is returned, and counted, over AOA.
theorem refused_upload_counted : ¬ ∀ (lib : Libraries) (d : Desktop) (request : ServiceRequest) (response : Response),
    request.answer lib d = .ok response → ∀ (cipher : PayloadCipher) (encryption : Option Encryption) (requestId : String),
    (∀ opened, encryption = some opened → Opens cipher response.payload opened) →
    Agrees cipher encryption requestId request.operation response := by
  intro all
  have agrees := all sampleLibraries stagedDesktop (.asset fullDiskCall) diskFullRejected full_disk_answered sampleCipher none
    "request-1" nofun
  exact absurd (agrees.counted rfl .usb (by decide)) (by decide)

theorem completion_agrees : Agrees sampleCipher (some ⟨"trust-key",sampleNonce,"session-1"⟩) "request-1" .complete
    completedResponse := by
  refine (clients_agree sampleLibraries sampleDesktop (.complete sampleCompletion 1704067200000000) completedResponse
    (by decide +kernel) sampleCipher (some ⟨"trust-key",sampleNonce,"session-1"⟩) "request-1" ?_).mpr
    ⟨by decide,.inr (by decide)⟩
  intro opened equal
  cases equal
  have ciphertext : sampleCipher.encrypt "trust-key" sampleNonce completedResponse.payload = sampleCiphertext := by
    decide +kernel
  refine ⟨by decide +kernel,by decide +kernel,?_⟩
  rw [ciphertext]
  simp [sampleCipher]

end ImageSearch.TransferClients
