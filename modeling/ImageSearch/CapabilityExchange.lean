import ImageSearch.TransferService

namespace ImageSearch.CapabilityExchange
open Payload MobileStore TransferService

def mobileCapabilityExchangeSchema : String := "dtis.mobile-capabilities.v1"
def capabilityExchangeProofPurpose : String := "capabilities.exchange"

structure MobileCapabilityExchangeRequest where
  schema : String
  sessionId : String
  deviceUuid : String
  trustProof : String
  capabilities : List String

def requireField (payload : Fields) (fieldName : String) : Except Raised String :=
  match Payload.get payload fieldName with
  | .string value =>
    if strip value = "" then
      .error (.valueError s!"The capability exchange request is missing the required field '{fieldName}'.")
    else .ok (strip value)
  | _ => .error (.valueError s!"The capability exchange request is missing the required field '{fieldName}'.")

-- str of an integer of more than 4300 digits raises a ValueError of its own.
def unsupportedValue (value : Int) (capabilityName : String) : Raised :=
  if (Nat.toDigits 10 value.natAbs).length ≤ 4300 then
    .valueError ("The capability exchange request contains unsupported value '" ++ toString value ++
      "' for capability '" ++ capabilityName ++ "'.")
  else .valueError ("Exceeds the limit (4300 digits) for integer string conversion; " ++
    "use sys.set_int_max_str_digits() to increase the limit")

def normalizeFlag (capabilityName : String) : Json → Except Raised Bool
  | .bool value => .ok value
  | .int value => if value = 0 ∨ value = 1 then .ok (value = 1) else .error (unsupportedValue value capabilityName)
  | _ => .error (.valueError
      s!"The capability exchange request contains a non-integer value for capability '{capabilityName}'.")

def normalizeCapabilityFlags : List (String × Json) → Except Raised (List String)
  | [] => .ok []
  | (rawName,rawValue) :: rest =>
    if strip rawName = "" then
      .error (.valueError "The capability exchange request contains an empty capability key.")
    else do
    let flagged ← normalizeFlag (strip rawName) rawValue
    let others ← normalizeCapabilityFlags rest
    return if flagged then strip rawName :: others.filter (fun name => name ≠ strip rawName) else others

-- dict.get with a default: only an absent field is the empty object.
def rawCapabilities (payload : Fields) : Except Raised (List (String × Json)) :=
  match payload.lookup "capabilities" with
  | none => .ok []
  | some (.object fields) => .ok fields
  | some _ => .error (.valueError "The capability exchange request field 'capabilities' must be a JSON object.")

def parseCapabilityExchangeRequest (payload : Fields) : Except Raised MobileCapabilityExchangeRequest := do
  let schema ← requireField payload "schema"
  let sessionId ← requireField payload "session_id"
  let deviceUuid ← requireField payload "device_uuid"
  let trustProof ← requireField payload "trust_proof"
  let raw ← rawCapabilities payload
  return ⟨schema,sessionId,deviceUuid,trustProof,← normalizeCapabilityFlags raw⟩

structure CapabilityResponse where
  statusCode : Nat
  status : ReplyStatus
  message : String
  capabilities : List String := []
  sessionId : Option String := none
  deviceUuid : Option String := none
  deriving DecidableEq, Repr

def CapabilityResponse.payload (response : CapabilityResponse) : Fields :=
  [("schema",.string mobileCapabilityExchangeSchema),("status",.string response.status.value),
    ("message",.string response.message),
    ("capabilities",.object (response.capabilities.map fun name => (name,.int 1)))] ++
  (response.sessionId.map fun text => ("session_id",Json.string text)).toList ++
  (response.deviceUuid.map fun text => ("device_uuid",Json.string text)).toList

def exchangeRejected (statusCode : Nat) (message : String) : CapabilityResponse := {statusCode,status:=.rejected,message}

-- The session's status is not looked at.
def handleExchangeRequest (lib : Libraries) (desktopCapabilities : List String) (payload : Fields) (store : Store) :
    Except Raised CapabilityResponse :=
  match parseCapabilityExchangeRequest payload with
  | .error (.valueError message) => .ok (exchangeRejected 400 message)
  | .error raised => .error raised
  | .ok request =>
    if request.schema ≠ mobileCapabilityExchangeSchema then
      .ok (exchangeRejected 400 "The capability exchange request schema version is unsupported.")
    else match getMobileTransferContext store request.sessionId request.deviceUuid with
      | none => .ok (exchangeRejected 403 "Desktop rejected the capability exchange request.")
      | some context =>
        match isValidTrustProof lib context.trustKeyB64 capabilityExchangeProofPurpose request.schema request.sessionId
            request.deviceUuid request.trustProof with
        | .error raised => .error raised
        | .ok false => .ok (exchangeRejected 403 "Desktop rejected the capability exchange request.")
        | .ok true => .ok {
            statusCode:=200,status:=.accepted,message:="Desktop completed capability exchange."
            capabilities:=desktopCapabilities,sessionId:=some request.sessionId,deviceUuid:=some request.deviceUuid}

-- Whatever is wrong with a payload, the parser says so with a ValueError.
theorem requireField_raises {payload : Fields} {fieldName : String} {raised : Raised}
    (failed : requireField payload fieldName = .error raised) : ∃ message, raised = .valueError message := by
  unfold requireField at failed
  split at failed
  · split at failed
    · cases failed; exact ⟨_,rfl⟩
    · cases failed
  · cases failed; exact ⟨_,rfl⟩

theorem normalizeFlag_raises {capabilityName : String} {value : Json} {raised : Raised}
    (failed : normalizeFlag capabilityName value = .error raised) : ∃ message, raised = .valueError message := by
  unfold normalizeFlag at failed
  split at failed
  · cases failed
  · split at failed
    · cases failed
    · cases failed
      unfold unsupportedValue
      split <;> exact ⟨_,rfl⟩
  · cases failed; exact ⟨_,rfl⟩

theorem normalizeFlags_raises {raw : List (String × Json)} {raised : Raised}
    (failed : normalizeCapabilityFlags raw = .error raised) : ∃ message, raised = .valueError message := by
  induction raw generalizing raised with
  | nil => cases failed
  | cons head rest ih =>
      obtain ⟨rawName,rawValue⟩ := head
      unfold normalizeCapabilityFlags at failed
      split at failed
      · cases failed; exact ⟨_,rfl⟩
      · rcases bind_raises failed with flag | ⟨flagged,-,failed⟩
        · exact normalizeFlag_raises flag
        · rcases bind_raises failed with others | ⟨others,-,failed⟩
          · exact ih others
          · cases failed

theorem parse_raises {payload : Fields} {raised : Raised} (failed : parseCapabilityExchangeRequest payload = .error raised) :
    ∃ message, raised = .valueError message := by
  unfold parseCapabilityExchangeRequest at failed
  rcases bind_raises failed with first | ⟨schema,-,failed⟩
  · exact requireField_raises first
  rcases bind_raises failed with second | ⟨sessionId,-,failed⟩
  · exact requireField_raises second
  rcases bind_raises failed with third | ⟨deviceUuid,-,failed⟩
  · exact requireField_raises third
  rcases bind_raises failed with fourth | ⟨trustProof,-,failed⟩
  · exact requireField_raises fourth
  rcases bind_raises failed with object | ⟨raw,-,failed⟩
  · unfold rawCapabilities at object
    split at object
    · cases object
    · cases object
    · cases object; exact ⟨_,rfl⟩
  rcases bind_raises failed with flags | ⟨flags,-,failed⟩
  · exact normalizeFlags_raises flags
  · cases failed

end ImageSearch.CapabilityExchange
