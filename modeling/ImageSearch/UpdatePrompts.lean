import ImageSearch.CapabilityExchange

namespace ImageSearch.UpdatePrompts
open Payload MobileStore TransferService

def mobileUpdatePromptSchema : String := "dtis.mobile-update.v1"
def updatePromptProofPurpose : String := "update.prompt"

structure MobileUpdatePromptRequest where
  schema : String
  sessionId : String
  deviceUuid : String
  trustProof : String
  required : Bool
  bodyText : Option String
  updateDestination : Option String
  deriving DecidableEq, Repr

def requirePromptField (payload : Fields) (fieldName : String) : Except Raised String :=
  match Payload.get payload fieldName with
  | .string value =>
    if strip value = "" then .error (.valueError s!"The update prompt request is missing the required field '{fieldName}'.")
    else .ok (strip value)
  | _ => .error (.valueError s!"The update prompt request is missing the required field '{fieldName}'.")

def requireBool (payload : Fields) : Except Raised Bool :=
  match Payload.get payload "required" with
  | .bool value => .ok value
  | _ => .error (.valueError "The update prompt request field 'required' must be a boolean.")

def normalizeOptionalText (payload : Fields) (fieldName : String) : Except Raised (Option String) :=
  match Payload.get payload fieldName with
  | .null => .ok none
  | .string value => .ok (if strip value = "" then none else some (strip value))
  | _ => .error (.valueError s!"The update prompt request field '{fieldName}' must be a string.")

-- urllib's urlparse: the scheme and the host, or the message of its ValueError.
def validateDestination (urlparse : String → Except String (String × String)) (destination : String) : Except Raised Unit :=
  match urlparse destination with
  | .error message => .error (.valueError message)
  | .ok (scheme,netloc) =>
    if scheme = "" || netloc = "" then
      .error (.valueError "The update prompt request field 'update_destination' must be a valid absolute URL.")
    else .ok ()

def parseUpdatePromptRequest (urlparse : String → Except String (String × String)) (payload : Fields) :
    Except Raised MobileUpdatePromptRequest := do
  let schema ← requirePromptField payload "schema"
  let sessionId ← requirePromptField payload "session_id"
  let deviceUuid ← requirePromptField payload "device_uuid"
  let trustProof ← requirePromptField payload "trust_proof"
  let required ← requireBool payload
  let bodyText ← normalizeOptionalText payload "body_text"
  let updateDestination ← normalizeOptionalText payload "update_destination"
  match updateDestination with
  | none => pure ()
  | some destination => validateDestination urlparse destination
  return ⟨schema,sessionId,deviceUuid,trustProof,required,bodyText,updateDestination⟩

structure PromptResponse where
  statusCode : Nat
  status : ReplyStatus
  message : String
  sessionId : Option String := none
  deviceUuid : Option String := none
  required : Option Bool := none
  deriving DecidableEq, Repr

def PromptResponse.payload (response : PromptResponse) : Fields :=
  [("schema",.string mobileUpdatePromptSchema),("status",.string response.status.value),("message",.string response.message)] ++
  (response.sessionId.map fun text => ("session_id",Json.string text)).toList ++
  (response.deviceUuid.map fun text => ("device_uuid",Json.string text)).toList ++
  (response.required.map fun flag => ("required",Json.bool flag)).toList

def promptRejected (statusCode : Nat) (message : String) : PromptResponse := {statusCode,status:=.rejected,message}

-- The answer, and what is published on the event bus.
def handlePromptRequest (lib : Libraries) (urlparse : String → Except String (String × String)) (payload : Fields) (store : Store) :
    Except Raised (PromptResponse × Option MobileUpdatePromptRequest) :=
  match parseUpdatePromptRequest urlparse payload with
  | .error (.valueError message) => .ok (promptRejected 400 message,none)
  | .error raised => .error raised
  | .ok request =>
    if request.schema ≠ mobileUpdatePromptSchema then
      .ok (promptRejected 400 "The update prompt request schema version is unsupported.",none)
    else match getMobileTransferContext store request.sessionId request.deviceUuid with
      | none => .ok (promptRejected 403 "Desktop rejected the update prompt request.",none)
      | some context =>
        match isValidTrustProof lib context.trustKeyB64 updatePromptProofPurpose request.schema request.sessionId
            request.deviceUuid request.trustProof with
        | .error raised => .error raised
        | .ok false => .ok (promptRejected 403 "Desktop rejected the update prompt request.",none)
        | .ok true => .ok ({
            statusCode:=200,status:=.accepted,message:="Desktop accepted the update prompt request."
            sessionId:=some request.sessionId,deviceUuid:=some request.deviceUuid,required:=some request.required},some request)

end ImageSearch.UpdatePrompts
