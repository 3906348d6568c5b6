import ImageSearch.Base64
import ImageSearch.Payload
import Mathlib.Data.List.DropRight

namespace ImageSearch.PayloadCiphers
open Payload

def mobileEncryptionSchema : String := "dtis.mobile-encryption.v1"
def keyDerivationContext : String := "dtis.mobile-encryption.key.v1"
def binaryChunkVersion : UInt8 := 1
def nonceBytes : Nat := 12
def tagBytes : Nat := 16
def binaryChunkOverheadBytes : Nat := 1 + nonceBytes + tagBytes

-- AES-256-GCM without associated data: a key and a nonce open what they seal, and nothing else.
structure Cipher where
  gcmEncrypt : Bytes → Bytes → Bytes → Bytes × Bytes
  gcmDecrypt : Bytes → Bytes → Bytes → Bytes → Option Bytes
  tag_length : ∀ key nonce plaintext, (gcmEncrypt key nonce plaintext).2.length = tagBytes
  body_length : ∀ key nonce plaintext, (gcmEncrypt key nonce plaintext).1.length = plaintext.length
  opens : ∀ key nonce plaintext, gcmDecrypt key nonce (gcmEncrypt key nonce plaintext).1 (gcmEncrypt key nonce plaintext).2 = some plaintext
  authentic : ∀ key nonce ciphertext tag plaintext, gcmDecrypt key nonce ciphertext tag = some plaintext →
    (ciphertext,tag) = gcmEncrypt key nonce plaintext

def Cipher.sealed (cipher : Cipher) (key nonce plaintext : Bytes) : Bytes :=
  (cipher.gcmEncrypt key nonce plaintext).1 ++ (cipher.gcmEncrypt key nonce plaintext).2

inductive Parsed (Object : Type) where
  | object (value : Object)
  | other
  | malformed

-- The libraries of both sides, with their laws. An error is the exception's name.
structure Libraries (Object : Type) where
  cipher : Cipher
  sha256 : String → Bytes
  urlsafeB64decode : String → Except String Bytes
  urlsafe_decodes : ∀ bytes, urlsafeB64decode (String.ofList ((Base64.encode bytes).map Base64.urlsafe)) = .ok bytes
  fromBase64 : String → Bytes
  base64_decodes : ∀ bytes, fromBase64 (String.ofList (Base64.encode bytes)) = bytes
  field : Object → String → Json
  -- Buffer.from(JSON.stringify(payload)) and json.loads(bytes.decode("utf-8"))
  stringify : Object → Bytes
  loads : Bytes → Parsed Object
  loads_stringify : ∀ payload, loads (stringify payload) = .object payload
  -- json.dumps(payload).encode("utf-8"), which refuses unpaired surrogates, and JSON.parse(bytes.toString("utf-8"))
  dumps : Object → Except String Bytes
  parse : Bytes → Parsed Object
  parse_dumps : ∀ payload bytes, dumps payload = .ok bytes → parse bytes = .object payload
  parse_empty : parse [] = .malformed

variable {Object : Type} (lib : Libraries Object)

def padded (text : List Char) : String := String.ofList (text ++ List.replicate ((4 - text.length % 4) % 4) '=')

inductive PythonError where
  | mobilePayloadEncryptionError (message : String)
  | exception (name : String)
  deriving DecidableEq, Repr

def refuse {α : Type} (message : String) : Except PythonError α := .error (.mobilePayloadEncryptionError message)

-- except Exception as exc: raise MobilePayloadEncryptionError(...) from exc
def translated {α : Type} (message : String) : Except String α → Except PythonError α
  | .ok value => .ok value
  | .error _ => refuse message

def untranslated {α : Type} : Except String α → Except PythonError α
  | .ok value => .ok value
  | .error name => .error (.exception name)

def deriveMobileEncryptionKey (trustKeyB64 : String) : Except PythonError Bytes :=
  let normalizedTrustKey := strip trustKeyB64
  if normalizedTrustKey = "" then refuse "Desktop rejected an empty mobile transfer trust key."
  else .ok (lib.sha256 (keyDerivationContext ++ "\n" ++ normalizedTrustKey))

def aesgcmDecrypt (key nonce data : Bytes) : Except String Bytes :=
  if data.length < tagBytes then .error "InvalidTag"
  else match lib.cipher.gcmDecrypt key nonce (data.take (data.length - tagBytes)) (data.drop (data.length - tagBytes)) with
    | some plaintext => .ok plaintext
    | none => .error "InvalidTag"

def base64urlEncode (data : Bytes) : String :=
  String.ofList (((Base64.encode data).map Base64.urlsafe).rdropWhile fun c => c = '=')

def base64urlDecode (value : String) : Except PythonError Bytes :=
  let normalizedValue := strip value
  if normalizedValue = "" then refuse "Desktop rejected encrypted payload because base64url value is empty."
  else translated "Desktop rejected encrypted payload because base64url value is invalid."
    (lib.urlsafeB64decode (padded normalizedValue.toList))

def decodeRequiredBase64urlField (payload : Fields) (fieldName : String) : Except PythonError Bytes :=
  match get payload fieldName with
  | .string rawValue =>
    if strip rawValue = "" then refuse ("Desktop rejected encrypted payload field '" ++ fieldName ++ "'.")
    else base64urlDecode lib (strip rawValue)
  | _ => refuse ("Desktop rejected encrypted payload field '" ++ fieldName ++ "'.")

def setField (payload : Fields) (fieldName : String) (value : Json) : Fields :=
  if payload.any fun field => field.1 = fieldName then
    payload.map fun field => if field.1 = fieldName then (fieldName,value) else field
  else payload ++ [(fieldName,value)]

def addLocators : List (String × String) → Fields → Except PythonError Fields
  | [],encrypted => .ok encrypted
  | (fieldName,fieldValue) :: rest,encrypted =>
    if strip fieldName = "" then refuse "Desktop rejected an encrypted payload locator with an empty field name."
    else if strip fieldValue = "" then refuse ("Desktop rejected encrypted payload locator field '" ++ fieldName ++ "'.")
    else addLocators rest (setField encrypted fieldName (.string (strip fieldValue)))

def encryptMobileJsonPayload (payload : Object) (trustKeyB64 : String) (locatorFields : List (String × String))
    (nonce : Bytes) : Except PythonError Fields := do
  let key ← deriveMobileEncryptionKey lib trustKeyB64
  let serializedPayload ← untranslated (lib.dumps payload)
  addLocators locatorFields
    [("schema",.string mobileEncryptionSchema),("nonce",.string (base64urlEncode nonce)),
      ("ciphertext",.string (base64urlEncode (lib.cipher.sealed key nonce serializedPayload)))]

def encryptMobileBinaryChunk (chunk : Bytes) (trustKeyB64 : String) (nonce : Bytes) : Except PythonError Bytes := do
  let key ← deriveMobileEncryptionKey lib trustKeyB64
  return binaryChunkVersion :: nonce ++ lib.cipher.sealed key nonce chunk

def isEncrypted (payload : Fields) : Bool :=
  match get payload "schema" with
  | .string schema => schema = mobileEncryptionSchema
  | _ => false

def decodedObject : Parsed Object → Except PythonError Object
  | .object value => .ok value
  | .malformed => refuse "Desktop decrypted an invalid encrypted payload JSON body."
  | .other => refuse "Desktop decrypted an encrypted payload that is not a JSON object."

def decryptMobileJsonPayload (encryptedPayload : Fields) (trustKeyB64 : String) : Except PythonError Object :=
  if !isEncrypted encryptedPayload then refuse "Desktop received an unsupported encrypted payload schema." else do
  let nonce ← decodeRequiredBase64urlField lib encryptedPayload "nonce"
  if nonce.length ≠ nonceBytes then refuse "Desktop rejected encrypted payload nonce length." else do
  let ciphertext ← decodeRequiredBase64urlField lib encryptedPayload "ciphertext"
  let key ← deriveMobileEncryptionKey lib trustKeyB64
  let plaintext ← translated "Desktop could not decrypt the encrypted payload." (aesgcmDecrypt lib key nonce ciphertext)
  decodedObject (lib.loads plaintext)

def decryptMobileBinaryChunk (encryptedChunk : Bytes) (trustKeyB64 : String) : Except PythonError Bytes :=
  if encryptedChunk.length < binaryChunkOverheadBytes then refuse "Desktop rejected encrypted transfer chunk framing."
  else if encryptedChunk.head? ≠ some binaryChunkVersion then refuse "Desktop rejected encrypted transfer chunk version."
  else do
  let nonce := encryptedChunk.tail.take nonceBytes
  let ciphertext := encryptedChunk.tail.drop nonceBytes
  let key ← deriveMobileEncryptionKey lib trustKeyB64
  translated "Desktop could not decrypt transfer chunk." (aesgcmDecrypt lib key nonce ciphertext)

-- What String.prototype.trim takes off: white space and line terminators, the byte order mark among them.
def isTrimmed (c : Char) : Bool :=
  let n := c.toNat
  (9 ≤ n && n ≤ 13) || n == 32 || n == 0xa0 || n == 0x1680 || (0x2000 ≤ n && n ≤ 0x200a) || n == 0x2028 || n == 0x2029 ||
    n == 0x202f || n == 0x205f || n == 0x3000 || n == 0xfeff

def trim (text : String) : String := String.ofList (stripChars isTrimmed text.toList)

def toBase64Url (value : Bytes) : String :=
  String.ofList ((((Base64.encode value).map fun c => if c = '+' then '-' else c).map
    fun c => if c = '/' then '_' else c).rdropWhile fun c => c = '=')

-- Every error of the phone is an Error; its message.
def fromBase64Url (rawValue : String) : Except String Bytes :=
  let normalized := trim rawValue
  if normalized = "" then .error "Encrypted payload contains an empty base64url field."
  else .ok (lib.fromBase64 (padded ((normalized.toList.map fun c => if c = '-' then '+' else c).map
    fun c => if c = '_' then '/' else c)))

def optionalLocatorField (payload : Object) (fieldName : String) : Option String :=
  match lib.field payload fieldName with
  | .string value => if trim value = "" then none else some (trim value)
  | _ => none

def deriveEncryptionKey (trustKeyB64 : String) : Except String Bytes :=
  let normalizedTrustKey := trim trustKeyB64
  if normalizedTrustKey = "" then .error "Transfer encryption key is missing."
  else .ok (lib.sha256 (keyDerivationContext ++ "\n" ++ normalizedTrustKey))

def encryptJsonPayload (payload : Object) (trustKeyB64 : String) (nonce : Bytes) : Except String Fields :=
  match optionalLocatorField lib payload "session_id" with
  | none => .error "Encrypted transfer request is missing locator field 'session_id'."
  | some sessionId => do
    let key ← deriveEncryptionKey lib trustKeyB64
    return [("schema",.string mobileEncryptionSchema),("nonce",.string (toBase64Url nonce)),
      ("ciphertext",.string (toBase64Url (lib.cipher.sealed key nonce (lib.stringify payload)))),
      ("session_id",.string sessionId)] ++
      ((optionalLocatorField lib payload "device_uuid").map fun text => ("device_uuid",Json.string text)).toList ++
      ((optionalLocatorField lib payload "platform").map fun text => ("platform",Json.string text)).toList

def requiredField (payload : Fields) (fieldName : String) : Except String String :=
  match get payload fieldName with
  | .string rawValue =>
    if trim rawValue = "" then .error ("Encrypted transfer response is missing field '" ++ fieldName ++ "'.") else .ok rawValue
  | _ => .error ("Encrypted transfer response is missing field '" ++ fieldName ++ "'.")

def decryptionFailed : String := "Desktop transfer response decryption failed."

-- The body of the try: whatever fails in it, one error is thrown.
def opened (trustKeyB64 : String) (nonce ciphertextWithTag : Bytes) : Except String Object :=
  match deriveEncryptionKey lib trustKeyB64 with
  | .error _ => .error decryptionFailed
  | .ok key =>
    match lib.cipher.gcmDecrypt key nonce (ciphertextWithTag.take (ciphertextWithTag.length - tagBytes))
        (ciphertextWithTag.drop (ciphertextWithTag.length - tagBytes)) with
    | none => .error decryptionFailed
    | some plaintext =>
      match lib.parse plaintext with
      | .object value => .ok value
      | .other | .malformed => .error decryptionFailed

def decryptJsonPayload (payload : Fields) (trustKeyB64 : String) : Except String Object :=
  if !isEncrypted payload then .error "Desktop transfer response must be encrypted." else do
  let rawNonce ← requiredField payload "nonce"
  let rawCiphertext ← requiredField payload "ciphertext"
  let nonce ← fromBase64Url lib rawNonce
  if nonce.length ≠ nonceBytes then .error "Encrypted transfer response nonce length is invalid." else do
  let ciphertextWithTag ← fromBase64Url lib rawCiphertext
  if ciphertextWithTag.length ≤ tagBytes then .error "Encrypted transfer response ciphertext is invalid." else
  opened lib trustKeyB64 nonce ciphertextWithTag

def encryptBinaryChunk (chunk : Bytes) (trustKeyB64 : String) (nonce : Bytes) : Except String Bytes := do
  let key ← deriveEncryptionKey lib trustKeyB64
  return binaryChunkVersion :: nonce ++ lib.cipher.sealed key nonce chunk

end ImageSearch.PayloadCiphers
