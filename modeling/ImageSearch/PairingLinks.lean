import ImageSearch.PairingTokens
import Mathlib.Algebra.Group.Int.Defs

namespace ImageSearch.PairingLinks
open FormTexts PairingTokens
open Payload (stripChars)

structure PairingQRCodePayload where
  schemaVersion : Int
  endpointTargets : List Text
  sessionId : Text
  oneTimePasscode : Text
  suggestedUsbPort : Option Int
  strictSecurityEnabled : Bool
  deriving DecidableEq, Repr

structure JsUrl where
  hostname : Text
  port : Text
  searchParams : List (Text × Text)
  hash : Text

-- The library of URLs, and UTF-8 decoding that replaces what is none.
structure Javascript where
  url : Text → Option JsUrl
  utf8Decode : List UInt8 → Text

structure Components where
  scheme : Option Text
  host : Option Text
  port : Option Nat
  query : Option Text
  fragment : Option Text

-- URL(string:) and URLComponents, what is left of a fragment and of a query item without its escapes,
-- whether a URL is made of components with a path, and whether two characters are one to a reader.
structure Foundation where
  components : Text → Option Components
  fragment : Text → Option Text
  itemText : Text → Text
  url : Components → Bool
  joins : Char → Char → Bool

section Typescript
variable (js : Javascript)

def isJsSpace (c : Char) : Bool :=
  let n := c.toNat
  (9 ≤ n && n ≤ 13) || n == 32 || n == 0xa0 || n == 0x1680 || (0x2000 ≤ n && n ≤ 0x200a) || n == 0x2028 || n == 0x2029 ||
    n == 0x202f || n == 0x205f || n == 0x3000 || n == 0xfeff

def trim (text : Text) : Text := stripChars isJsSpace text

def searchParams (query : Text) : List (Text × Text) :=
  ((query.splitOn '&').filter fun part => part ≠ []).map fun part =>
    (js.utf8Decode (percentBytes (plusToSpace (piece part).1)),js.utf8Decode (percentBytes (plusToSpace ((piece part).2.getD []))))

def get (params : List (Text × Text)) (key : Text) : Option Text := (params.find? fun param => param.1 = key).map Prod.snd

def parseRequiredQueryParam (params : List (Text × Text)) (key : Text) : Option Text :=
  ((get params key).map trim).filter fun value => value ≠ []

def parseInt (text : Text) : Option Int :=
  let text := text.dropWhile isJsSpace
  let digits := (if text.head? = some '-' ∨ text.head? = some '+' then text.drop 1 else text).takeWhile Char.isDigit
  if digits = [] then none
  else some (if text.head? = some '-' then -(Nat.ofDigitChars 10 digits 0 : Int) else Nat.ofDigitChars 10 digits 0)

def httpBase : Text := "http://".toList

def isValidEndpointTarget (target : Text) : Bool :=
  '/' ∉ target && '?' ∉ target && '#' ∉ target && (js.url (httpBase ++ target)).any fun url => url.hostname ≠ [] && url.port ≠ []

-- What follows the last "?" of the fragment, or the whole.
def parseFragmentSearchParams (hash : Text) : List (Text × Text) :=
  searchParams js (if '?' ∈ hash then (hash.reverse.takeWhile fun c => c ≠ '?').reverse else hash)

def suggestedPort (text : Text) (schemaVersion : Int) : Except String (Option Int) :=
  if text ≠ [] then
    match (parseInt text).filter fun port => 1 ≤ port ∧ port ≤ 65535 with
    | some port => .ok (some port)
    | none => .error "Link field usp must be an integer between 1 and 65535."
  else if 2 ≤ schemaVersion then .error "Link field usp is required for schema v2."
  else .ok none

def endpointTargets (text : Text) : List Text := ((text.splitOn ',').map trim).filter fun target => target ≠ []

def decodePairingLink (link : Text) : Except String PairingQRCodePayload :=
  match js.url link with
  | none => .error "Link is not a valid URL."
  | some parsed =>
    let params := parsed.searchParams
    let fragmentOpt := (get (parseFragmentSearchParams js parsed.hash) ['o','p','t']).map trim
    let opt := (fragmentOpt.filter fun value => value ≠ []).or (parseRequiredQueryParam params ['o','p','t'])
    match parseRequiredQueryParam params ['v'],parseRequiredQueryParam params ['e','p','t'],
        parseRequiredQueryParam params ['s','i','d'],opt with
    | some version,some targetsText,some sessionId,some oneTimePasscode =>
      match parseInt version with
      | none => .error "Link field v must be an integer."
      | some schemaVersion =>
        if schemaVersion ≠ 1 ∧ schemaVersion ≠ 2 then .error "Link field v must be either 1 or 2."
        else match suggestedPort (((get params ['u','s','p']).map trim).getD []) schemaVersion with
          | .error message => .error message
          | .ok suggestedUsbPort =>
            let targets := endpointTargets targetsText
            if targets = [] ∨ 5 < targets.length ∨ targets.any fun target => !isValidEndpointTarget js target then
              .error "Link field ept contains invalid endpoint targets."
            else .ok ⟨schemaVersion,targets,sessionId,oneTimePasscode,suggestedUsbPort,
              (get params ['s','e','c']).map trim = some ['1']⟩
    | _,_,_,_ => .error "Link is missing required query params v,ept,sid,opt."

end Typescript

section Swift
variable (f : Foundation)

def isSwiftSpace (c : Char) : Bool :=
  let n := c.toNat
  (9 ≤ n && n ≤ 13) || n == 32 || n == 0x85 || n == 0xa0 || n == 0x1680 || (0x2000 ≤ n && n ≤ 0x200a) || n == 0x2028 ||
    n == 0x2029 || n == 0x202f || n == 0x205f || n == 0x3000

def trimmingCharacters (text : Text) : Text := stripChars isSwiftSpace text

inductive QRCodePayloadDecoderError where
  | emptyPayload
  | invalidURL
  | invalidHost
  | invalidSchemaVersion
  | invalidEndpoint
  | invalidSuggestedUSBPort
  | missingField (field : String)
  deriving DecidableEq, Repr

def queryItems (query : Option Text) : List (Text × Option Text) :=
  match query with
  | none | some [] => []
  | some query => (pieces query).map fun part => (f.itemText part.1,part.2.map f.itemText)

def item (items : List (Text × Option Text)) (name : Text) : Option Text := (items.find? fun item => item.1 = name).bind Prod.snd

def fragmentQueryItems (fragment : Option Text) : List (Text × Option Text) :=
  match fragment with
  | none | some [] => []
  | some fragment => (f.components (payloadBase ++ fragment)).elim [] fun components => queryItems f components.query

def int (text : Text) : Option Int :=
  let digits := if text.head? = some '-' ∨ text.head? = some '+' then text.drop 1 else text
  if digits = [] ∨ !digits.all Char.isDigit then none
  else
    let value : Int := if text.head? = some '-' then -(Nat.ofDigitChars 10 digits 0 : Int) else Nat.ofDigitChars 10 digits 0
    if -2^63 ≤ value ∧ value < 2^63 then some value else none

-- split(separator: ","), the empty parts still there: a comma that joins what is before or after it is none.
def splitCommas (previous : Option Char) : Text → List Text
  | [] => [[]]
  | c :: rest =>
    if c = ',' ∧ !(previous.any fun before => f.joins before c) ∧ !(rest.head?.any (f.joins c)) then [] :: splitCommas (some c) rest
    else (splitCommas (some c) rest).modifyHead (c :: ·)

def bootstrapURL (target : Text) : Bool :=
  '/' ∉ target && '?' ∉ target && '#' ∉ target &&
    (f.components (httpBase ++ target)).any fun components => components.host.isSome && components.port.isSome && f.url components

def targetsOf (text : Text) : List Text :=
  (((splitCommas f none text).filter fun part => part ≠ []).map trimmingCharacters).filter fun target => target ≠ []

def suggestedUSBPort (value : Option Text) (schemaVersion : Int) : Except QRCodePayloadDecoderError (Option Int) :=
  match value with
  | some text =>
    match (int text).filter fun port => 1 ≤ port ∧ port ≤ 65535 with
    | some port => .ok (some port)
    | none => .error .invalidSuggestedUSBPort
  | none => if 2 ≤ schemaVersion then .error (.missingField "usp") else .ok none

def decode (scannedValue : Text) : Except QRCodePayloadDecoderError PairingQRCodePayload :=
  let trimmedValue := trimmingCharacters scannedValue
  if trimmedValue = [] then .error .emptyPayload
  else match f.components trimmedValue with
    | none => .error .invalidURL
    | some components =>
      if components.scheme ≠ some "https".toList ∨ components.host ≠ some "dl.boldman.net".toList then .error .invalidHost
      else
        let items := queryItems f components.query
        let fragmentItems := fragmentQueryItems f (components.fragment.bind f.fragment)
        match (item items ['v']).bind int with
        | none => .error (.missingField "v")
        | some schemaVersion =>
          if schemaVersion ≠ 1 ∧ schemaVersion ≠ 2 then .error .invalidSchemaVersion
          else match item items ['e','p','t'] with
            | none => .error (.missingField "ept")
            | some targetsText =>
              let targets := targetsOf f targetsText
              if targets = [] ∨ 5 < targets.length ∨ targets.any fun target => !bootstrapURL f target then .error .invalidEndpoint
              else match item items ['s','i','d'],(item fragmentItems ['o','p','t']).or (item items ['o','p','t']) with
                | none,_ => .error (.missingField "sid")
                | _,none => .error (.missingField "opt")
                | some sessionId,some oneTimePasscode =>
                  match suggestedUSBPort (item items ['u','s','p']) schemaVersion with
                  | .error error => .error error
                  | .ok suggestedUsbPort => .ok ⟨schemaVersion,targets,sessionId,oneTimePasscode,suggestedUsbPort,
                      item items ['s','e','c'] = some ['1']⟩

end Swift

end ImageSearch.PairingLinks
