import ImageSearch.FormTexts
import ImageSearch.IpAddresses
import Mathlib.Algebra.Group.Nat.Defs
import Mathlib.Logic.Relation

namespace ImageSearch.PairingTokens
open FormTexts IpAddresses

-- What Python's Unicode tables say: str.lower, and whether a netloc stays one under NFKC.
structure Unicode where
  lower : Text → Text
  normal : Text → Bool

def schemeChar (c : Char) : Bool := c.isAlphanum || c = '+' || c = '-' || c = '.'

def before (separator : Char) (text : Text) : Text := text.takeWhile fun c => c ≠ separator
def after (separator : Char) (text : Text) : Text := (text.dropWhile fun c => c ≠ separator).drop 1

def ipvFuture (host : Text) : Bool :=
  let rest := (host.drop 1).dropWhile Payload.isHexDigit
  host.head? = some 'v' && rest.length < (host.drop 1).length && rest.head? = some '.' && 1 < rest.length

def checkBracketedHost (host : Text) : Except String Unit :=
  if host.head? = some 'v' then if ipvFuture host then .ok () else .error "IPvFuture address is invalid"
  else if ipv6Address host then .ok ()
  else if ipv4Address host then .error "An IPv4 address cannot be in brackets"
  else .error "The host does not appear to be an IPv4 or IPv6 address"

def urlRest (url : Text) : Text :=
  let url := (url.dropWhile fun c => c.toNat ≤ 32).filter fun c => c ∉ ['\t','\r','\n']
  let scheme := before ':' url
  if ':' ∈ url ∧ scheme.head?.any Char.isAlpha ∧ scheme.all schemeChar then after ':' url else url

def urlsplit (unicode : Unicode) (url : Text) : Except String Text :=
  let rest := urlRest url
  if ['/','/'].isPrefixOf rest then
    let netloc := (rest.drop 2).takeWhile fun c => c ∉ ['/','?','#']
    if decide ('[' ∈ netloc) ≠ decide (']' ∈ netloc) then .error "Invalid IPv6 URL"
    else match if '[' ∈ netloc then checkBracketedHost (before ']' (after '[' netloc)) else .ok () with
      | .error message => .error message
      | .ok () =>
        if netloc.any (fun c => 128 ≤ c.toNat) && !unicode.normal netloc then
          .error "netloc contains invalid characters under NFKC normalization"
        else .ok netloc
  else .ok []

def hostinfo (netloc : Text) : Text × Text :=
  let info := (netloc.reverse.takeWhile fun c => c ≠ '@').reverse
  if '[' ∈ info then (before ']' (after '[' info),after ':' (after ']' (after '[' info)))
  else (before ':' info,after ':' info)

def hostname (unicode : Unicode) (netloc : Text) : Text :=
  let host := (hostinfo netloc).1
  if host = [] then [] else unicode.lower (before '%' host) ++ host.drop (before '%' host).length

def port (netloc : Text) : Except String (Option Nat) :=
  let text := (hostinfo netloc).2
  if text = [] then .ok none
  else if !text.all Char.isDigit then .error "Port could not be cast to integer value"
  else if 65535 < Nat.ofDigitChars 10 text 0 then .error "Port out of range 0-65535"
  else .ok (some (Nat.ofDigitChars 10 text 0))

structure Endpoint where
  hostname : Text
  port : Nat
  deriving DecidableEq, Repr

def Endpoint.target (endpoint : Endpoint) : Text :=
  let host := endpoint.hostname
  (if ':' ∈ host ∧ host.head? ≠ some '[' then '[' :: (host ++ [']']) else host) ++ ':' :: Nat.toDigits 10 endpoint.port

def endpointFromUrl (unicode : Unicode) (url : Text) : Except String Endpoint := do
  let netloc ← urlsplit unicode url
  let missing := "Desktop endpoint URL must include host and port: " ++ String.ofList url
  if hostname unicode netloc = [] then throw missing
  match ← port netloc with
  | none => throw missing
  | some port => return ⟨hostname unicode netloc,port⟩

def pairingAdvertisedHostLimit : Nat := 5

def normalizeEndpointUrls (urls : List Text) : Except String (List Text) :=
  if [] ∈ urls then .error "Desktop pairing endpoint URLs must be non-empty strings."
  else if urls = [] then .error "Desktop pairing requires at least one endpoint URL."
  else .ok (urls.eraseDups.take pairingAdvertisedHostLimit)

structure MobilePairingToken where
  oneTimePasscode : Text
  suggestedUsbPort : Nat
  payload : Text
  endpointTargets : List Text
  strictSecurityEnabled : Bool
  refreshGeneration : Nat
  deriving DecidableEq, Repr

structure Draw where
  passcode : Fin 1000000
  usbPort : Fin 10001

def passcodeText (passcode : Nat) : Text :=
  List.replicate (6 - (Nat.toDigits 10 passcode).length) '0' ++ Nat.toDigits 10 passcode

def payloadFields (targets : List Text) (sessionId passcode : Text) (usbPort : Nat) (strict : Bool) : List (Text × Text) :=
  [(['v'],['2']),(['e','p','t'],[','].intercalate targets),(['s','i','d'],sessionId),(['o','p','t'],passcode),
    (['u','s','p'],Nat.toDigits 10 usbPort)] ++ if strict then [(['s','e','c'],['1'])] else []

def payloadBase : Text := "https://dl.boldman.net?".toList

def newToken (sessionId : Text) (endpoints : List Endpoint) (strict : Bool) (generation : Nat) (draw : Draw) : MobilePairingToken :=
  let targets := endpoints.map Endpoint.target
  let passcode := passcodeText draw.passcode
  let usbPort : Nat := 47000+draw.usbPort
  ⟨passcode,usbPort,payloadBase ++ urlencode (payloadFields targets sessionId passcode usbPort strict),targets,strict,generation⟩

def newPairingToken (unicode : Unicode) (sessionId : Text) (urls : List Text) (strict : Bool) (generation : Nat) (draw : Draw) :
    Except String MobilePairingToken := do
  let endpoints ← urls.mapM (endpointFromUrl unicode)
  return newToken sessionId endpoints strict generation draw

inductive MobilePlatform where
  | android | ios
  deriving DecidableEq, Repr

structure MobilePairingSessionDraft where
  destinationParent : Text
  desktopEndpointUrls : List Text
  sessionId : Text
  tokens : MobilePlatform → MobilePairingToken

def uuidHex (bits : Fin (2^128)) : Text := (List.range 32).map fun i => Nat.digitChar (bits / 16^(31-i) % 16)

def create (unicode : Unicode) (destinationParent : Text) (urls : List Text) (strict : Bool) (uuid : Fin (2^128)) (draw : Draw) :
    Except String MobilePairingSessionDraft := do
  let urls ← normalizeEndpointUrls urls
  let token ← newPairingToken unicode (uuidHex uuid) urls strict 0 draw
  return ⟨destinationParent,urls,uuidHex uuid,fun _ => token⟩

def refreshToken (unicode : Unicode) (draft : MobilePairingSessionDraft) (platform : MobilePlatform) (draw : Draw) :
    Except String MobilePairingSessionDraft := do
  let current := draft.tokens platform
  let token ← newPairingToken unicode draft.sessionId draft.desktopEndpointUrls current.strictSecurityEnabled
    (current.refreshGeneration+1) draw
  return {draft with tokens:=fun _ => token}

def advertised (unicode : Unicode) (urls : List Text) : Except String (List Endpoint) := do
  (← normalizeEndpointUrls urls).mapM (endpointFromUrl unicode)

def Refreshed (unicode : Unicode) (draft later : MobilePairingSessionDraft) : Prop :=
  ∃ platform draw, refreshToken unicode draft platform draw = .ok later

variable {unicode : Unicode} {destinationParent : Text} {urls : List Text} {strict : Bool} {uuid : Fin (2^128)} {draw : Draw}
  {draft later : MobilePairingSessionDraft} {endpoints : List Endpoint} {text part : Text} {c separator : Char}

def Made (unicode : Unicode) (endpoints : List Endpoint) (strict : Bool) (uuid : Fin (2^128)) (draft : MobilePairingSessionDraft) : Prop :=
  draft.desktopEndpointUrls.mapM (endpointFromUrl unicode) = .ok endpoints ∧ draft.sessionId = uuidHex uuid ∧
    ∃ generation draw, ∀ platform, draft.tokens platform = newToken (uuidHex uuid) endpoints strict generation draw

theorem create_made (shown : advertised unicode urls = .ok endpoints)
    (created : create unicode destinationParent urls strict uuid draw = .ok draft) : Made unicode endpoints strict uuid draft := by
  unfold advertised at shown
  unfold create newPairingToken at created
  cases normalized : normalizeEndpointUrls urls with
  | error message =>
      rw [normalized] at created
      cases created
  | ok kept =>
      simp only [normalized,bind,Except.bind,pure,Except.pure] at shown created
      rw [shown] at created
      cases created
      exact ⟨shown,rfl,0,draw,fun _ => rfl⟩

theorem create_advertised (created : create unicode destinationParent urls strict uuid draw = .ok draft) :
    ∃ endpoints, advertised unicode urls = .ok endpoints := by
  unfold create newPairingToken at created
  unfold advertised
  cases normalized : normalizeEndpointUrls urls with
  | error message =>
      rw [normalized] at created
      cases created
  | ok kept =>
      simp only [normalized,bind,Except.bind] at created ⊢
      cases read : kept.mapM (endpointFromUrl unicode) with
      | error message =>
          rw [read] at created
          cases created
      | ok endpoints => exact ⟨endpoints,rfl⟩

theorem refresh_made (made : Made unicode endpoints strict uuid draft) (refreshed : Refreshed unicode draft later) :
    Made unicode endpoints strict uuid later := by
  obtain ⟨shown,session,generation,draw,tokens⟩ := made
  obtain ⟨platform,draw',refreshed⟩ := refreshed
  unfold refreshToken newPairingToken at refreshed
  simp only [shown,bind,Except.bind,pure,Except.pure] at refreshed
  cases refreshed
  refine ⟨shown,session,(draft.tokens platform).refreshGeneration+1,draw',fun _ => ?_⟩
  rw [session,tokens platform]
  rfl

theorem made_reached (made : Made unicode endpoints strict uuid draft)
    (path : Relation.ReflTransGen (Refreshed unicode) draft later) : Made unicode endpoints strict uuid later := by
  induction path with
  | refl => exact made
  | tail _ refreshed ih => exact refresh_made ih refreshed

theorem mapM_length {results : List Endpoint} (read : urls.mapM (endpointFromUrl unicode) = .ok results) :
    results.length = urls.length := by
  induction urls generalizing results with
  | nil => cases read; rfl
  | cons url rest ih =>
      rw [List.mapM_cons] at read
      cases first : endpointFromUrl unicode url with
      | error message =>
          rw [first] at read
          cases read
      | ok endpoint =>
          cases others : rest.mapM (endpointFromUrl unicode) with
          | error message =>
              rw [first,others] at read
              cases read
          | ok endpoints =>
              rw [first,others] at read
              cases read
              rw [List.length_cons,List.length_cons,ih others]

theorem advertised_bounds (shown : advertised unicode urls = .ok endpoints) : endpoints ≠ [] ∧ endpoints.length ≤ 5 := by
  unfold advertised normalizeEndpointUrls at shown
  split at shown
  · cases shown
  split at shown
  · cases shown
  · rename_i some
    have counted := mapM_length shown
    obtain ⟨url,rest,rfl⟩ := List.exists_cons_of_ne_nil some
    rw [List.eraseDups_cons,pairingAdvertisedHostLimit,List.take_succ_cons,List.length_cons] at counted
    refine ⟨List.ne_nil_of_length_pos (by omega),?_⟩
    have taken := List.length_take_le 4 (List.filter (fun b => !b == url) rest).eraseDups
    omega

-- A host as the two phones' URL libraries know it: an address, or a name of DNS whose last label
-- is no number and whose encoded labels are ones.
def dnsLabel (idna : Text → Bool) (label : Text) : Bool :=
  label ≠ [] && label.length ≤ 63 && (label.all fun c => c.isAlphanum || c = '-') &&
    label.head? ≠ some '-' && label.getLast? ≠ some '-' && (! ['x','n','-','-'].isPrefixOf label || idna label)

def dnsHost (idna : Text → Bool) (host : Text) : Bool :=
  ((host.splitOn '.').all (dnsLabel idna)) && (((host.splitOn '.').getLast?.bind List.head?).any Char.isAlpha)

def ipv6Host (host : Text) : Bool := ipv6Address host && host.all fun c => Payload.isHexDigit c || c = ':' || c = '.'

def Known (idna : Text → Bool) (endpoint : Endpoint) : Prop :=
  (ipv4Address endpoint.hostname || ipv6Host endpoint.hostname || dnsHost idna endpoint.hostname) = true ∧
    1 ≤ endpoint.port ∧ endpoint.port ≤ 65535

def targetChar (c : Char) : Bool := c.isAlphanum || c = '-' || c = '.' || c = ':' || c = '[' || c = ']'

theorem hex_alphanumeric (hex : Payload.isHexDigit c = true) : c.isAlphanum = true := by
  simp [Payload.isHexDigit,Char.le_def,UInt32.le_iff_toNat_le] at hex
  simp [alphanum_ranges,UInt32.le_iff_toNat_le]
  omega

theorem known_chars {idna : Text → Bool} {endpoint : Endpoint} (known : Known idna endpoint) :
    ∀ c ∈ endpoint.hostname, targetChar c = true := by
  intro c member
  obtain ⟨host,-⟩ := known
  rw [Bool.or_eq_true,Bool.or_eq_true] at host
  rcases host with (address | address) | name
  · rcases mem_splitOn '.' member with rfl | ⟨part,inHost,within⟩
    · decide
    · simp only [ipv4Address,Bool.and_eq_true,List.all_eq_true] at address
      have numeral := address.2 part inHost
      simp only [octet,Bool.and_eq_true,List.all_eq_true] at numeral
      have digit : c.isDigit = true := numeral.1.1.1.2 c within
      simp [targetChar,Char.isAlphanum,digit]
  · simp only [ipv6Host,Bool.and_eq_true,List.all_eq_true,Bool.or_eq_true,decide_eq_true_eq] at address
    rcases address.2 c member with (hex | rfl) | rfl
    · simp [targetChar,hex_alphanumeric hex]
    · decide
    · decide
  · rcases mem_splitOn '.' member with rfl | ⟨part,inHost,within⟩
    · decide
    · simp only [dnsHost,Bool.and_eq_true,List.all_eq_true] at name
      have label := name.1 part inHost
      simp only [dnsLabel,Bool.and_eq_true,List.all_eq_true] at label
      have plain := label.1.1.1.2 c within
      rw [Bool.or_eq_true,decide_eq_true_eq] at plain
      rcases plain with alphanumeric | rfl
      · simp [targetChar,alphanumeric]
      · decide

theorem target_chars {idna : Text → Bool} {endpoint : Endpoint} (known : Known idna endpoint) :
    ∀ c ∈ endpoint.target, targetChar c = true := by
  intro c member
  unfold Endpoint.target at member
  rw [List.mem_append,List.mem_cons] at member
  rcases member with host | rfl | digit
  · split at host
    · rw [List.mem_cons,List.mem_append,List.mem_singleton] at host
      rcases host with rfl | within | rfl
      · decide
      · exact known_chars known c within
      · decide
    · exact known_chars known c host
  · decide
  · have numeral := Nat.isDigit_of_mem_toDigits (by decide) (by decide) digit
    simp [targetChar,Char.isAlphanum,numeral]

end ImageSearch.PairingTokens
