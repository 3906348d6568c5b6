import Mathlib.Data.List.Basic

namespace ImageSearch.Payload

abbrev Bytes := List UInt8

-- An aware datetime normalised to UTC, in microseconds since the epoch. isoformat
-- is injective on these, so a timestamp column holds the instant itself.
abbrev DateTime := Int

-- datetime.min and datetime.max; a conversion that leaves them raises.
def earliest : DateTime := -62135596800000000
def latest : DateTime := 253402300799999999

inductive Json where
  | null
  | bool (value : Bool)
  | int (value : Int)
  | float (text : String)
  | string (value : String)
  | array (items : List Json)
  | object (fields : List (String × Json))

abbrev Fields := List (String × Json)

-- dict.get: an absent field and a null one are both None.
def get (payload : Fields) (fieldName : String) : Json := (payload.lookup fieldName).getD .null

structure OSError where
  message : String
  errno : Option Int
  winerror : Option Int
  -- The errors reached through __cause__ and __context__.
  chained : List (Option Int × Option Int)
  deriving DecidableEq, Repr

inductive Raised where
  | valueError (message : String)
  | typeError
  | overflowError
  | runtimeError (message : String)
  | integrityError
  | osError (error : OSError)
  deriving DecidableEq, Repr

def errnoNoSpace : Int := 28
def errnoCrossDevice : Int := 18
def winerrorDiskFull : Int := 112

def OSError.plain (message : String) : OSError := ⟨message,none,none,[]⟩

-- _is_disk_full_os_error: the error itself or any error it was raised from.
def isDiskFullOsError (error : OSError) : Bool :=
  ((error.errno,error.winerror) :: error.chained).any fun seen =>
    seen.1 == some errnoNoSpace || seen.2 == some winerrorDiskFull

def isSpace (c : Char) : Bool :=
  let n := c.toNat
  (9 ≤ n && n ≤ 13) || (28 ≤ n && n ≤ 32) || n == 0x85 || n == 0xa0 || n == 0x1680 ||
    (0x2000 ≤ n && n ≤ 0x200a) || n == 0x2028 || n == 0x2029 || n == 0x202f || n == 0x205f || n == 0x3000

def stripChars (drop : Char → Bool) (text : List Char) : List Char :=
  ((text.dropWhile drop).reverse.dropWhile drop).reverse

def strip (text : String) : String := String.ofList (stripChars isSpace text.toList)

def isHexDigit (c : Char) : Bool :=
  ('0' ≤ c && c ≤ '9') || ('a' ≤ c && c ≤ 'f') || ('A' ≤ c && c ≤ 'F')

def isSha1Hex (text : String) : Bool := text.toList.length == 40 && text.toList.all isHexDigit

-- str.lower, of the hexadecimal texts it is applied to.
def lower (text : String) : String := String.ofList (text.toList.map Char.toLower)

-- int(2**63) is the first integer that sqlite3 refuses to bind.
def bindsAsInteger (value : Int) : Bool := -9223372036854775808 ≤ value && value ≤ 9223372036854775807

-- What the interpreter's own libraries compute. A digest is forty lower-case
-- hexadecimal digits.
structure Libraries where
  sha1 : Bytes → String
  sha1Digits : ∀ content, ∀ c ∈ (sha1 content).toList, isSpace c = false ∧ c.toLower = c
  sha1Length : ∀ content, (sha1 content).toList.length = 40
  -- base64.urlsafe_b64encode(hmac.new(key, material, sha256).digest()) without padding
  hmacSha256B64 : String → String → String
  -- datetime.fromisoformat, a naive value taken as UTC
  fromisoformat : String → Option DateTime

theorem dropWhile_self {α : Type*} {drop : α → Bool} {text : List α} (kept : ∀ c ∈ text, drop c = false) :
    text.dropWhile drop = text := by
  cases text with
  | nil => rfl
  | cons c rest => simp [kept c (by simp)]

theorem stripChars_self {drop : Char → Bool} {text : List Char} (kept : ∀ c ∈ text, drop c = false) :
    stripChars drop text = text := by
  unfold stripChars
  rw [dropWhile_self kept,dropWhile_self (by simpa using kept),List.reverse_reverse]

theorem normalised_sha1 (lib : Libraries) (content : Bytes) : lower (strip (lib.sha1 content)) = lib.sha1 content := by
  have spaces := fun c member => (lib.sha1Digits content c member).1
  have folded : (lib.sha1 content).toList.map Char.toLower = (lib.sha1 content).toList :=
    (List.map_congr_left fun c member => (lib.sha1Digits content c member).2).trans (List.map_id _)
  simp [lower,strip,stripChars_self spaces,folded]

theorem lower_sha1 (lib : Libraries) (content : Bytes) : lower (lib.sha1 content) = lib.sha1 content := by
  have folded : (lib.sha1 content).toList.map Char.toLower = (lib.sha1 content).toList :=
    (List.map_congr_left fun c member => (lib.sha1Digits content c member).2).trans (List.map_id _)
  simp [lower,folded]

-- _require_non_empty_string of both services: the stripped text, or the message that
-- names the field.
def requireNonEmptyString (payload : Fields) (fieldName : String) : Except Raised String :=
  match get payload fieldName with
  | .string value =>
    if strip value = "" then
      .error (.valueError s!"The transfer request is missing the required field '{fieldName}'.")
    else .ok (strip value)
  | _ => .error (.valueError s!"The transfer request is missing the required field '{fieldName}'.")

def optionalNonEmptyString (payload : Fields) (fieldName : String) : Except Raised (Option String) :=
  match get payload fieldName with
  | .null => .ok none
  | .string value => .ok (if strip value = "" then none else some (strip value))
  | _ => .error (.valueError s!"The transfer request field '{fieldName}' must be a string.")

def requireSha1Hex (payload : Fields) (fieldName : String) : Except Raised String := do
  let fieldValue ← requireNonEmptyString payload fieldName
  if isSha1Hex fieldValue then return lower fieldValue
  throw (.valueError s!"The transfer request field '{fieldName}' must be a SHA-1 hex digest.")

def optionalSha1Hex (payload : Fields) (fieldName : String) : Except Raised (Option String) := do
  let some fieldValue ← optionalNonEmptyString payload fieldName | return none
  if isSha1Hex fieldValue then return some (lower fieldValue)
  throw (.valueError s!"The transfer request field '{fieldName}' must be a SHA-1 hex digest.")

def requireNonNegativeInt (payload : Fields) (fieldName : String) : Except Raised Int :=
  match get payload fieldName with
  | .int value =>
    if value < 0 then
      .error (.valueError s!"The transfer request field '{fieldName}' must be a non-negative integer.")
    else .ok value
  | _ => .error (.valueError s!"The transfer request field '{fieldName}' must be a non-negative integer.")

def optionalNonNegativeInt (payload : Fields) (fieldName : String) : Except Raised (Option Int) :=
  match get payload fieldName with
  | .null => .ok none
  | _ => (requireNonNegativeInt payload fieldName).map some

-- A text that ends in Z is read as one that ends in +00:00. astimezone(utc) raises
-- OverflowError, which is no ValueError, when the instant leaves datetime's range.
def parseOptionalTimestamp (lib : Libraries) : Option String → Except Raised (Option DateTime)
  | none => .ok none
  | some value =>
    let chars := value.toList
    let normalizedValue := if chars.getLast? = some 'Z' then String.ofList chars.dropLast ++ "+00:00" else value
    match lib.fromisoformat normalizedValue with
    | none => .error (.valueError s!"The transfer request field contains an invalid timestamp '{value}'.")
    | some instant => if earliest ≤ instant ∧ instant ≤ latest then .ok (some instant) else .error .overflowError

def requireTimestamp (lib : Libraries) (payload : Fields) (fieldName : String) : Except Raised DateTime := do
  let fieldValue ← requireNonEmptyString payload fieldName
  let some parsedValue ← parseOptionalTimestamp lib (some fieldValue)
    | throw (.valueError s!"The transfer request is missing the required field '{fieldName}'.")
  return parsedValue

theorem bind_parts {ε α β : Type} {first : Except ε α} {rest : α → Except ε β} {value : β}
    (done : (first >>= rest) = .ok value) : ∃ middle, first = .ok middle ∧ rest middle = .ok value := by
  cases first with
  | error raised => cases done
  | ok middle => exact ⟨middle,rfl,done⟩

theorem bind_raises {ε α β : Type} {first : Except ε α} {rest : α → Except ε β} {error : ε}
    (failed : (first >>= rest) = .error error) :
    first = .error error ∨ ∃ middle, first = .ok middle ∧ rest middle = .error error := by
  cases first with
  | error raised => cases failed; exact .inl rfl
  | ok middle => exact .inr ⟨middle,rfl,failed⟩

theorem hexDigit_lower (c : Char) (digit : isHexDigit c = true) :
    isSpace c.toLower = false ∧ c.toLower.toLower = c.toLower := by
  have table : ∀ n < 128, isHexDigit (Char.ofNat n) = true →
      isSpace (Char.ofNat n).toLower = false ∧ (Char.ofNat n).toLower.toLower = (Char.ofNat n).toLower := by decide
  have ascii : c.toNat < 128 := by
    simp only [isHexDigit,Bool.or_eq_true,Bool.and_eq_true,decide_eq_true_eq,Char.le_def] at digit
    simp only [UInt32.le_iff_toNat_le] at digit
    have bound : c.val.toNat < 128 := by
      rcases digit with (⟨-,le⟩ | ⟨-,le⟩) | ⟨-,le⟩ <;> exact Nat.lt_of_le_of_lt le (by decide)
    exact bound
  simpa [Char.ofNat_toNat] using table c.toNat ascii (by simpa [Char.ofNat_toNat] using digit)

-- A digest a request declares is lower case already, and has nothing to strip.
theorem declared_normal {text : String} (hex : isSha1Hex text = true) :
    lower (lower text) = lower text ∧ lower (strip (lower text)) = lower text := by
  have digits : ∀ c ∈ text.toList, isHexDigit c = true :=
    List.all_eq_true.mp (Bool.and_eq_true_iff.mp hex).2
  have folded : ((text.toList.map Char.toLower).map Char.toLower) = text.toList.map Char.toLower := by
    rw [List.map_map]
    exact List.map_congr_left fun c member => (hexDigit_lower c (digits c member)).2
  have spaces : ∀ c ∈ text.toList.map Char.toLower, isSpace c = false := by
    intro c member
    obtain ⟨old,present,rfl⟩ := List.mem_map.mp member
    exact (hexDigit_lower old (digits old present)).1
  simp only [lower,strip,String.toList_ofList,stripChars_self spaces,folded,and_self]

theorem optionalSha1_normal {payload : Fields} {fieldName digest : String}
    (parsed : optionalSha1Hex payload fieldName = .ok (some digest)) :
    lower digest = digest ∧ lower (strip digest) = digest := by
  unfold optionalSha1Hex at parsed
  obtain ⟨value,-,parsed⟩ := bind_parts parsed
  cases value with
  | none => cases parsed
  | some text =>
      simp only at parsed
      split at parsed
      · rename_i hex
        cases parsed
        exact declared_normal hex
      · cases parsed

theorem requireSha1_normal {payload : Fields} {fieldName digest : String}
    (parsed : requireSha1Hex payload fieldName = .ok digest) : lower (strip digest) = digest := by
  unfold requireSha1Hex at parsed
  obtain ⟨text,-,parsed⟩ := bind_parts parsed
  split at parsed
  · rename_i hex
    cases parsed
    exact (declared_normal hex).2
  · cases parsed

end ImageSearch.Payload
