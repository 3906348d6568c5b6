import ImageSearch.BackupFolder

namespace ImageSearch.IsoTimestamps
open Payload BackupFolder

def decimal : Nat → Nat → List Char
  | 0,_ => []
  | width+1,n => Nat.digitChar (n / 10 ^ width) :: decimal width (n % 10 ^ width)

def digitValue (c : Char) : Nat := c.toNat - 48

def readDecimal : Nat → Nat → List Char → Option (Nat × List Char)
  | 0,value,rest => some (value,rest)
  | _+1,_,[] => none
  | width+1,value,c :: rest => if c.isDigit then readDecimal width (10 * value + digitValue c) rest else none

def expect (c : Char) : List Char → Option (List Char)
  | [] => none
  | head :: rest => if head = c then some rest else none

theorem digitChar_value : ∀ d < 10, (Nat.digitChar d).isDigit = true ∧ digitValue (Nat.digitChar d) = d := by
  decide

theorem read_decimal (width : Nat) (rest : List Char) : ∀ n < 10 ^ width, ∀ value,
    readDecimal width value (decimal width n ++ rest) = some (value * 10 ^ width + n,rest) := by
  induction width with
  | zero =>
      intro n small value
      have zero : n = 0 := by omega
      simp [decimal,readDecimal,zero]
  | succ width ih =>
      intro n small value
      have digit : n / 10 ^ width < 10 := Nat.div_lt_of_lt_mul (by rwa [Nat.pow_succ] at small)
      obtain ⟨isDigit,valued⟩ := digitChar_value _ digit
      have lower := ih (n % 10 ^ width) (Nat.mod_lt _ (by positivity)) (10 * value + n / 10 ^ width)
      rw [decimal,List.cons_append,readDecimal,if_pos isDigit,valued,lower]
      congr 2
      calc (10 * value + n / 10 ^ width) * 10 ^ width + n % 10 ^ width
          = value * 10 ^ (width + 1) + (10 ^ width * (n / 10 ^ width) + n % 10 ^ width) := by ring
        _ = value * 10 ^ (width + 1) + n := by rw [Nat.div_add_mod]

inductive Precision where
  | minutes
  | seconds (second : Nat)
  | fraction (second : Nat) (digits : List Nat)
  deriving DecidableEq, Repr

inductive Zone where
  | naive
  | zulu
  | offset (ahead : Bool) (hours minutes : Nat)
  deriving DecidableEq, Repr

def Precision.chars : Precision → List Char
  | .minutes => []
  | .seconds second => ':' :: decimal 2 second
  | .fraction second digits => ':' :: decimal 2 second ++ '.' :: digits.map Nat.digitChar

def Precision.microseconds : Precision → Nat
  | .minutes => 0
  | .seconds second => second * 1000000
  | .fraction second digits =>
    second * 1000000 + ((digits ++ List.replicate 6 0).take 6).foldl (fun value digit => 10 * value + digit) 0

def Precision.valid : Precision → Bool
  | .minutes => true
  | .seconds second => second < 60
  | .fraction second digits => second < 60 && digits ≠ [] && digits.all fun digit => digit < 10

def Zone.chars : Zone → List Char
  | .naive => []
  | .zulu => ['Z']
  | .offset ahead hours minutes => (if ahead then '+' else '-') :: decimal 2 hours ++ ':' :: decimal 2 minutes

def Zone.valid : Zone → Bool
  | .naive | .zulu => true
  | .offset _ hours minutes => hours < 24 && minutes < 60

-- _utc_now: a naive time is taken as UTC, an aware one is moved to it.
def utcNow (wall : Int) : Zone → DateTime
  | .naive | .zulu => wall
  | .offset true hours minutes => wall - (hours * 60 + minutes) * 60000000
  | .offset false hours minutes => wall + (hours * 60 + minutes) * 60000000

def daysFromCivil (year month day : Nat) : Int :=
  let marchYear : Int := if month ≤ 2 then year - 1 else year
  let era := marchYear.fdiv 400
  let yearOfEra := marchYear - era * 400
  let marchMonth : Int := if month ≤ 2 then month + 9 else month - 3
  let dayOfYear := (153 * marchMonth + 2) / 5 + day - 1
  era * 146097 + yearOfEra * 365 + yearOfEra / 4 - yearOfEra / 100 + dayOfYear - 719468

def daysInMonth (year month : Nat) : Nat :=
  if month = 2 then (if year % 4 = 0 ∧ (year % 100 ≠ 0 ∨ year % 400 = 0) then 29 else 28)
  else if month = 4 ∨ month = 6 ∨ month = 9 ∨ month = 11 then 30 else 31

structure Stated where
  year : Nat
  month : Nat
  day : Nat
  hour : Nat
  minute : Nat
  precision : Precision
  zone : Zone

def Stated.valid (stated : Stated) : Bool :=
  1 ≤ stated.year && stated.year ≤ 9999 && 1 ≤ stated.month && stated.month ≤ 12 && 1 ≤ stated.day &&
    stated.day ≤ daysInMonth stated.year stated.month && stated.hour < 24 && stated.minute < 60 &&
    stated.precision.valid && stated.zone.valid

def Stated.chars (stated : Stated) : List Char :=
  decimal 4 stated.year ++ '-' :: (decimal 2 stated.month ++ '-' :: (decimal 2 stated.day ++ 'T' ::
    (decimal 2 stated.hour ++ ':' :: (decimal 2 stated.minute ++ (stated.precision.chars ++ stated.zone.chars)))))

def Stated.instant (stated : Stated) : DateTime :=
  utcNow ((daysFromCivil stated.year stated.month stated.day * 1440 + stated.hour * 60 + stated.minute) * 60000000 +
    stated.precision.microseconds) stated.zone

structure Spelling extends Stated where
  wellFormed : toStated.valid = true

def Spelling.text (spelling : Spelling) : String := String.ofList spelling.chars

def readPrecision (chars : List Char) : Option (Precision × List Char) :=
  match chars with
  | ':' :: rest => do
    let (second,rest) ← readDecimal 2 0 rest
    match rest with
    | '.' :: more => some (.fraction second ((more.takeWhile Char.isDigit).map digitValue),more.dropWhile Char.isDigit)
    | _ => some (.seconds second,rest)
  | _ => some (.minutes,chars)

def readZone : List Char → Option Zone
  | [] => some .naive
  | ['Z'] => some .zulu
  | sign :: rest => do
    let ahead ← if sign = '+' then some true else if sign = '-' then some false else none
    let (hours,rest) ← readDecimal 2 0 rest
    let rest ← expect ':' rest
    let (minutes,rest) ← readDecimal 2 0 rest
    if rest = [] then some (.offset ahead hours minutes) else none

def readStated (chars : List Char) : Option Stated := do
  let (year,rest) ← readDecimal 4 0 chars
  let rest ← expect '-' rest
  let (month,rest) ← readDecimal 2 0 rest
  let rest ← expect '-' rest
  let (day,rest) ← readDecimal 2 0 rest
  let rest ← expect 'T' rest
  let (hour,rest) ← readDecimal 2 0 rest
  let rest ← expect ':' rest
  let (minute,rest) ← readDecimal 2 0 rest
  let (precision,rest) ← readPrecision rest
  let zone ← readZone rest
  some {year,month,day,hour,minute,precision,zone}

-- datetime.fromisoformat on the extended format, with _utc_now applied to what it reads.
def fromisoformat (text : String) : Option DateTime :=
  ((readStated text.toList).filter Stated.valid).map Stated.instant

example : civilDate (daysFromCivil 2024 2 29) = (2024,2,29) := by decide
example : fromisoformat "2024-01-01T02:30:00.000+02:30" = some 1704067200000000 := by decide

-- What follows a time begins neither with a colon nor as a fraction goes on.
theorem zone_head (zone : Zone) {c : Char} (first : zone.chars.head? = some c) :
    c.isDigit = false ∧ c ≠ '.' ∧ c ≠ ':' := by
  cases zone with
  | naive => cases first
  | zulu => cases first; decide
  | offset ahead hours minutes => cases ahead <;> cases first <;> decide

theorem takeWhile_digits {digits rest : List Char} (digit : ∀ c ∈ digits, c.isDigit = true)
    (apart : ∀ c, rest.head? = some c → c.isDigit = false) :
    (digits ++ rest).takeWhile Char.isDigit = digits ∧ (digits ++ rest).dropWhile Char.isDigit = rest := by
  have stops : rest.takeWhile Char.isDigit = [] ∧ rest.dropWhile Char.isDigit = rest := by
    cases rest with
    | nil => exact ⟨rfl,rfl⟩
    | cons c others => simp [apart c rfl]
  rw [List.takeWhile_append_of_pos digit,List.dropWhile_append_of_pos digit,stops.1,stops.2,List.append_nil]
  exact ⟨rfl,rfl⟩

theorem read_precision {precision : Precision} (valid : precision.valid = true) (zone : Zone) :
    readPrecision (precision.chars ++ zone.chars) = some (precision,zone.chars) := by
  cases precision with
  | minutes =>
      unfold readPrecision Precision.chars
      rw [List.nil_append]
      split
      · rename_i rest starts
        exact absurd rfl (zone_head zone (by rw [starts]; rfl)).2.2
      · rfl
  | seconds second =>
      have small : second < 60 := by simpa [Precision.valid] using valid
      simp only [Precision.chars,List.cons_append,readPrecision,
        read_decimal 2 zone.chars second (by omega) 0,Option.bind_eq_bind,Option.bind_some,Nat.zero_mul,Nat.zero_add]
      split
      · rename_i rest starts
        exact absurd rfl (zone_head zone (by rw [starts]; rfl)).2.1
      · rfl
  | fraction second digits =>
      simp only [Precision.valid,Bool.and_eq_true,decide_eq_true_eq,List.all_eq_true] at valid
      obtain ⟨⟨small,-⟩,below⟩ := valid
      have digit : ∀ c ∈ digits.map Nat.digitChar, c.isDigit = true := by
        intro c member
        obtain ⟨d,there,rfl⟩ := List.mem_map.mp member
        exact (digitChar_value d (below d there)).1
      obtain ⟨taken,left⟩ := takeWhile_digits digit fun c first => (zone_head zone first).1
      have valued : (digits.map Nat.digitChar).map digitValue = digits := by
        rw [List.map_map]
        exact (List.map_congr_left fun d there => (digitChar_value d (below d there)).2).trans (List.map_id _)
      simp only [Precision.chars,List.cons_append,List.append_assoc,readPrecision,
        read_decimal 2 ('.' :: (digits.map Nat.digitChar ++ zone.chars)) second (by omega) 0,Option.bind_eq_bind,
        Option.bind_some,Nat.zero_mul,Nat.zero_add,taken,left,valued]

theorem read_zone {zone : Zone} (valid : zone.valid = true) : readZone zone.chars = some zone := by
  cases zone with
  | naive => rfl
  | zulu => rfl
  | offset ahead hours minutes =>
      have small : hours < 24 ∧ minutes < 60 := by simpa [Zone.valid] using valid
      have last := read_decimal 2 [] minutes (by omega) 0
      rw [List.append_nil] at last
      cases ahead <;>
        simp [Zone.chars,readZone,read_decimal 2 (':' :: decimal 2 minutes) hours (by omega) 0,expect,last]

theorem stated_fits {stated : Stated} (valid : stated.valid = true) :
    stated.year < 10 ^ 4 ∧ stated.month < 10 ^ 2 ∧ stated.day < 10 ^ 2 ∧ stated.hour < 10 ^ 2 ∧ stated.minute < 10 ^ 2 ∧
      stated.precision.valid = true ∧ stated.zone.valid = true := by
  simp only [Stated.valid,Bool.and_eq_true,decide_eq_true_eq] at valid
  obtain ⟨⟨⟨⟨⟨⟨⟨⟨⟨-,year⟩,-⟩,month⟩,-⟩,day⟩,hour⟩,minute⟩,precise⟩,zoned⟩ := valid
  have days : daysInMonth stated.year stated.month ≤ 31 := by
    unfold daysInMonth
    split <;> split <;> omega
  refine ⟨?_,?_,?_,?_,?_,precise,zoned⟩ <;> omega

theorem read_stated {stated : Stated} (valid : stated.valid = true) : readStated stated.chars = some stated := by
  obtain ⟨year,month,day,hour,minute,precise,zoned⟩ := stated_fits valid
  unfold readStated Stated.chars
  simp only [read_decimal 4 _ _ year 0,read_decimal 2 _ _ month 0,read_decimal 2 _ _ day 0,read_decimal 2 _ _ hour 0,
    read_decimal 2 _ _ minute 0,read_precision precise,read_zone zoned,expect,Option.bind_eq_bind,Option.bind_some,
    if_true,Nat.zero_mul,Nat.zero_add]

theorem decimal_digits {width n : Nat} (small : n < 10 ^ width) {c : Char} (member : c ∈ decimal width n) :
    c.isDigit = true := by
  induction width generalizing n with
  | zero => cases member
  | succ width ih =>
      rcases List.mem_cons.mp member with rfl | later
      · exact (digitChar_value _ (Nat.div_lt_of_lt_mul (by rwa [Nat.pow_succ] at small))).1
      · exact ih (Nat.mod_lt _ (by positivity)) later

theorem decimal_zless {width n : Nat} (small : n < 10 ^ width) : 'Z' ∉ decimal width n := by
  intro member
  exact absurd (decimal_digits small member) (by decide)

theorem precision_zless {precision : Precision} (valid : precision.valid = true) : 'Z' ∉ precision.chars := by
  cases precision with
  | minutes => exact List.not_mem_nil
  | seconds second =>
      have small : second < 60 := by simpa [Precision.valid] using valid
      simp [Precision.chars,decimal_zless (show second < 10 ^ 2 by omega)]
  | fraction second digits =>
      simp only [Precision.valid,Bool.and_eq_true,decide_eq_true_eq,List.all_eq_true] at valid
      obtain ⟨⟨small,-⟩,below⟩ := valid
      have digit : 'Z' ∉ digits.map Nat.digitChar := by
        intro member
        obtain ⟨d,there,same⟩ := List.mem_map.mp member
        have isDigit := (digitChar_value d (below d there)).1
        rw [same] at isDigit
        exact absurd isDigit (by decide)
      simp only [Precision.chars,List.mem_cons,List.mem_append,not_or]
      exact ⟨⟨by decide,decimal_zless (by omega)⟩,by decide,digit⟩

-- Only the zone can bring the letter that _parse_optional_timestamp rewrites.
theorem stated_zless {stated : Stated} (valid : stated.valid = true) (zone : stated.zone ≠ .zulu) :
    'Z' ∉ stated.chars := by
  obtain ⟨year,month,day,hour,minute,precise,zoned⟩ := stated_fits valid
  have last : 'Z' ∉ stated.zone.chars := by
    cases named : stated.zone with
    | naive => exact List.not_mem_nil
    | zulu => exact absurd named zone
    | offset ahead hours minutes =>
        have small : hours < 24 ∧ minutes < 60 := by simpa [Zone.valid,named] using zoned
        cases ahead <;> simp [Zone.chars,decimal_zless (show hours < 10 ^ 2 by omega),
          decimal_zless (show minutes < 10 ^ 2 by omega)]
  simp [Stated.chars,decimal_zless year,decimal_zless month,decimal_zless day,decimal_zless hour,
    decimal_zless minute,precision_zless precise,last]

-- What datetime.fromisoformat makes of a spelling, if it reads it, is the instant: an
-- interpreter may refuse a spelling, and none reads another instant out of it.
def ReadsSpellings (lib : Libraries) : Prop :=
  ∀ spelling : Spelling, spelling.zone ≠ .zulu → ∀ instant, lib.fromisoformat spelling.text = some instant →
    instant = spelling.instant

def Spelling.written (spelling : Spelling) : Spelling :=
  {spelling with
    zone:=.offset true 0 0
    wellFormed:=by
      have valid := spelling.wellFormed
      simp only [Stated.valid,Bool.and_eq_true] at valid ⊢
      exact ⟨valid.1,rfl⟩}

theorem zulu_written {spelling : Spelling} (zulu : spelling.zone = .zulu) : spelling.chars.getLast? = some 'Z' ∧
    String.ofList spelling.chars.dropLast ++ "+00:00" = spelling.written.text ∧
    spelling.written.instant = spelling.instant := by
  obtain ⟨base,ends,written⟩ : ∃ base, spelling.chars = base ++ ['Z'] ∧ spelling.written.chars = base ++ "+00:00".toList := by
    refine ⟨decimal 4 spelling.year ++ '-' :: (decimal 2 spelling.month ++ '-' :: (decimal 2 spelling.day ++ 'T' ::
      (decimal 2 spelling.hour ++ ':' :: (decimal 2 spelling.minute ++ spelling.precision.chars)))),?_,?_⟩
    · simp [Stated.chars,zulu,Zone.chars]
    · simp [Stated.chars,Spelling.written,Zone.chars,decimal]
  refine ⟨by rw [ends]; simp,?_,?_⟩
  · rw [Spelling.text,ends,written,List.dropLast_concat,String.ofList_append]
    simp
  · simp [Stated.instant,Spelling.written,zulu,utcNow]

theorem instant_accepted {lib : Libraries} {value said : String} {instant : DateTime}
    (done : (match lib.fromisoformat value with
      | none => .error (.valueError said)
      | some read => if earliest ≤ read ∧ read ≤ latest then .ok (some read) else .error .overflowError :
        Except Raised (Option DateTime)) = .ok (some instant)) : lib.fromisoformat value = some instant := by
  split at done
  · cases done
  · rename_i read found
    split at done
    · cases done
      exact found
    · cases done

theorem spelled_timestamp {lib : Libraries} (reads : ReadsSpellings lib) {spelling : Spelling} {instant : DateTime}
    (parsed : parseOptionalTimestamp lib (some spelling.text) = .ok (some instant)) : instant = spelling.instant := by
  have text : spelling.text.toList = spelling.chars := String.toList_ofList
  unfold parseOptionalTimestamp at parsed
  dsimp only at parsed
  by_cases zulu : spelling.zone = .zulu
  · obtain ⟨last,normalized,same⟩ := zulu_written zulu
    rw [text,if_pos last,normalized] at parsed
    rw [← same]
    exact reads spelling.written (fun never => by cases never) _ (instant_accepted parsed)
  · have other : spelling.text.toList.getLast? ≠ some 'Z' := by
      rw [text]
      exact fun last => stated_zless spelling.wellFormed zulu (List.mem_of_getLast? last)
    rw [if_neg other] at parsed
    exact reads spelling zulu _ (instant_accepted parsed)

theorem reads_spelling (spelling : Spelling) : fromisoformat spelling.text = some spelling.instant := by
  simp [fromisoformat,Spelling.text,read_stated spelling.wellFormed,spelling.wellFormed]

end ImageSearch.IsoTimestamps
