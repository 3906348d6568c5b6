import ImageSearch.Payload
import ImageSearch.Threads

namespace ImageSearch.FeatureFlags
open Payload Transitions Threads

inductive Flag where
  | mobileFolder | encryption | strictSecurity | instantShare | desktopRootTraceSampleRate | version
  deriving DecidableEq, Repr

def Flag.key : Flag → String
  | .mobileFolder => "mobile_folder"
  | .encryption => "encryption"
  | .strictSecurity => "strict_security"
  | .instantShare => "instant_share"
  | .desktopRootTraceSampleRate => "desktop_root_trace_sample_rate"
  | .version => "version"

def remoteFeatureDefinitions : List Flag :=
  [.mobileFolder,.encryption,.strictSecurity,.instantShare,.desktopRootTraceSampleRate,.version]

structure DesktopVersionFlag where
  minVersion : String
  required : Bool
  deriving DecidableEq, Repr

inductive FlagValue (Rate : Type) where
  | enabled (value : Bool)
  | sampleRate (rate : Rate)
  | version (flag : DesktopVersionFlag)
  deriving DecidableEq, Repr

structure Numerals (Rate : Type) where
  truth : String → Bool
  toSampleRate : Json → Except Raised (Option Rate)
  defaultRate : Rate
  isDigit : Char → Bool
  isDecimal : Char → Bool

variable {Rate : Type} (numerals : Numerals Rate)

def trueTexts : List String := ["1","true","yes","on"]
def falseTexts : List String := ["0","false","no","off"]

def toOptionalBool : Json → Option Bool
  | .bool value => some value
  | .int value => some (value != 0)
  | .float text => some (numerals.truth text)
  | .string value =>
    if lower (strip value) ∈ trueTexts then some true else if lower (strip value) ∈ falseTexts then some false else none
  | _ => none

def toBool (value : Json) : Bool := (toOptionalBool numerals value).getD false

-- int() refuses other digits, and texts of more than 4300 of them.
def reads (digits : List Char) : Bool := digits.all numerals.isDecimal && digits.length ≤ 4300

-- _parse_semantic_version, of which only whether it is None is used here.
def parsesParts : List (List Char) → Except Raised Bool
  | [] => .ok true
  | part :: parts =>
    let digits := part.takeWhile numerals.isDigit
    if digits = [] then .ok false
    else if reads numerals digits then parsesParts parts
    else .error (.valueError "invalid literal for int()")

def parsesSemanticVersion (version : String) : Except Raised Bool :=
  if strip version = "" then .ok false
  else parsesParts numerals ((strip version).toList.splitOn '.')

def objectAt (payload : Fields) (fieldName : String) : Option Fields :=
  match get payload fieldName with
  | .object fields => some fields
  | _ => none

def extractEnabled (flag : Flag) (payload : Fields) : Option (FlagValue Rate) := do
  let fields ← objectAt payload flag.key
  let value ← fields.lookup "enabled"
  return .enabled (toBool numerals value)

def extractDesktopRootTraceSampleRate (payload : Fields) : Except Raised (Option (FlagValue Rate)) :=
  match (objectAt payload "desktop").bind fun desktop => (objectAt desktop "telemetry").bind fun telemetry =>
      telemetry.lookup "root_trace_sample_rate" with
  | none => .ok none
  | some value => (numerals.toSampleRate value).map fun rate => rate.map .sampleRate

def extractVersionFlag (payload : Fields) : Except Raised (Option (FlagValue Rate)) :=
  match objectAt payload "version" with
  | none => .ok none
  | some fields => match get fields "min" with
    | .string minimumVersion =>
      if strip minimumVersion = "" then .ok none
      else (parsesSemanticVersion numerals (strip minimumVersion)).map fun parses =>
        if parses then ((fields.lookup "required").bind (toOptionalBool numerals)).map fun required =>
          .version ⟨strip minimumVersion,required⟩
        else none
    | _ => .ok none

def extractor (payload : Fields) : Flag → Except Raised (Option (FlagValue Rate))
  | .desktopRootTraceSampleRate => extractDesktopRootTraceSampleRate numerals payload
  | .version => extractVersionFlag numerals payload
  | flag => .ok (extractEnabled numerals flag payload)

-- The flags' local defaults; `config` is what dts_config says of the four switches.
def defaultFactory (config : Flag → Bool) : Flag → Option (FlagValue Rate)
  | .desktopRootTraceSampleRate => some (.sampleRate numerals.defaultRate)
  | .version => none
  | flag => some (.enabled (config flag))

-- _FeatureFlagStore. Ghosts are what reads returned, and the values that refreshes put
-- in for flags nobody had read.
structure FeatureFlagStore (Rate : Type) where
  values : Flag → Option (Option (FlagValue Rate)) := fun _ => none
  returned : List (Flag × Option (FlagValue Rate)) := []
  delivered : List (Flag × FlagValue Rate) := []

variable (w : FeatureFlagStore Rate)

def FeatureFlagStore.put (flag : Flag) (value : Option (FlagValue Rate)) : FeatureFlagStore Rate :=
  {w with values:=Function.update w.values flag (some value)}

def FeatureFlagStore.return_ (flag : Flag) (value : Option (FlagValue Rate)) : FeatureFlagStore Rate :=
  {w with returned:=(flag,value) :: w.returned}

-- _resolve_value holds the lock throughout; `cached` is the payload that the file gives,
-- which another thread may be writing. A raise leaves the store alone.
def FeatureFlagStore.resolveValue (flag : Flag) (cached : Option Fields) (config : Flag → Bool) : FeatureFlagStore Rate :=
  match w.values flag with
  | some value => w.return_ flag value
  | none => match cached.elim (.ok none) fun payload => extractor numerals payload flag with
    | .error _ => w
    | .ok (some value) => (w.put flag (some value)).return_ flag (some value)
    | .ok none =>
      (w.put flag (defaultFactory numerals config flag)).return_ flag (defaultFactory numerals config flag)

def FeatureFlagStore.refresh (remote : Flag → Option (FlagValue Rate)) : FeatureFlagStore Rate :=
  {w with
    values:=fun flag => match remote flag,(w.values flag).join with
      | some value,none => some (some value)
      | _,_ => w.values flag
    delivered:=(remoteFeatureDefinitions.filterMap fun flag =>
      if (w.values flag).join = none ∧ flag ∉ w.returned.map Prod.fst then (remote flag).map fun value => (flag,value)
      else none) ++ w.delivered}

inductive Worker (Rate : Type) where
  | idle
  | applying (remote : Flag → Option (FlagValue Rate))

inductive Input where
  | read (flag : Flag) (cached : Option Fields) (config : Flag → Bool)
  | fetched (payload : Fields)
  | proceed

-- resolved_remote_values; one extractor that raises ends the refresh.
def remoteValues (payload : Fields) : Option (Flag → Option (FlagValue Rate)) :=
  if remoteFeatureDefinitions.all fun flag => (extractor numerals payload flag).isOk then
    some fun flag => (extractor numerals payload flag).toOption.join
  else none

def stepFlags (w : FeatureFlagStore Rate) : Worker Rate → Input → Option (FeatureFlagStore Rate × Worker Rate)
  | .idle,.read flag cached config => some (w.resolveValue numerals flag cached config,.idle)
  | .idle,.fetched payload => some (w,((remoteValues numerals payload).map .applying).getD .idle)
  | .applying remote,.proceed => some (w.refresh remote,.idle)
  | _,_ => none

section Steady
variable {numerals} {w w' : FeatureFlagStore Rate} {t t' : Worker Rate} {input : Input} {flag : Flag}
  {value : Option (FlagValue Rate)}

-- No refresh brings a version flag once a read has found none.
def keepsVersion (w : FeatureFlagStore Rate) : Worker Rate → Input → Bool
  | .applying remote,.proceed => (remote .version).isNone || !(w.values .version).any Option.isNone
  | _,_ => true

def settled : Condition (FeatureFlagStore Rate) (Worker Rate) Input Unit where
  own w t input := keepsVersion w t input = true

structure Steady (w : FeatureFlagStore Rate) : Prop where
  returned : ∀ entry ∈ w.returned, w.values entry.1 = some entry.2
  delivered : ∀ entry ∈ w.delivered, w.values entry.1 = some (some entry.2)
  resolved : ∀ flag, w.values flag = some none → flag = .version

theorem default_some {config : Flag → Bool} (none_ : defaultFactory numerals config flag = none) : flag = .version := by
  cases flag with
  | version => rfl
  | mobileFolder => cases none_
  | encryption => cases none_
  | strictSecurity => cases none_
  | instantShare => cases none_
  | desktopRootTraceSampleRate => cases none_

theorem steady_return (steady : Steady w) (here : w.values flag = some value) : Steady (w.return_ flag value) := by
  refine ⟨fun entry there => ?_,steady.delivered,steady.resolved⟩
  rcases List.mem_cons.mp there with rfl | before
  · exact here
  · exact steady.returned entry before

theorem steady_put (steady : Steady w) (new : w.values flag = none) (some_ : value = none → flag = .version) :
    Steady (w.put flag value) := by
  have kept : ∀ other held, w.values other = some held → (w.put flag value).values other = some held := by
    intro other held here
    have different : other ≠ flag := by
      intro same
      rw [same,new] at here
      cases here
    exact (Function.update_of_ne different _ _).trans here
  refine ⟨fun entry there => kept _ _ (steady.returned entry there),fun entry there => kept _ _ (steady.delivered entry there),
    fun other none_ => ?_⟩
  by_cases same : other = flag
  · subst same
    have held : (w.put other value).values other = some value := Function.update_self ..
    rw [held] at none_
    exact some_ (Option.some.inj none_)
  · have held : (w.put flag value).values other = w.values other := Function.update_of_ne same _ _
    rw [held] at none_
    exact steady.resolved other none_

theorem steady_resolve (steady : Steady w) (flag : Flag) (cached : Option Fields) (config : Flag → Bool) :
    Steady (w.resolveValue numerals flag cached config) := by
  unfold FeatureFlagStore.resolveValue
  have put : ∀ value, (w.put flag value).values flag = some value := fun value => Function.update_self ..
  split
  · rename_i here
    exact steady_return steady here
  · rename_i new
    split
    · exact steady
    · exact steady_return (steady_put steady new fun none_ => (nomatch none_)) (put _)
    · exact steady_return (steady_put steady new default_some) (put _)

theorem steady_refresh {remote : Flag → Option (FlagValue Rate)} (steady : Steady w)
    (kept : keepsVersion w (.applying remote) .proceed = true) : Steady (w.refresh remote) := by
  have same : ∀ flag held, w.values flag = some (some held) → (w.refresh remote).values flag = some (some held) := by
    intro flag held here
    simp only [FeatureFlagStore.refresh,here,Option.join_some]
    split
    · rename_i second
      cases second
    · rfl
  have none_ : ∀ flag, w.values flag = some none → (w.refresh remote).values flag = some none := by
    intro flag here
    have version := steady.resolved flag here
    subst version
    have nothing : remote .version = none := by simpa [keepsVersion,here] using kept
    simp only [FeatureFlagStore.refresh,nothing,here]
  have keeps : ∀ flag held, w.values flag = some held → (w.refresh remote).values flag = some held := by
    intro flag held here
    cases held with
    | none => exact none_ flag here
    | some held => exact same flag held here
  refine ⟨fun entry there => keeps _ _ (steady.returned entry there),fun entry there => ?_,fun flag here => ?_⟩
  · rcases List.mem_append.mp there with new | before
    · obtain ⟨flag,-,put⟩ := List.mem_filterMap.mp new
      split at put
      · rename_i unread
        obtain ⟨value,delivers,rfl⟩ := Option.map_eq_some_iff.mp put
        simp only [FeatureFlagStore.refresh,unread.1,delivers]
      · cases put
    · exact keeps _ _ (steady.delivered entry before)
  · by_contra other
    simp only [FeatureFlagStore.refresh] at here
    split at here
    · cases here
    · exact other (steady.resolved flag here)

theorem step_steady (steady : Steady w) (kept : keepsVersion w t input = true)
    (taken : stepFlags numerals w t input = some (w',t')) : Steady w' := by
  unfold stepFlags at taken
  split at taken
  · cases taken
    exact steady_resolve steady _ _ _
  · cases taken
    exact steady
  · cases taken
    exact steady_refresh steady kept
  · cases taken

end Steady

section Runs
variable {Index : Type} [DecidableEq Index] {s : Pool Index (FeatureFlagStore Rate) (Worker Rate)}

def featureFlags (numerals : Numerals Rate) : System (Pool Index (FeatureFlagStore Rate) (Worker Rate)) (Move Index Input Unit) :=
  pool (stepFlags numerals) fun _ _ => none

def created : Pool Index (FeatureFlagStore Rate) (Worker Rate) := ⟨{},fun _ => .idle⟩

theorem flags_steady : @Stable _ _ _ Unit {world:=Steady} (stepFlags numerals) (fun _ _ => none) settled where
  own world _ kept taken := ⟨step_steady world kept taken,trivial⟩
  other _ _ _ _ _ _ _ _ := ⟨trivial,trivial,trivial⟩
  eventWorld _ taken := nomatch taken
  eventThread _ _ _ taken := nomatch taken

theorem reads_agree (numerals : Numerals Rate) (reached : Reaches (featureFlags numerals) settled.Admits created s) :
    (∀ one ∈ s.world.returned, ∀ other ∈ s.world.returned, one.1 = other.1 → one.2 = other.2) ∧
    ∀ applied ∈ s.world.delivered, ∀ entry ∈ s.world.returned, entry.1 = applied.1 → entry.2 = some applied.2 := by
  have start : Assertions.Hold {world:=Steady} (created : Pool Index (FeatureFlagStore Rate) (Worker Rate)) :=
    ⟨⟨fun _ there => (nomatch there),fun _ there => (nomatch there),fun _ none_ => (nomatch none_)⟩,fun _ => trivial,
      fun _ _ _ => trivial⟩
  obtain ⟨returned,delivered,-⟩ := (hold_reaches (flags_steady numerals) start reached).world
  constructor
  · intro one first other second same
    have here := returned one first
    rw [same,returned other second] at here
    exact (Option.some.inj here).symm
  · intro applied there entry read same
    have here := returned entry read
    rw [same,delivered applied there] at here
    exact (Option.some.inj here).symm

end Runs

def plainNumerals : Numerals Unit := ⟨fun _ => true,fun _ => .ok none,(),Char.isDigit,Char.isDigit⟩

def remotePayload : Fields := [("mobile_folder",.object [("enabled",.bool false)]),
  ("version",.object [("min",.string "1.2"),("required",.bool true)])]

def readAlone (flag : Flag) : Move (Fin 1) Input Unit := .thread 0 (.read flag none fun _ => true)

def refreshes : List (Move (Fin 1) Input Unit) := [.thread 0 (.fetched remotePayload),.thread 0 .proceed]

instance (w : FeatureFlagStore Unit) (t : Worker Unit) (input : Input) : Decidable (settled.own w t input) :=
  inferInstanceAs (Decidable (keepsVersion w t input = true))

instance (w : FeatureFlagStore Unit) (t : Worker Unit) (input : Input) (other : Worker Unit) :
    Decidable (settled.beside w t input other) := inferInstanceAs (Decidable True)

instance (w : FeatureFlagStore Unit) (event : Unit) (other : Worker Unit) : Decidable (settled.event w event other) :=
  inferInstanceAs (Decidable True)

theorem sample_agrees : ∃ s : Pool (Fin 1) (FeatureFlagStore Unit) (Worker Unit),
    s.world.returned = [(.mobileFolder,some (.enabled true)),(.version,some (.version ⟨"1.2",true⟩)),
      (.mobileFolder,some (.enabled true))] ∧
    (∀ one ∈ s.world.returned, ∀ other ∈ s.world.returned, one.1 = other.1 → one.2 = other.2) ∧
    ∀ applied ∈ s.world.delivered, ∀ entry ∈ s.world.returned, entry.1 = applied.1 → entry.2 = some applied.2 := by
  obtain ⟨s,path,seen⟩ := checkedRun_exhibits (@featureFlags _ (Fin 1) _ plainNumerals) settled.Admits created
    (readAlone .mobileFolder :: refreshes ++ [readAlone .version,readAlone .mobileFolder])
    (fun s => s.world.returned = [(.mobileFolder,some (.enabled true)),(.version,some (.version ⟨"1.2",true⟩)),
      (.mobileFolder,some (.enabled true))]) (by decide +kernel)
  exact ⟨s,of_decide_eq_true seen,reads_agree plainNumerals path⟩

-- A read that found no version flag does not keep the next one from finding it.
theorem version_changes : ¬ ∀ s : Pool (Fin 1) (FeatureFlagStore Unit) (Worker Unit),
    Reachable (featureFlags plainNumerals) created s →
      ∀ one ∈ s.world.returned, ∀ other ∈ s.world.returned, one.1 = other.1 → one.2 = other.2 := by
  intro all
  obtain ⟨s,path,seen⟩ := checkedRun_exhibits (@featureFlags _ (Fin 1) _ plainNumerals) (fun _ _ => True) created
    (readAlone .version :: refreshes ++ [readAlone .version])
    (fun s => s.world.returned = [(.version,some (.version ⟨"1.2",true⟩)),(.version,none)]) (by decide +kernel)
  have both : s.world.returned = [(.version,some (.version ⟨"1.2",true⟩)),(.version,none)] := of_decide_eq_true seen
  have same := all s path (.version,some (.version ⟨"1.2",true⟩)) (by simp [both]) (.version,none) (by simp [both]) rfl
  cases same

end ImageSearch.FeatureFlags
