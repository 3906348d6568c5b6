import ImageSearch.Payload
import ImageSearch.Tables
import ImageSearch.FreeNames
import Mathlib.Data.Nat.Digits.Defs
import Mathlib.Data.List.DropRight

namespace ImageSearch.BackupFolder
open Payload Tables

-- A path below a mobile folder; every asset lives in a month directory.
structure RelativePath where
  monthDirectory : String
  name : String
  deriving DecidableEq, Repr

def RelativePath.asPosix (path : RelativePath) : String := path.monthDirectory ++ "/" ++ path.name

inductive Location where
  | asset (folderPath : String) (path : RelativePath)
  | staged (path : String)
  deriving DecidableEq, Repr

structure StoredFile where
  location : Location
  content : Bytes
  deriving DecidableEq, Repr

abbrev Files := Table StoredFile.location

def readFile (files : Files) (location : Location) : Option Bytes := (files.find? location).map StoredFile.content

def fileExists (files : Files) (location : Location) : Bool := (readFile files location).isSome

def writeFile (files : Files) (location : Location) (content : Bytes) : Files :=
  files.upsert ⟨location,content⟩ (fun old => {old with content}) fun _ => rfl

def unlink (files : Files) (location : Location) : Files := files.delete fun file => file.location = location

-- os.replace: atomic, and silent about a file that is already at the destination.
def replace (files : Files) (source destination : Location) : Files :=
  match readFile files source with
  | some content => writeFile (unlink files source) destination content
  | none => files

theorem read_write (files : Files) (location : Location) (content : Bytes) (other : Location) :
    readFile (writeFile files location content) other =
      if location = other then some content else readFile files other := by
  unfold readFile writeFile
  rw [find_upsert]
  by_cases same : location = other
  · subst same
    cases files.find? location <;> simp
  · simp [same]

theorem read_unlink (files : Files) (location other : Location) :
    readFile (unlink files location) other = if location = other then none else readFile files other := by
  unfold readFile unlink
  rw [find_delete]
  cases found : files.find? other with
  | none => simp
  | some file =>
      have at_ : file.location = other := (find_mem found).2
      by_cases same : location = other
      · simp [Option.filter,at_,same]
      · simp [Option.filter,at_,same,Ne.symm same]

theorem read_replace {files : Files} {source destination : Location} {content : Bytes}
    (present : readFile files source = some content) (other : Location) :
    readFile (replace files source destination) other =
      if destination = other then some content else if source = other then none else readFile files other := by
  unfold replace
  simp only [present,read_write,read_unlink]

-- Path(text).name on a POSIX system: empty and "." components are not part of a path.
def pathName (text : List Char) : List Char :=
  ((text.splitOn '/').filter fun part => part ≠ [] && part ≠ ['.']).getLast?.getD []

def isReserved (c : Char) : Bool :=
  c.toNat < 32 || c == '<' || c == '>' || c == ':' || c == '"' || c == '/' || c == '\\' || c == '|' || c == '?' ||
    c == '*'

-- re.sub(r'[...]+', replacement, text): each run of such characters becomes one other.
def substituteRuns (matched : Char → Bool) (replacement : Char) : Bool → List Char → List Char
  | _,[] => []
  | inRun,c :: rest =>
    if matched c then
      (if inRun then [] else [replacement]) ++ substituteRuns matched replacement true rest
    else c :: substituteRuns matched replacement false rest

def isDot (c : Char) : Bool := c == '.'

def sanitizeFilename (filename : String) : List Char :=
  let candidate := stripChars isDot (stripChars isSpace (substituteRuns isReserved '-' false (pathName filename.toList)))
  if candidate = [] then "asset.bin".toList else candidate

-- Path(name).stem and Path(name).suffix: the last dot counts unless it is the first
-- or the last character.
def lastDot (name : List Char) : Option Nat :=
  match name.reverse.findIdx? isDot with
  | some fromEnd => if fromEnd = 0 ∨ fromEnd + 1 = name.length then none else some (name.length - 1 - fromEnd)
  | none => none

def stem (name : List Char) : List Char := (lastDot name).elim name fun dot => name.take dot
def suffix (name : List Char) : List Char := (lastDot name).elim [] fun dot => name.drop dot

-- The names tried in turn: the name itself, then f"{stem}-{attempt_number}{suffix}" from 2 on.
def candidateName (filename : List Char) (attemptNumber : Nat) : String :=
  String.ofList (stem filename ++ '-' :: (toString attemptNumber).toList ++ suffix filename)

def nameFree (files : Files) (folderPath monthDirectory name : String) : Bool :=
  !fileExists files (.asset folderPath ⟨monthDirectory,name⟩)

-- The loop of the source has no bound; as many probes as there are files suffice.
def resolveConflictSafePath (files : Files) (folderPath monthDirectory : String) (filename : List Char) :
    RelativePath :=
  if nameFree files folderPath monthDirectory (String.ofList filename) then ⟨monthDirectory,String.ofList filename⟩
  else ⟨monthDirectory,candidateName filename (FreeNames.search
    (fun attemptNumber => nameFree files folderPath monthDirectory (candidateName filename attemptNumber))
    files.rows.length 2)⟩

def partName (finalName partToken : String) : String := "." ++ finalName ++ "." ++ partToken ++ ".part"

def civilDate (days : Int) : Int × Int × Int :=
  let shifted := days + 719468
  let era := shifted.fdiv 146097
  let dayOfEra := shifted - era * 146097
  let yearOfEra := (dayOfEra - dayOfEra / 1460 + dayOfEra / 36524 - dayOfEra / 146096) / 365
  let dayOfYear := dayOfEra - (365 * yearOfEra + yearOfEra / 4 - yearOfEra / 100)
  let marchMonth := (5 * dayOfYear + 2) / 153
  let month := if marchMonth < 10 then marchMonth + 3 else marchMonth - 9
  (yearOfEra + era * 400 + (if month ≤ 2 then 1 else 0),month,dayOfYear - (153 * marchMonth + 2) / 5 + 1)

def padded (width : Nat) (value : Int) : String :=
  let digits := (toString value.toNat).toList
  String.ofList (List.replicate (width - digits.length) '0' ++ digits)

def strftimeYearMonth (instant : DateTime) : String :=
  let (year,month,_) := civilDate (instant.fdiv 86400000000)
  padded 4 year ++ "-" ++ padded 2 month

def isoformatSeconds (instant : DateTime) : String :=
  let (year,month,day) := civilDate (instant.fdiv 86400000000)
  let seconds := (instant.fmod 86400000000).fdiv 1000000
  padded 4 year ++ "-" ++ padded 2 month ++ "-" ++ padded 2 day ++ "T" ++ padded 2 (seconds / 3600) ++ ":" ++
    padded 2 (seconds / 60 % 60) ++ ":" ++ padded 2 (seconds % 60) ++ "+00:00"

example : strftimeYearMonth 1704067200000000 = "2024-01" := by decide
example : isoformatSeconds 1775800805000000 = "2026-04-10T06:00:05+00:00" := by decide
example : String.ofList (sanitizeFilename "DCIM/.a<>b?.jpg") = "a-b-.jpg" := by decide

theorem candidateName_injective (filename : List Char) (i j : Nat)
    (equal : candidateName filename i = candidateName filename j) : i = j := by
  have chars := String.ofList_injective equal
  rw [List.append_cancel_right_eq,List.append_cancel_left_eq,List.cons.injEq] at chars
  have digits : Nat.toDigits 10 i = Nat.toDigits 10 j := by
    simpa only [Nat.toString_eq_repr,Nat.toList_repr] using chars.2
  have parsed := congrArg (fun text => Nat.ofDigitChars 10 text 0) digits
  simpa using parsed

-- The bound of the search is never what ends it: it would take one more file than there are.
theorem resolve_free (files : Files) (folderPath monthDirectory : String) (filename : List Char) :
    fileExists files (.asset folderPath (resolveConflictSafePath files folderPath monthDirectory filename)) = false := by
  unfold resolveConflictSafePath
  split
  · rename_i free; simpa [nameFree] using free
  · let place (attemptNumber : Nat) : Location :=
      .asset folderPath ⟨monthDirectory,candidateName filename attemptNumber⟩
    have injective : ∀ i j, place i = place j → i = j := fun i j equal =>
      candidateName_injective filename i j (by simpa [place] using equal)
    obtain ⟨k,within,untaken⟩ := FreeNames.some_free (files.rows.map StoredFile.location) place injective 2
    rw [List.length_map] at within
    have absent : files.find? (place (2+k)) = none := find_none.mpr untaken
    have free : nameFree files folderPath monthDirectory (candidateName filename (2+k)) = true := by
      simpa [nameFree,fileExists,readFile] using absent
    let candidateFree (n : Nat) : Bool := nameFree files folderPath monthDirectory (candidateName filename n)
    have found : candidateFree (FreeNames.search candidateFree files.rows.length 2) = true :=
      FreeNames.search_free within free
    simpa [candidateFree,nameFree] using found

theorem resolve_month (files : Files) (folderPath monthDirectory : String) (filename : List Char) :
    (resolveConflictSafePath files folderPath monthDirectory filename).monthDirectory = monthDirectory := by
  unfold resolveConflictSafePath
  split <;> rfl

-- Final names never start with a dot; part names always do.
def RelativePath.Visible (path : RelativePath) : Prop := path.name.toList.head? ≠ some '.'

theorem part_hidden (month finalName partToken : String) :
    ¬ RelativePath.Visible ⟨month,partName finalName partToken⟩ := by
  simp [RelativePath.Visible,partName]

theorem stripChars_head {drop : Char → Bool} {text : List Char} {c : Char}
    (first : (stripChars drop text).head? = some c) : drop c = false := by
  obtain ⟨rest,kept⟩ : ∃ rest, text.dropWhile drop = stripChars drop text ++ rest :=
    (List.rdropWhile_prefix drop (l := text.dropWhile drop)).imp fun _ => Eq.symm
  cases found : stripChars drop text with
  | nil => simp [found] at first
  | cons head tail =>
      have equal : head = c := by simpa [found] using first
      subst equal
      have starts : (text.dropWhile drop).head? = some head := by simp [kept,found]
      simpa [starts] using List.head?_dropWhile_not drop text

theorem sanitize_head (filename : String) : (sanitizeFilename filename).head? ≠ some '.' := by
  unfold sanitizeFilename
  simp only
  split
  · decide
  · intro first
    exact absurd (stripChars_head first) (by decide)

theorem candidate_head {filename : List Char} (named : filename.head? ≠ some '.') (attemptNumber : Nat) :
    (candidateName filename attemptNumber).toList.head? ≠ some '.' := by
  unfold candidateName stem
  rw [String.toList_ofList]
  cases lastDot filename with
  | none => cases filename <;> simp_all
  | some dot => cases filename <;> cases dot <;> simp_all

theorem resolve_visible {filename : List Char} (named : filename.head? ≠ some '.') (files : Files)
    (folderPath monthDirectory : String) :
    (resolveConflictSafePath files folderPath monthDirectory filename).Visible := by
  unfold resolveConflictSafePath RelativePath.Visible
  split
  · simpa using named
  · exact candidate_head named _

theorem padded_digits {width : Nat} {value : Int} {c : Char} (member : c ∈ (padded width value).toList) :
    c.isDigit = true := by
  unfold padded at member
  rw [String.toList_ofList] at member
  rcases List.mem_append.mp member with filling | digit
  · rw [(List.mem_replicate.mp filling).2]; rfl
  · rw [Nat.toString_eq_repr,Nat.toList_repr] at digit
    exact Nat.isDigit_of_mem_toDigits (by decide) (by decide) digit

theorem strftime_slashless (instant : DateTime) : '/' ∉ (strftimeYearMonth instant).toList := by
  intro member
  simp only [strftimeYearMonth,String.toList_append,List.mem_append] at member
  rcases member with (year | dash) | month
  · exact absurd (padded_digits year) (by decide)
  · exact absurd dash (by decide)
  · exact absurd (padded_digits month) (by decide)

theorem takeWhile_slash {before after : List Char} (slashless : '/' ∉ before) :
    (before ++ '/' :: after).takeWhile (· != '/') = before := by
  rw [List.takeWhile_append_of_pos,List.takeWhile_cons_of_neg (by decide),List.append_nil]
  intro c member
  exact bne_iff_ne.mpr fun equal => slashless (equal ▸ member)

theorem asPosix_injective {one two : RelativePath} (slashless : '/' ∉ one.monthDirectory.toList)
    (slashless' : '/' ∉ two.monthDirectory.toList) (equal : one.asPosix = two.asPosix) : one = two := by
  have chars : one.monthDirectory.toList ++ '/' :: one.name.toList =
      two.monthDirectory.toList ++ '/' :: two.name.toList := by
    simpa [RelativePath.asPosix] using congrArg String.toList equal
  have month : one.monthDirectory.toList = two.monthDirectory.toList := by
    rw [← takeWhile_slash slashless,chars,takeWhile_slash slashless']
  rw [month,List.append_cancel_left_eq,List.cons.injEq] at chars
  cases one
  cases two
  rw [RelativePath.mk.injEq]
  exact ⟨String.toList_inj.mp month,String.toList_inj.mp chars.2⟩

end ImageSearch.BackupFolder
