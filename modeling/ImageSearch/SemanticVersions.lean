import Mathlib.Data.List.GetD
import Mathlib.Data.List.TakeWhile
import Mathlib.Order.PiLex
import ImageSearch.FeatureFlags

namespace ImageSearch.SemanticVersions
open Payload FeatureFlags

-- str.isdigit, and the value of a digit that int() reads; there are digits it does not read.
structure Digits where
  isDigit : Char → Bool
  decimal : Char → Option Nat
  zero : decimal '0' = some 0
  decimal_digit : ∀ c d, decimal c = some d → isDigit c = true
  space : ∀ c, isSpace c = true → isDigit c = false
  superscript : isDigit '²' = true ∧ decimal '²' = none

variable (digits : Digits)

def Digits.int (text : List Char) : Option Nat :=
  if text.length ≤ 4300 then (text.mapM digits.decimal).map fun values => values.foldl (fun n d => 10*n+d) 0 else none

def Digits.parseParts : List (List Char) → Except Raised (Option (List Nat))
  | [] => .ok (some [])
  | part :: parts =>
    let numericPrefix := part.takeWhile digits.isDigit
    if numericPrefix = [] then .ok none
    else match digits.int numericPrefix with
      | none => .error (.valueError "invalid literal for int()")
      | some value => (Digits.parseParts parts).map fun parsed => parsed.map fun values => value :: values

def Digits.numericComponents (version : String) : Except Raised (Option (List Nat)) :=
  if strip version = "" then .ok none else digits.parseParts ((strip version).toList.splitOn '.')

def popZeros : List Nat → List Nat
  | 0 :: n :: rest => popZeros (n :: rest)
  | parsed => parsed

def Digits.parseSemanticVersion (version : String) : Except Raised (Option (List Nat)) :=
  (digits.numericComponents version).map fun parsed => parsed.map fun values => (popZeros values.reverse).reverse

def padded (components : List Nat) (maxLength : Nat) : List Nat :=
  components ++ List.replicate (maxLength - components.length) 0

def olderComponents (current minimum : List Nat) : Bool :=
  let maxLength := max current.length minimum.length
  decide (padded current maxLength < padded minimum maxLength)

def Digits.isVersionOlder (currentVersion minimumVersion : String) : Except Raised Bool := do
  let current ← digits.parseSemanticVersion currentVersion
  let minimum ← digits.parseSemanticVersion minimumVersion
  match current,minimum with
  | some current,some minimum => return olderComponents current minimum
  | _,_ => return false

def component (components : List Nat) (i : Nat) : Nat := components.getD i 0

section Components
variable {xs ys zs : List Nat} {i : Nat}

theorem component_zeros (zeros : Nat) : component (xs ++ List.replicate zeros 0) i = component xs i := by
  unfold component
  rcases Nat.lt_or_ge i xs.length with inside | outside
  · rw [List.getD_append _ _ _ _ inside]
  · rw [List.getD_append_right _ _ _ _ outside,List.getD_eq_default _ _ outside]
    rcases Nat.lt_or_ge (i - xs.length) zeros with zero | beyond
    · rw [List.getD_eq_getElem _ _ (by simpa using zero),List.getElem_replicate]
    · exact List.getD_eq_default _ _ (by simpa using beyond)

theorem component_padded (length : Nat) : component (padded xs length) = component xs := by
  funext i
  exact component_zeros _

theorem popZeros_replicate (xs : List Nat) : ∃ zeros, xs = List.replicate zeros 0 ++ popZeros xs := by
  induction xs with
  | nil => exact ⟨0,rfl⟩
  | cons n rest ih =>
      match n,rest with
      | 0,m :: rest =>
          obtain ⟨zeros,whole⟩ := ih
          refine ⟨zeros+1,?_⟩
          rw [popZeros,List.replicate_succ,List.cons_append,← whole]
      | 0,[] => exact ⟨0,rfl⟩
      | n+1,rest => exact ⟨0,rfl⟩

theorem component_popped : component ((popZeros xs.reverse).reverse) = component xs := by
  obtain ⟨zeros,whole⟩ := popZeros_replicate xs.reverse
  have back : xs = (popZeros xs.reverse).reverse ++ List.replicate zeros 0 := by
    have reversed := congrArg List.reverse whole
    rwa [List.reverse_reverse,List.reverse_append,List.reverse_replicate] at reversed
  funext i
  conv => rhs; rw [back]
  exact (component_zeros zeros).symm

theorem lt_first (same : xs.length = ys.length) : xs < ys ↔ toLex (component xs) < toLex (component ys) := by
  induction xs generalizing ys with
  | nil =>
      cases ys with
      | nil => exact iff_of_false (lt_irrefl _) (lt_irrefl _)
      | cons y ys => cases same
  | cons x xs ih =>
      cases ys with
      | nil => cases same
      | cons y ys =>
          rw [List.cons_lt_cons_iff,ih (Nat.succ.inj same)]
          constructor
          · rintro (less | ⟨rfl,i,before,less⟩)
            · exact ⟨0,by simp,less⟩
            · refine ⟨i+1,?_,less⟩
              intro j below
              cases j with
              | zero => rfl
              | succ j => exact before j (Nat.lt_of_succ_lt_succ below)
          · rintro ⟨i,before,less⟩
            cases i with
            | zero => exact .inl less
            | succ i => exact .inr ⟨before 0 (Nat.succ_pos i),i,fun j below => before (j+1) (Nat.succ_lt_succ below),less⟩

theorem older_first : olderComponents xs ys = true ↔ toLex (component xs) < toLex (component ys) := by
  have same : (padded xs (max xs.length ys.length)).length = (padded ys (max xs.length ys.length)).length := by
    simp only [padded,List.length_append,List.length_replicate]
    omega
  unfold olderComponents
  rw [decide_eq_true_iff,lt_first same,component_padded,component_padded]

end Components

section Parts
variable {text spaces : List Char} {digits}

-- What the loop sees of a text: the digits each part begins with.
def Digits.prefixes (digits : Digits) (text : List Char) : List (List Char) :=
  (text.splitOn '.').map fun part => part.takeWhile digits.isDigit

theorem prefixes_cons (c : Char) (text : List Char) : digits.prefixes (c :: text) =
    if c = '.' then [] :: digits.prefixes text
    else (digits.prefixes text).modifyHead fun start => if digits.isDigit c then c :: start else [] := by
  unfold Digits.prefixes
  rw [List.splitOn_cons_eq_if_modifyHead]
  by_cases dot : c = '.'
  · simp [dot]
  · rw [if_neg (by simpa using dot),if_neg dot]
    cases parts : text.splitOn '.' with
    | nil => rfl
    | cons part rest =>
        simp only [List.modifyHead_cons,List.map_cons,List.cons.injEq,and_true]
        by_cases digit : digits.isDigit c = true
        · rw [List.takeWhile_cons_of_pos digit,if_pos digit]
        · rw [List.takeWhile_cons_of_neg digit,if_neg digit]

theorem prefixes_spaces (blank : ∀ c ∈ spaces, isSpace c = true) : digits.prefixes (text ++ spaces) = digits.prefixes text := by
  induction text with
  | nil =>
      cases spaces with
      | nil => rfl
      | cons c rest =>
          have dotless : '.' ∉ c :: rest := fun member => absurd (blank '.' member) (by decide)
          have first := digits.space c (blank c (List.mem_cons_self ..))
          unfold Digits.prefixes
          rw [List.nil_append,List.splitOn_eq_singleton dotless]
          simp [first]
  | cons c text ih => rw [List.cons_append,prefixes_cons,prefixes_cons,ih]

def Digits.Reads (digits : Digits) (text : List Char) : Prop := text.length ≤ 4300 ∧ ∀ c ∈ text, (digits.decimal c).isSome = true

theorem int_reads : (digits.int text).isSome = true ↔ digits.Reads text := by
  unfold Digits.int Digits.Reads
  split
  · rename_i short
    rw [Option.isSome_map]
    simp only [short,true_and]
    induction text with
    | nil => simp
    | cons c text ih =>
        rw [List.mapM_cons]
        cases known : digits.decimal c with
        | none => simp [known]
        | some d =>
            have rest := ih (Nat.le_of_succ_le short)
            simp only [List.forall_mem_cons,known,Option.isSome_some,true_and,← rest]
            cases text.mapM digits.decimal <;> rfl
  · rename_i long
    simp [long]

def Digits.values (digits : Digits) : List (List Char) → Except Raised (Option (List Nat))
  | [] => .ok (some [])
  | start :: rest =>
    if start = [] then .ok none
    else match digits.int start with
      | none => .error (.valueError "invalid literal for int()")
      | some value => (Digits.values digits rest).map fun parsed => parsed.map fun values => value :: values

theorem parseParts_values (parts : List (List Char)) :
    digits.parseParts parts = digits.values (parts.map fun part => part.takeWhile digits.isDigit) := by
  induction parts with
  | nil => rfl
  | cons part parts ih =>
      simp only [Digits.parseParts,Digits.values,List.map_cons,ih]

theorem values_zero (starts : List (List Char)) : digits.values (starts ++ [['0']]) =
    (digits.values starts).map fun parsed => parsed.map fun values => values ++ [0] := by
  induction starts with
  | nil =>
      have zero : digits.int ['0'] = some 0 := by
        unfold Digits.int
        rw [if_pos (by decide),List.mapM_cons,digits.zero]
        rfl
      simp [Digits.values,zero,Except.map]
  | cons start starts ih =>
      rw [List.cons_append,Digits.values,Digits.values]
      split
      · rfl
      · cases digits.int start with
        | none => rfl
        | some value =>
            simp only [ih]
            cases digits.values starts with
            | error raised => rfl
            | ok parsed => cases parsed <;> rfl

theorem stripped_spaces (text : List Char) : ∃ spaces : List Char, (∀ c ∈ spaces, isSpace c = true) ∧
    text.dropWhile isSpace = stripChars isSpace text ++ spaces := by
  refine ⟨((text.dropWhile isSpace).reverse.takeWhile isSpace).reverse,?_,?_⟩
  · intro c member
    exact List.mem_takeWhile_imp (List.mem_reverse.mp member)
  · unfold stripChars
    rw [← List.reverse_append,List.takeWhile_append_dropWhile,List.reverse_reverse]

theorem components_values (version : String) :
    digits.numericComponents version = digits.values (digits.prefixes (version.toList.dropWhile isSpace)) := by
  obtain ⟨spaces,blank,whole⟩ := stripped_spaces version.toList
  have text : (strip version).toList = stripChars isSpace version.toList := by simp [strip]
  rw [whole,prefixes_spaces blank,← text]
  unfold Digits.numericComponents
  split
  · rename_i empty
    rw [empty]
    rfl
  · rw [parseParts_values]
    rfl

theorem components_some (version : String) : digits.numericComponents version ≠ .ok (some []) := by
  rw [components_values]
  have parts : digits.prefixes (version.toList.dropWhile isSpace) ≠ [] := by
    unfold Digits.prefixes
    rw [ne_eq,List.map_eq_nil_iff]
    exact List.splitOn_ne_nil _ _
  cases starts : digits.prefixes (version.toList.dropWhile isSpace) with
  | nil => exact absurd starts parts
  | cons start rest =>
      rw [Digits.values]
      split
      · exact fun same => by cases same
      · cases digits.int start with
        | none => exact fun same => by cases same
        | some value =>
            cases digits.values rest with
            | error raised => exact fun same => by cases same
            | ok parsed => cases parsed <;> exact fun same => by cases same

theorem components_before (blank : ∀ c ∈ spaces, isSpace c = true) (version : String) :
    digits.numericComponents (String.ofList spaces ++ version) = digits.numericComponents version := by
  rw [components_values,components_values,String.toList_append,String.toList_ofList,List.dropWhile_append_of_pos blank]

theorem components_after (blank : ∀ c ∈ spaces, isSpace c = true) (version : String) :
    digits.numericComponents (version ++ String.ofList spaces) = digits.numericComponents version := by
  rw [components_values,components_values,String.toList_append,String.toList_ofList,List.dropWhile_append]
  split
  · rename_i nothing
    have empty : version.toList.dropWhile isSpace = [] := by simpa using nothing
    have none : spaces.dropWhile isSpace = [] := List.dropWhile_eq_nil_iff.mpr blank
    rw [empty,none]
  · rw [prefixes_spaces blank]

theorem components_point (version : String) : digits.numericComponents (version ++ ".0") =
    (digits.numericComponents version).map fun parsed => parsed.map fun values => values ++ [0] := by
  have dropped : (version ++ ".0").toList.dropWhile isSpace = version.toList.dropWhile isSpace ++ ['.','0'] := by
    rw [String.toList_append,List.dropWhile_append]
    split
    · rename_i nothing
      have empty : version.toList.dropWhile isSpace = [] := by simpa using nothing
      rw [empty]
      decide
    · rfl
  have digit := digits.decimal_digit '0' 0 digits.zero
  rw [components_values,components_values,dropped,← values_zero]
  unfold Digits.prefixes
  rw [List.splitOn_append_cons_self,List.map_append,show List.splitOn '.' ['0'] = [['0']] by decide]
  simp [digit]

theorem parseParts_ends (parts : List (List Char)) : (∃ parsed, digits.parseParts parts = .ok parsed) ↔
    ∀ before part after, parts = before ++ part :: after → (∀ p ∈ before, p.takeWhile digits.isDigit ≠ []) →
      digits.Reads (part.takeWhile digits.isDigit) := by
  induction parts with
  | nil =>
      refine iff_of_true ⟨_,rfl⟩ ?_
      intro before part after whole
      cases before <;> cases whole
  | cons part parts ih =>
      by_cases empty : part.takeWhile digits.isDigit = []
      · refine iff_of_true ⟨none,by rw [Digits.parseParts,if_pos empty]⟩ ?_
        intro before first after whole begins
        cases before with
        | nil =>
            cases whole
            rw [empty]
            exact ⟨by decide,fun _ member => absurd member List.not_mem_nil⟩
        | cons p before =>
            cases whole
            exact absurd empty (begins part (List.mem_cons_self ..))
      · rw [Digits.parseParts,if_neg empty]
        cases read : digits.int (part.takeWhile digits.isDigit) with
        | none =>
            have unread : ¬ digits.Reads (part.takeWhile digits.isDigit) := by
              rw [← int_reads,read]
              decide
            refine iff_of_false ?_ ?_
            · rintro ⟨parsed,returned⟩
              cases returned
            · intro all
              exact unread (all [] part parts rfl (fun _ member => absurd member List.not_mem_nil))
        | some value =>
            have reads : digits.Reads (part.takeWhile digits.isDigit) := by
              rw [← int_reads,read]
              rfl
            have tail : (∃ parsed, (digits.parseParts parts).map (fun parsed => parsed.map fun values => value :: values) = .ok parsed) ↔
                ∃ parsed, digits.parseParts parts = .ok parsed := by
              cases digits.parseParts parts with
              | error raised => exact iff_of_false (fun ⟨_,returned⟩ => by cases returned) (fun ⟨_,returned⟩ => by cases returned)
              | ok parsed => exact iff_of_true ⟨_,rfl⟩ ⟨_,rfl⟩
            simp only [tail,ih]
            constructor
            · intro rest before first after whole begins
              cases before with
              | nil =>
                  cases whole
                  exact reads
              | cons p before =>
                  cases whole
                  exact rest before first after rfl fun q member => begins q (List.mem_cons_of_mem _ member)
            · intro all before first after whole begins
              refine all (part :: before) first after (by rw [whole]; rfl) ?_
              intro p member
              rcases List.mem_cons.mp member with rfl | earlier
              · exact empty
              · exact begins p earlier

end Parts

-- Up to the first part that does not begin with a digit, the digits a part begins with are
-- ones that int() reads, and no more than it reads.
def Digits.Readable (version : String) : Prop :=
  ∀ before part after, (strip version).toList.splitOn '.' = before ++ part :: after →
    (∀ p ∈ before, p.takeWhile digits.isDigit ≠ []) → digits.Reads (part.takeWhile digits.isDigit)

section Versions
variable {digits} {a b c : String} {xs ys zs : List Nat}

theorem parse_ends (version : String) : (∃ parsed, digits.parseSemanticVersion version = .ok parsed) ↔ digits.Readable version := by
  have mapped : (∃ parsed, digits.parseSemanticVersion version = .ok parsed) ↔
      ∃ parsed, digits.numericComponents version = .ok parsed := by
    unfold Digits.parseSemanticVersion
    cases digits.numericComponents version with
    | error raised => exact iff_of_false (fun ⟨_,returned⟩ => by cases returned) (fun ⟨_,returned⟩ => by cases returned)
    | ok parsed => exact iff_of_true ⟨_,rfl⟩ ⟨_,rfl⟩
  rw [mapped]
  unfold Digits.numericComponents Digits.Readable
  rw [← parseParts_ends]
  split
  · rename_i empty
    refine iff_of_true ⟨none,rfl⟩ ⟨none,?_⟩
    rw [empty]
    rfl
  · exact Iff.rfl

theorem older_ends (a b : String) :
    (∃ answer, digits.isVersionOlder a b = .ok answer) ↔ digits.Readable a ∧ digits.Readable b := by
  rw [← parse_ends,← parse_ends]
  unfold Digits.isVersionOlder
  cases digits.parseSemanticVersion a with
  | error raised => exact iff_of_false (fun ⟨_,returned⟩ => by cases returned) (fun ⟨⟨_,returned⟩,_⟩ => by cases returned)
  | ok one =>
      cases digits.parseSemanticVersion b with
      | error raised => exact iff_of_false (fun ⟨_,returned⟩ => by cases returned) (fun ⟨_,⟨_,returned⟩⟩ => by cases returned)
      | ok two =>
          refine iff_of_true ?_ ⟨⟨_,rfl⟩,⟨_,rfl⟩⟩
          cases one with
          | none => exact ⟨_,rfl⟩
          | some one =>
              cases two with
              | none => exact ⟨_,rfl⟩
              | some two => exact ⟨_,rfl⟩

def Digits.Parses (digits : Digits) (version : String) (components : List Nat) : Prop :=
  digits.numericComponents version = .ok (some components)

theorem older_parsed (one : digits.Parses a xs) (two : digits.Parses b ys) :
    ∃ answer, digits.isVersionOlder a b = .ok answer ∧ (answer = true ↔ toLex (component xs) < toLex (component ys)) := by
  refine ⟨olderComponents (popZeros xs.reverse).reverse (popZeros ys.reverse).reverse,?_,?_⟩
  · unfold Digits.isVersionOlder Digits.parseSemanticVersion
    rw [one,two]
    rfl
  · rw [older_first,component_popped,component_popped]

theorem older_true (one : digits.Parses a xs) (two : digits.Parses b ys) :
    digits.isVersionOlder a b = .ok true ↔ toLex (component xs) < toLex (component ys) := by
  obtain ⟨answer,returned,less⟩ := older_parsed one two
  rw [returned,← less,Except.ok.injEq]

theorem older_false (one : digits.Parses a xs) (two : digits.Parses b ys) :
    digits.isVersionOlder a b = .ok false ↔ toLex (component ys) ≤ toLex (component xs) := by
  obtain ⟨answer,returned,less⟩ := older_parsed one two
  rw [returned,Except.ok.injEq,← Bool.not_eq_true,less]
  exact not_lt

def Digits.Incomparable (digits : Digits) (a b : String) : Prop :=
  digits.isVersionOlder a b = .ok false ∧ digits.isVersionOlder b a = .ok false

theorem incomparable_same (one : digits.Parses a xs) (two : digits.Parses b ys) :
    digits.Incomparable a b ↔ ∀ i, component xs i = component ys i := by
  unfold Digits.Incomparable
  rw [older_false one two,older_false two one]
  constructor
  · rintro ⟨least,most⟩ i
    exact congrFun (toLex.injective (le_antisymm most least)) i
  · intro same
    rw [funext same]
    exact ⟨le_rfl,le_rfl⟩

structure Digits.Orders (digits : Digits) : Prop where
  irreflexive : ∀ a xs, digits.Parses a xs → digits.isVersionOlder a a = .ok false
  transitive : ∀ a b c xs ys zs, digits.Parses a xs → digits.Parses b ys → digits.Parses c zs →
    digits.isVersionOlder a b = .ok true → digits.isVersionOlder b c = .ok true → digits.isVersionOlder a c = .ok true
  incomparable : ∀ a b c xs ys zs, digits.Parses a xs → digits.Parses b ys → digits.Parses c zs →
    digits.Incomparable a a ∧ (digits.Incomparable a b → digits.Incomparable b a) ∧
    (digits.Incomparable a b → digits.Incomparable b c → digits.Incomparable a c)
  -- Equal components, where the shorter version goes on with zeros.
  classes : ∀ a b xs ys, digits.Parses a xs → digits.Parses b ys →
    (digits.Incomparable a b ↔ ∀ i, component xs i = component ys i)
  -- One component of the first argument is increased, a zero it goes on with included.
  increased : ∀ a a' b xs xs' i, digits.Parses a xs → digits.Parses a' xs' →
    (∀ j, j ≠ i → component xs' j = component xs j) → component xs i < component xs' i →
    digits.isVersionOlder a b = .ok false → digits.isVersionOlder a' b = .ok false

theorem parse_point (version : String) : digits.parseSemanticVersion (version ++ ".0") = digits.parseSemanticVersion version := by
  unfold Digits.parseSemanticVersion
  rw [components_point]
  cases ended : digits.numericComponents version with
  | error raised => rfl
  | ok parsed =>
      cases parsed with
      | none => rfl
      | some values =>
          have some : values ≠ [] := by
            rintro rfl
            exact absurd ended (components_some version)
          have popped : (popZeros (values ++ [0]).reverse).reverse = (popZeros values.reverse).reverse := by
            rw [List.reverse_append]
            cases backwards : values.reverse with
            | nil => exact absurd (List.reverse_eq_nil_iff.mp backwards) some
            | cons n rest => rfl
          exact congrArg (fun values => Except.ok (Option.some values)) popped

theorem older_congr {a' b' : String} (one : digits.parseSemanticVersion a' = digits.parseSemanticVersion a)
    (two : digits.parseSemanticVersion b' = digits.parseSemanticVersion b) :
    digits.isVersionOlder a' b' = digits.isVersionOlder a b := by
  unfold Digits.isVersionOlder
  rw [one,two]

theorem parse_padded {before after : List Char} (blankBefore : ∀ c ∈ before, isSpace c = true)
    (blankAfter : ∀ c ∈ after, isSpace c = true) (version : String) :
    digits.parseSemanticVersion (String.ofList before ++ version ++ String.ofList after) = digits.parseSemanticVersion version := by
  unfold Digits.parseSemanticVersion
  rw [components_after blankAfter,components_before blankBefore]

theorem increased_less {i : Nat} (others : ∀ j, j ≠ i → component ys j = component xs j)
    (grown : component xs i < component ys i) : toLex (component xs) < toLex (component ys) :=
  ⟨i,fun j below => (others j below.ne).symm,grown⟩

theorem older_unparsed (unparsed : ∀ ys, ¬ digits.Parses b ys) (answer : Bool)
    (returned : digits.isVersionOlder a b = .ok answer) (a' : String) (one : digits.Parses a' xs) :
    digits.isVersionOlder a' b = .ok false := by
  unfold Digits.isVersionOlder Digits.parseSemanticVersion at returned ⊢
  rw [one]
  cases second : digits.numericComponents b with
  | ok parsed =>
      cases parsed with
      | none => rfl
      | some ys => exact absurd second (unparsed ys)
  | error raised =>
      rw [second] at returned
      cases first : digits.numericComponents a with
      | error raised => rw [first] at returned; cases returned
      | ok parsed => rw [first] at returned; cases returned

theorem orders (digits : Digits) : digits.Orders where
  irreflexive a xs parsed := (older_false parsed parsed).mpr le_rfl
  transitive a b c xs ys zs one two three less less' := by
    rw [older_true one two] at less
    rw [older_true two three] at less'
    exact (older_true one three).mpr (lt_trans less less')
  incomparable a b c xs ys zs one two three := by
    rw [incomparable_same one one,incomparable_same one two,incomparable_same two one,incomparable_same two three,
      incomparable_same one three]
    exact ⟨fun _ => rfl,fun same i => (same i).symm,fun same same' i => (same i).trans (same' i)⟩
  classes a b xs ys one two := incomparable_same one two
  increased a a' b xs xs' i one one' others grown kept := by
    by_cases parsed : ∃ ys, digits.Parses b ys
    · obtain ⟨ys,two⟩ := parsed
      rw [older_false one two] at kept
      exact (older_false one' two).mpr (kept.trans (increased_less others grown).le)
    · exact older_unparsed (not_exists.mp parsed) false kept a' one'

end Versions

section Extraction
variable {Rate : Type} {digits}

def Digits.numerals (digits : Digits) (others : Numerals Rate) : Numerals Rate :=
  {others with isDigit:=digits.isDigit,isDecimal:=fun c => (digits.decimal c).isSome}

theorem numerals_read (others : Numerals Rate) (text : List Char) :
    reads (digits.numerals others) text = (digits.int text).isSome := by
  rw [Bool.eq_iff_iff,int_reads]
  simp only [reads,Digits.numerals,Digits.Reads,Bool.and_eq_true,List.all_eq_true,decide_eq_true_iff]
  exact and_comm

theorem numerals_parts (others : Numerals Rate) (parts : List (List Char)) :
    parsesParts (digits.numerals others) parts = (digits.parseParts parts).map Option.isSome := by
  induction parts with
  | nil => rfl
  | cons part parts ih =>
      rw [parsesParts,Digits.parseParts]
      by_cases empty : part.takeWhile digits.isDigit = []
      · rw [if_pos empty]
        exact if_pos empty
      · rw [if_neg empty]
        refine (if_neg empty).trans ?_
        rw [numerals_read,ih]
        cases read : digits.int (part.takeWhile digits.isDigit) with
        | none =>
            have unread : (digits.int (part.takeWhile (digits.numerals others).isDigit)).isSome = false := by
              rw [Option.isSome_eq_false_iff]
              simpa [Digits.numerals] using read
            rw [if_neg (by simp [unread])]
            rfl
        | some value =>
            have known : (digits.int (part.takeWhile (digits.numerals others).isDigit)).isSome = true := by
              rw [Option.isSome_iff_exists]
              exact ⟨value,read⟩
            rw [if_pos known]
            cases digits.parseParts parts with
            | error raised => rfl
            | ok parsed => cases parsed <;> rfl

theorem numerals_parse (others : Numerals Rate) (version : String) :
    parsesSemanticVersion (digits.numerals others) version = (digits.parseSemanticVersion version).map Option.isSome := by
  unfold parsesSemanticVersion Digits.parseSemanticVersion Digits.numericComponents
  split
  · rfl
  · rw [numerals_parts]
    cases digits.parseParts ((strip version).toList.splitOn '.') with
    | error raised => rfl
    | ok parsed => cases parsed <;> rfl

end Extraction

-- Nothing is raised exactly of what is readable. Where both arguments are, the answer is an
-- order's, and it stays the same for an argument with a further ".0" or with spaces around it.
theorem version_order (digits : Digits) :
    (∀ version, (∃ parsed, digits.parseSemanticVersion version = .ok parsed) ↔ digits.Readable version) ∧
    (∀ a b, (∃ answer, digits.isVersionOlder a b = .ok answer) ↔ digits.Readable a ∧ digits.Readable b) ∧
    digits.Orders ∧
    (∀ a b, digits.isVersionOlder (a ++ ".0") b = digits.isVersionOlder a b ∧
      digits.isVersionOlder a (b ++ ".0") = digits.isVersionOlder a b) ∧
    ∀ a b (before after : List Char), (∀ c ∈ before ++ after, isSpace c = true) →
      digits.isVersionOlder (String.ofList before ++ a ++ String.ofList after) b = digits.isVersionOlder a b ∧
      digits.isVersionOlder a (String.ofList before ++ b ++ String.ofList after) = digits.isVersionOlder a b := by
  refine ⟨parse_ends,older_ends,orders digits,?_,?_⟩
  · intro a b
    exact ⟨older_congr (parse_point a) rfl,older_congr rfl (parse_point b)⟩
  · intro a b before after blank
    have around : ∀ version, digits.parseSemanticVersion (String.ofList before ++ version ++ String.ofList after) =
        digits.parseSemanticVersion version :=
      parse_padded (fun c member => blank c (List.mem_append_left _ member))
        (fun c member => blank c (List.mem_append_right _ member))
    exact ⟨older_congr (around a) rfl,older_congr rfl (around b)⟩

def latinDigits : Digits where
  isDigit c := decide (48 ≤ c.toNat ∧ c.toNat ≤ 57) || decide (c.toNat = 0xb2 ∨ c.toNat = 0xb3 ∨ c.toNat = 0xb9)
  decimal c := if 48 ≤ c.toNat ∧ c.toNat ≤ 57 then some (c.toNat - 48) else none
  zero := by decide
  decimal_digit := by
    intro c d known
    split at known
    · rename_i digit
      simp [digit]
    · cases known
  space := by
    intro c space
    simp only [isSpace,Bool.or_eq_true,Bool.and_eq_true,decide_eq_true_eq,beq_iff_eq] at space
    simp only [Bool.or_eq_false_iff,decide_eq_false_iff_not]
    omega
  superscript := by decide

theorem superscript_raises :
    latinDigits.parseSemanticVersion "1.²" = .error (.valueError "invalid literal for int()") ∧
    ¬ ∀ version, ∃ parsed, latinDigits.parseSemanticVersion version = .ok parsed := by
  have raised : latinDigits.parseSemanticVersion "1.²" = .error (.valueError "invalid literal for int()") := by rfl
  refine ⟨raised,?_⟩
  intro all
  obtain ⟨parsed,returned⟩ := all "1.²"
  rw [raised] at returned
  cases returned

end ImageSearch.SemanticVersions
