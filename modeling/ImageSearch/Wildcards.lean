import Mathlib.Data.List.Count
import Mathlib.Data.List.Infix

namespace ImageSearch.Wildcards

-- A place of a pattern: one symbol of the text, or a stretch of it.
inductive Token (Symbol : Type*) where
  | exactly (symbol : Symbol)
  | any
  | many
  deriving DecidableEq, Repr

variable {Symbol : Type*}

-- `alike` tells which symbols of a text a symbol of the pattern stands for.
inductive Matches (alike : Symbol → Symbol → Prop) : List (Token Symbol) → List Symbol → Prop where
  | nil : Matches alike [] []
  | exactly {a b : Symbol} {pattern : List (Token Symbol)} {text : List Symbol} : alike a b →
      Matches alike pattern text → Matches alike (.exactly a :: pattern) (b :: text)
  | any {b : Symbol} {pattern : List (Token Symbol)} {text : List Symbol} :
      Matches alike pattern text → Matches alike (.any :: pattern) (b :: text)
  | many {skipped : List Symbol} {pattern : List (Token Symbol)} {text : List Symbol} :
      Matches alike pattern text → Matches alike (.many :: pattern) (skipped ++ text)

def Resembles (alike : Symbol → Symbol → Prop) (pattern : List (Token Symbol)) (text : List Symbol) : Prop :=
  ∃ start, start <+: text ∧ Matches alike pattern start

variable {alike : Symbol → Symbol → Prop} {first second pattern : List (Token Symbol)} {text : List Symbol}

theorem matches_append : Matches alike (first ++ second) text ↔
    ∃ one two, text = one ++ two ∧ Matches alike first one ∧ Matches alike second two := by
  induction first generalizing text with
  | nil =>
      constructor
      · exact fun matched => ⟨[],text,rfl,.nil,matched⟩
      · rintro ⟨one,two,rfl,empty,matched⟩
        cases empty
        exact matched
  | cons token first ih =>
      rw [List.cons_append]
      constructor
      · intro matched
        cases matched with
        | exactly same rest =>
            obtain ⟨one,two,rfl,front,back⟩ := ih.mp rest
            exact ⟨_ :: one,two,rfl,.exactly same front,back⟩
        | any rest =>
            obtain ⟨one,two,rfl,front,back⟩ := ih.mp rest
            exact ⟨_ :: one,two,rfl,.any front,back⟩
        | many rest =>
            obtain ⟨one,two,rfl,front,back⟩ := ih.mp rest
            exact ⟨_ ++ one,two,(List.append_assoc _ _ _).symm,.many front,back⟩
      · rintro ⟨one,two,rfl,front,back⟩
        cases front with
        | exactly same rest => exact .exactly same (ih.mpr ⟨_,_,rfl,rest,back⟩)
        | any rest => exact .any (ih.mpr ⟨_,_,rfl,rest,back⟩)
        | many rest =>
            rw [List.append_assoc]
            exact .many (ih.mpr ⟨_,_,rfl,rest,back⟩)

theorem matches_everything : Matches alike [.many] text := by
  have whole : Matches alike [.many] (text ++ []) := .many .nil
  rwa [List.append_nil] at whole

theorem matches_many : Matches alike (.many :: pattern) text ↔ ∃ rest, rest <:+ text ∧ Matches alike pattern rest := by
  constructor
  · intro matched
    cases matched with
    | many rest => exact ⟨_,List.suffix_append _ _,rest⟩
  · rintro ⟨rest,⟨skipped,rfl⟩,matched⟩
    exact .many matched

theorem matches_open : Matches alike (pattern ++ [.many]) text ↔ Resembles alike pattern text := by
  rw [matches_append]
  constructor
  · rintro ⟨start,rest,rfl,matched,-⟩
    exact ⟨start,List.prefix_append _ _,matched⟩
  · rintro ⟨start,⟨rest,rfl⟩,matched⟩
    exact ⟨start,rest,rfl,matched,matches_everything⟩

theorem matches_within {a : Symbol} (only : ∀ b, alike a b ↔ b = a) :
    Matches alike (pattern ++ [.many,.exactly a,.many]) text ↔
      ∃ start rest, text = start ++ rest ∧ Matches alike pattern start ∧ a ∈ rest := by
  rw [matches_append]
  constructor
  · rintro ⟨start,rest,rfl,matched,back⟩
    refine ⟨start,rest,rfl,matched,?_⟩
    obtain ⟨tail,⟨skipped,rfl⟩,found⟩ := matches_many.mp back
    cases found with
    | exactly same _ =>
        rw [(only _).mp same]
        exact List.mem_append_right _ List.mem_cons_self
  · rintro ⟨start,rest,rfl,matched,inside⟩
    obtain ⟨skipped,tail,rfl⟩ := List.append_of_mem inside
    exact ⟨start,_,rfl,matched,.many (.exactly ((only a).mpr rfl) matches_everything)⟩

theorem matches_count [DecidableEq Symbol] {a : Symbol} (only : ∀ b, alike a b → b = a)
    (matched : Matches alike pattern text) : pattern.count (.exactly a) ≤ text.count a := by
  induction matched with
  | nil => rfl
  | @exactly c b pattern text same rest ih =>
      by_cases here : c = a
      · subst here
        rw [only b same,List.count_cons_self,List.count_cons_self]
        exact Nat.succ_le_succ ih
      · have other : (Token.exactly c : Token Symbol) ≠ .exactly a := fun equal => here (Token.exactly.inj equal)
        rw [List.count_cons_of_ne other]
        exact ih.trans List.count_le_count_cons
  | any rest ih =>
      have other : (Token.any : Token Symbol) ≠ .exactly a := nofun
      rw [List.count_cons_of_ne other]
      exact ih.trans List.count_le_count_cons
  | many rest ih =>
      have other : (Token.many : Token Symbol) ≠ .exactly a := nofun
      rw [List.count_cons_of_ne other,List.count_append]
      exact ih.trans (Nat.le_add_left _ _)

-- Read as a pattern a text matches itself, whichever of its symbols are wildcards.
theorem matches_self {token : Symbol → Token Symbol} (reads : ∀ a, token a = .exactly a ∨ token a = .any ∨ token a = .many)
    (self : ∀ a, alike a a) : Matches alike (text.map token) text := by
  induction text with
  | nil => exact .nil
  | cons a text ih =>
      rw [List.map_cons]
      rcases reads a with same | same | same
      · rw [same]
        exact .exactly (self a) ih
      · rw [same]
        exact .any ih
      · rw [same]
        exact @Matches.many _ alike [a] _ _ ih

end ImageSearch.Wildcards
