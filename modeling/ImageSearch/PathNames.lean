import ImageSearch.BackupFolder

namespace ImageSearch.PathNames
open Payload BackupFolder

structure SingleName (name : List Char) : Prop where
  nonempty : name ≠ []
  slashless : '/' ∉ name
  dot : name ≠ ['.']
  dots : name ≠ ['.','.']

section Names
variable {name text : List Char} {c : Char}

theorem single_name (nonempty : name ≠ []) (slashless : '/' ∉ name) (head : name.head? ≠ some '.') : SingleName name := by
  refine ⟨nonempty,slashless,?_,?_⟩
  · rintro rfl
    exact head rfl
  · rintro rfl
    exact head rfl

theorem mem_stem (member : c ∈ stem name) : c ∈ name := by
  unfold stem at member
  revert member
  cases lastDot name with
  | none => exact id
  | some dot => exact List.mem_of_mem_take

theorem mem_suffix (member : c ∈ suffix name) : c ∈ name := by
  unfold suffix at member
  revert member
  cases lastDot name with
  | none => exact fun none => absurd none List.not_mem_nil
  | some dot => exact List.mem_of_mem_drop

theorem mem_substitute {matched : Char → Bool} {replacement : Char} {inRun : Bool}
    (member : c ∈ substituteRuns matched replacement inRun text) : c = replacement ∨ c ∈ text ∧ matched c = false := by
  induction text generalizing inRun with
  | nil => cases member
  | cons head rest ih =>
      unfold substituteRuns at member
      split at member
      · rcases List.mem_append.mp member with run | later
        · left
          cases inRun
          · exact List.mem_singleton.mp run
          · cases run
        · exact (ih later).imp id fun found => ⟨List.mem_cons_of_mem _ found.1,found.2⟩
      · rename_i kept
        rcases List.mem_cons.mp member with rfl | later
        · exact .inr ⟨List.mem_cons_self,by simpa using kept⟩
        · exact (ih later).imp id fun found => ⟨List.mem_cons_of_mem _ found.1,found.2⟩

theorem mem_strip {drop : Char → Bool} (member : c ∈ stripChars drop text) : c ∈ text := by
  unfold stripChars at member
  rw [List.mem_reverse] at member
  have inner := (List.dropWhile_sublist _).mem member
  rw [List.mem_reverse] at inner
  exact (List.dropWhile_sublist _).mem inner

theorem substitute_head {matched : Char → Bool} {replacement : Char}
    (first : (substituteRuns matched replacement false text).head? = some c) : c = replacement ∨ text.head? = some c := by
  cases text with
  | nil => cases first
  | cons head rest =>
      unfold substituteRuns at first
      split at first
      · exact .inl (Option.some.inj first).symm
      · exact .inr first

theorem digits_plain (n : Nat) (plain : c.isDigit = false) : c ∉ Nat.toDigits 10 n := by
  intro member
  rw [Nat.isDigit_of_mem_toDigits (by decide) (by decide) member] at plain
  cases plain

theorem head_append {before after : List Char} (nonempty : before ≠ []) : (before ++ after).head? = before.head? := by
  cases before with
  | nil => exact absurd rfl nonempty
  | cons _ _ => rfl

end Names

end ImageSearch.PathNames
