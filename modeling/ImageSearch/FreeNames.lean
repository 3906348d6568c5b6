import Mathlib.Data.List.Nodup

namespace ImageSearch.FreeNames

-- Probing `candidate start`, `candidate (start+1)`, ... for one that is not taken,
-- at most `bound` times before the last one is returned unprobed.
def search (free : Nat → Bool) : Nat → Nat → Nat
  | 0,n => n
  | bound+1,n => if free n then n else search free bound (n+1)

theorem search_free {free : Nat → Bool} {bound start k : Nat} (within : k ≤ bound)
    (found : free (start+k) = true) : free (search free bound start) = true := by
  induction bound generalizing start k with
  | zero =>
      have zero : k = 0 := Nat.le_zero.mp within
      subst zero; simpa [search] using found
  | succ bound ih =>
      unfold search
      split
      · assumption
      · rename_i taken
        cases k with
        | zero => exact absurd found (by simpa using taken)
        | succ k => exact ih (Nat.le_of_succ_le_succ within) (by rw [Nat.add_right_comm]; exact found)

theorem search_least {free : Nat → Bool} {bound start n : Nat} (lower : start ≤ n)
    (before : n < search free bound start) : free n = false := by
  induction bound generalizing start with
  | zero => simp only [search] at before; omega
  | succ bound ih =>
      unfold search at before
      split at before
      · omega
      · rename_i taken
        rcases Nat.eq_or_lt_of_le lower with rfl | later
        · simpa using taken
        · exact ih later before

theorem search_lower {free : Nat → Bool} {bound start : Nat} : start ≤ search free bound start := by
  induction bound generalizing start with
  | zero => exact Nat.le_refl _
  | succ bound ih =>
      unfold search
      split
      · exact Nat.le_refl _
      · exact Nat.le_trans (Nat.le_succ _) ih

theorem search_same {free : Nat → Bool} {bound bound' start : Nat} (found : free (search free bound start) = true)
    (found' : free (search free bound' start) = true) : search free bound start = search free bound' start := by
  rcases Nat.lt_trichotomy (search free bound start) (search free bound' start) with before | same | after
  · rw [search_least search_lower before] at found
    cases found
  · exact same
  · rw [search_least search_lower after] at found'
    cases found'

-- Pigeonhole: among one more distinct candidates than names taken, one is free.
theorem some_free {Name : Type*} (taken : List Name) (candidate : Nat → Name)
    (injective : ∀ i j, candidate i = candidate j → i = j) (start : Nat) :
    ∃ k ≤ taken.length, candidate (start+k) ∉ taken := by
  apply Classical.byContradiction
  intro none
  have all : ∀ k ≤ taken.length, candidate (start+k) ∈ taken := fun k within =>
    Classical.byContradiction fun missing => none ⟨k,within,missing⟩
  have distinct : ((List.range (taken.length+1)).map fun k => candidate (start+k)).Nodup :=
    List.nodup_range.map fun i j equal => by
      have := injective _ _ equal
      omega
  have inside : (List.range (taken.length+1)).map (fun k => candidate (start+k)) ⊆ taken := by
    intro name member
    obtain ⟨k,bound,rfl⟩ := List.mem_map.mp member
    exact all k (Nat.le_of_lt_succ (List.mem_range.mp bound))
  have count := distinct.length_le_of_subset inside
  rw [List.length_map,List.length_range] at count
  omega

end ImageSearch.FreeNames
