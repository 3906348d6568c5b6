import Mathlib.Data.List.Perm.Basic
import Mathlib.Order.Lattice

namespace ImageSearch.SortedRows

variable {Row Key : Type*} [LinearOrder Key] {key : Row → Key} {rows : List Row} {row : Row}

-- A stable sort by a key.
def sorted (key : Row → Key) (rows : List Row) : List Row := rows.mergeSort fun one two => key one ≤ key two

theorem sorted_perm : (sorted key rows).Perm rows := List.mergeSort_perm rows _

theorem key_trans (one two three : Row) (first : decide (key one ≤ key two) = true)
    (second : decide (key two ≤ key three) = true) : decide (key one ≤ key three) = true :=
  decide_eq_true (le_trans (of_decide_eq_true first) (of_decide_eq_true second))

theorem key_total (one two : Row) : (decide (key one ≤ key two) || decide (key two ≤ key one)) = true := by
  rcases le_total (key one) (key two) with below | above
  · simp [below]
  · simp [above]

theorem sorted_ordered : (sorted key rows).Pairwise fun one two => key one ≤ key two :=
  (List.pairwise_mergeSort key_trans key_total rows).imp fun below => of_decide_eq_true below

theorem sorted_same (ordered : rows.Pairwise fun one two => key one ≤ key two) : sorted key rows = rows :=
  List.mergeSort_of_pairwise (ordered.imp fun below => decide_eq_true below)

theorem back_again {i : Nat} (inside : i < rows.length) : (rows.eraseIdx i).insertIdx i rows[i] = rows := by
  induction rows generalizing i with
  | nil => exact absurd inside (Nat.not_lt_zero i)
  | cons first rest ih =>
      cases i with
      | zero => rfl
      | succ i => exact congrArg (first :: ·) (ih (Nat.lt_of_succ_lt_succ inside))

-- Where a new row stands in the sorted rows is where it is put into the sorted ones: the
-- others keep their places, also among equal keys.
theorem insert_sorted [DecidableEq Row] (ordered : rows.Pairwise fun one two => key one ≤ key two) (fresh : row ∉ rows) :
    rows.insertIdx ((sorted key (rows ++ [row])).idxOf row) row = sorted key (rows ++ [row]) := by
  have there : row ∈ sorted key (rows ++ [row]) :=
    sorted_perm.mem_iff.mpr (List.mem_append_right rows (List.mem_singleton_self row))
  have inside := List.idxOf_lt_length_iff.mpr there
  have kept : rows.Sublist (sorted key (rows ++ [row])) :=
    List.sublist_mergeSort key_trans key_total (ordered.imp fun below => decide_eq_true below) (List.sublist_append_left rows [row])
  have others : rows = (sorted key (rows ++ [row])).erase row := by
    have shorter := kept.erase row
    rw [List.erase_of_not_mem fresh] at shorter
    apply shorter.eq_of_length
    rw [List.length_erase_of_mem there,sorted_perm.length_eq,List.length_append]
    rfl
  rw [List.erase_eq_eraseIdx_of_idxOf rfl] at others
  have again := back_again inside
  rw [List.getElem_idxOf,← others] at again
  exact again

theorem sorted_inside [DecidableEq Row] : (sorted key (rows ++ [row])).idxOf row ≤ rows.length := by
  have there : row ∈ sorted key (rows ++ [row]) :=
    sorted_perm.mem_iff.mpr (List.mem_append_right rows (List.mem_singleton_self row))
  have inside := List.idxOf_lt_length_iff.mpr there
  rw [sorted_perm.length_eq,List.length_append] at inside
  exact Nat.le_of_lt_succ inside

end ImageSearch.SortedRows
