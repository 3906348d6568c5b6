import Mathlib.Data.List.Sort
import Mathlib.Order.Defs.LinearOrder

namespace ImageSearch.Ranking

variable {α Score : Type*} [LinearOrder Score] (score : α → Score)

def descending (l : List α) : List α := l.insertionSort fun one two => score two ≤ score one

variable {score} {l : List α} {a x y : α} {k : Nat}

@[simp] theorem descending_cons : descending score (a :: l) =
    (descending score l).orderedInsert (fun one two => score two ≤ score one) a := rfl

theorem descending_perm : (descending score l).Perm l := List.perm_insertionSort _ l

@[simp] theorem mem_descending : x ∈ descending score l ↔ x ∈ l := descending_perm.mem_iff

theorem descending_ordered (score : α → Score) (l : List α) : (descending score l).Pairwise fun one two => score two ≤ score one := by
  have total : Std.Total fun one two : α => score two ≤ score one := ⟨fun one two => le_total _ _⟩
  have trans : IsTrans α fun one two => score two ≤ score one := ⟨fun _ _ _ one two => two.trans one⟩
  exact List.pairwise_insertionSort _ l

theorem descending_self (ordered : l.Pairwise fun one two => score two ≤ score one) : descending score l = l :=
  ordered.insertionSort_eq

theorem foremost_above (taken : x ∈ (descending score l).take k) (member : y ∈ l) (out : y ∉ (descending score l).take k) :
    score y ≤ score x := by
  have ordered := descending_ordered score l
  rw [← List.take_append_drop k (descending score l),List.pairwise_append] at ordered
  apply ordered.2.2 x taken y
  have there : y ∈ descending score l := mem_descending.mpr member
  rw [← List.take_append_drop k (descending score l),List.mem_append] at there
  exact there.resolve_left out

theorem foremost_among {bound : Score} (enough : k ≤ l.countP fun one => bound ≤ score one)
    (taken : x ∈ (descending score l).take k) : bound ≤ score x := by
  by_contra worse
  have ordered := descending_ordered score l
  have same : (descending score l).countP (fun one => bound ≤ score one) = l.countP fun one => bound ≤ score one :=
    descending_perm.countP_eq _
  rw [← same,← List.take_append_drop k (descending score l),List.countP_append] at enough
  rw [← List.take_append_drop k (descending score l),List.pairwise_append] at ordered
  have none : ((descending score l).drop k).countP (fun one => bound ≤ score one) = 0 := by
    apply List.countP_eq_zero.mpr
    intro y left good
    exact worse ((of_decide_eq_true good).trans (ordered.2.2 x taken y left))
  have fewer : ((descending score l).take k).countP (fun one => bound ≤ score one) < ((descending score l).take k).length := by
    apply lt_of_le_of_ne List.countP_le_length
    intro all
    exact worse (of_decide_eq_true (List.countP_eq_length.mp all x taken))
  have short := List.length_take_le k (descending score l)
  omega

section Positions
variable [DecidableEq α]

variable (score) in
def ahead (l : List α) (x : α) : Nat :=
  (l.takeWhile fun one => one ≠ x).countP (fun one => score x ≤ score one) +
    (l.dropWhile fun one => one ≠ x).countP fun one => score x < score one

theorem ahead_head : ahead score (a :: l) a = l.countP fun one => score a < score one := by
  simp [ahead]

theorem ahead_tail (other : a ≠ x) : ahead score (a :: l) x = ahead score l x + if score x ≤ score a then 1 else 0 := by
  simp only [ahead,List.takeWhile_cons,List.dropWhile_cons,other,ne_eq,not_false_eq_true,decide_true,if_true,List.countP_cons,
    decide_eq_true_eq]
  omega

theorem idxOf_inserted (ordered : l.Pairwise fun one two => score two ≤ score one) (new : a ∉ l) :
    (l.orderedInsert (fun one two => score two ≤ score one) a).idxOf a = l.countP fun one => score a < score one := by
  induction l with
  | nil => simp
  | cons head rest ih =>
      obtain ⟨first,ordered⟩ := List.pairwise_cons.mp ordered
      rw [List.mem_cons,not_or] at new
      by_cases before : score head ≤ score a
      · rw [List.orderedInsert_cons,if_pos before,List.idxOf_cons_self,eq_comm,List.countP_eq_zero]
        intro one member better
        have better := of_decide_eq_true better
        rcases List.mem_cons.mp member with rfl | later
        · exact absurd better (not_lt.mpr before)
        · exact absurd better (not_lt.mpr ((first one later).trans before))
      · rw [List.orderedInsert_cons,if_neg before,List.idxOf_cons_ne _ (Ne.symm new.1),ih ordered new.2,List.countP_cons,
          if_pos (decide_eq_true (not_le.mp before))]

theorem idxOf_kept (ordered : l.Pairwise fun one two => score two ≤ score one) (member : x ∈ l) (other : a ≠ x) :
    (l.orderedInsert (fun one two => score two ≤ score one) a).idxOf x =
      l.idxOf x + if score x ≤ score a then 1 else 0 := by
  induction l with
  | nil => cases member
  | cons head rest ih =>
      obtain ⟨first,ordered⟩ := List.pairwise_cons.mp ordered
      by_cases before : score head ≤ score a
      · have below : score x ≤ score a := by
          rcases List.mem_cons.mp member with rfl | later
          · exact before
          · exact (first x later).trans before
        rw [List.orderedInsert_cons,if_pos before,List.idxOf_cons_ne _ other,if_pos below]
      · rw [List.orderedInsert_cons,if_neg before]
        by_cases same : head = x
        · rw [List.idxOf_cons_eq _ same,List.idxOf_cons_eq _ same,if_neg (same ▸ before)]
        · rw [List.idxOf_cons_ne _ same,List.idxOf_cons_ne _ same,
            ih ordered ((List.mem_cons.mp member).resolve_left (Ne.symm same))]
          omega

theorem idxOf_descending (distinct : l.Nodup) (member : x ∈ l) : (descending score l).idxOf x = ahead score l x := by
  induction l with
  | nil => cases member
  | cons head rest ih =>
      obtain ⟨new,distinct⟩ := List.nodup_cons.mp distinct
      rw [descending_cons]
      by_cases same : head = x
      · subst same
        rw [idxOf_inserted (descending_ordered score rest) (by simpa using new),descending_perm.countP_eq,ahead_head]
      · have later := (List.mem_cons.mp member).resolve_left (Ne.symm same)
        rw [idxOf_kept (descending_ordered score rest) (mem_descending.mpr later) same,ih distinct later,ahead_tail same]

theorem mem_foremost (distinct : l.Nodup) (member : x ∈ l) : x ∈ (descending score l).take k ↔ ahead score l x < k := by
  rw [List.mem_take_iff_idxOf_lt (mem_descending.mpr member),idxOf_descending distinct member]

theorem ahead_sublist {part : List α} (within : part.Sublist l) (distinct : l.Nodup) (member : x ∈ part) :
    ahead score part x ≤ ahead score l x := by
  induction within with
  | slnil => cases member
  | cons head within ih =>
      obtain ⟨new,distinct⟩ := List.nodup_cons.mp distinct
      have other : head ≠ x := fun same => new (same ▸ within.subset member)
      rw [ahead_tail other]
      exact (ih distinct member).trans (Nat.le_add_right _ _)
  | cons_cons head within ih =>
      obtain ⟨-,distinct⟩ := List.nodup_cons.mp distinct
      by_cases same : head = x
      · subst same
        rw [ahead_head,ahead_head]
        exact within.countP_le
      · rw [ahead_tail same,ahead_tail same]
        exact Nat.add_le_add_right (ih distinct ((List.mem_cons.mp member).resolve_left (Ne.symm same))) _

theorem foremost_cut {part : List α} (within : part.Sublist l) (distinct : l.Nodup)
    (outside : ∀ x ∈ l, x ∉ part → k ≤ ahead score l x) (enough : part.length < k → part = l) :
    x ∈ (descending score part).take k ↔ x ∈ (descending score l).take k := by
  by_cases short : part.length < k
  · rw [enough short]
  · -- The larger of two sets of k members that lie in one another.
    have few := distinct.sublist within
    have into : ((descending score l).take k) ⊆ (descending score part).take k := by
      intro y taken
      have member : y ∈ l := mem_descending.mp (List.mem_of_mem_take taken)
      have before := (mem_foremost distinct member).mp taken
      have inside : y ∈ part := by
        by_contra out
        exact absurd before (Nat.not_lt.mpr (outside y member out))
      exact (mem_foremost few inside).mpr ((ahead_sublist within distinct inside).trans_lt before)
    have sorted : ((descending score l).take k).Nodup := (descending_perm.nodup_iff.mpr distinct).sublist (List.take_sublist _ _)
    have all : ((descending score l).take k).Perm ((descending score part).take k) := by
      apply (List.subperm_of_subset sorted into).perm_of_length_le
      rw [List.length_take,List.length_take,descending_perm.length_eq,descending_perm.length_eq]
      have longer := within.length_le
      omega
    exact all.mem_iff.symm

end Positions

end ImageSearch.Ranking
