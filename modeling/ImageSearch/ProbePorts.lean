import Mathlib.Data.List.Nodup
import Mathlib.Algebra.Order.Group.Abs
import Mathlib.Algebra.Order.Ring.Int

namespace ImageSearch.ProbePorts

-- candidate_ports after the loop's turns for the offsets 1..turns.
def candidatePorts (suggestedPort : Int) : Nat → List Int
  | 0 => [suggestedPort]
  | turns+1 =>
    let offset : Int := turns+1
    let candidates := candidatePorts suggestedPort turns
    let candidates := if suggestedPort+offset ≤ 65535 then candidates ++ [suggestedPort+offset] else candidates
    if suggestedPort-offset ≥ 1 then candidates ++ [suggestedPort-offset] else candidates

def iterUsbProbePorts (suggestedPort fallbackPortWindow : Int) : Except String (List Int) :=
  if suggestedPort ≤ 0 ∨ suggestedPort > 65535 then .error "USB suggested port must be in range 1..65535."
  else if fallbackPortWindow < 0 then .error "USB fallback port window must be non-negative."
  else .ok (candidatePorts suggestedPort fallbackPortWindow.toNat)

def Earlier (suggestedPort one two : Int) : Prop :=
  |one - suggestedPort| ≤ |two - suggestedPort| ∧ (|one - suggestedPort| = |two - suggestedPort| → two < one)

variable {suggestedPort one two : Int} {turns : Nat}

theorem earlier_nearer (nearer : |one - suggestedPort| < |two - suggestedPort|) : Earlier suggestedPort one two :=
  ⟨nearer.le,fun same => absurd same nearer.ne⟩

theorem earlier_differ (before : Earlier suggestedPort one two) : one ≠ two := by
  rintro rfl
  exact lt_irrefl _ (before.2 rfl)

theorem distance_higher : |suggestedPort+((turns : Int)+1) - suggestedPort| = turns+1 := by
  rw [add_sub_cancel_left]
  exact abs_of_nonneg (by omega)

theorem distance_lower : |suggestedPort-((turns : Int)+1) - suggestedPort| = turns+1 := by
  rw [sub_sub_cancel_left,abs_neg]
  exact abs_of_nonneg (by omega)

theorem candidates_head : ∃ rest, candidatePorts suggestedPort turns = suggestedPort :: rest := by
  induction turns with
  | zero => exact ⟨[],rfl⟩
  | succ turns ih =>
      obtain ⟨rest,first⟩ := ih
      simp only [candidatePorts,first]
      split
      · split
        · exact ⟨_,rfl⟩
        · exact ⟨_,rfl⟩
      · split
        · exact ⟨_,rfl⟩
        · exact ⟨_,rfl⟩

theorem candidates_mem (low : 1 ≤ suggestedPort) (high : suggestedPort ≤ 65535) (port : Int) :
    port ∈ candidatePorts suggestedPort turns ↔
      (suggestedPort - turns ≤ port ∧ port ≤ suggestedPort + turns) ∧ 1 ≤ port ∧ port ≤ 65535 := by
  induction turns with
  | zero =>
      simp only [candidatePorts,List.mem_singleton]
      omega
  | succ turns ih =>
      simp only [candidatePorts]
      split
      · split
        · simp only [List.mem_append,List.mem_singleton,ih]
          omega
        · simp only [List.mem_append,List.mem_singleton,ih]
          omega
      · split
        · simp only [List.mem_append,List.mem_singleton,ih]
          omega
        · rw [ih]
          omega

theorem candidates_near (low : 1 ≤ suggestedPort) (high : suggestedPort ≤ 65535) {port : Int}
    (member : port ∈ candidatePorts suggestedPort turns) : |port - suggestedPort| ≤ turns := by
  have within := ((candidates_mem low high port).mp member).1
  exact abs_le.mpr ⟨by omega,by omega⟩

theorem ordered_append {ports : List Int} {last : Int} (ordered : ports.Pairwise (Earlier suggestedPort))
    (later : ∀ port ∈ ports, Earlier suggestedPort port last) : (ports ++ [last]).Pairwise (Earlier suggestedPort) := by
  refine List.pairwise_append.mpr ⟨ordered,List.pairwise_singleton _ _,?_⟩
  intro port member only single
  rw [List.mem_singleton.mp single]
  exact later port member

theorem candidates_ordered (low : 1 ≤ suggestedPort) (high : suggestedPort ≤ 65535) :
    (candidatePorts suggestedPort turns).Pairwise (Earlier suggestedPort) := by
  induction turns with
  | zero => exact List.pairwise_singleton _ _
  | succ turns ih =>
      -- Both ports of a turn are farther than what is there, and the higher is put first.
      have higher : ∀ port ∈ candidatePorts suggestedPort turns, Earlier suggestedPort port (suggestedPort+((turns : Int)+1)) := by
        intro port member
        apply earlier_nearer
        rw [distance_higher]
        exact Int.lt_add_one_of_le (candidates_near low high member)
      have lower : ∀ port ∈ candidatePorts suggestedPort turns, Earlier suggestedPort port (suggestedPort-((turns : Int)+1)) := by
        intro port member
        apply earlier_nearer
        rw [distance_lower]
        exact Int.lt_add_one_of_le (candidates_near low high member)
      have pair : Earlier suggestedPort (suggestedPort+((turns : Int)+1)) (suggestedPort-((turns : Int)+1)) := by
        refine ⟨?_,fun _ => by omega⟩
        rw [distance_higher,distance_lower]
      by_cases room : suggestedPort+((turns : Int)+1) ≤ 65535
      · have added := ordered_append ih higher
        simp only [candidatePorts,if_pos room]
        split
        · apply ordered_append added
          intro port member
          rcases List.mem_append.mp member with before | now
          · exact lower port before
          · rw [List.mem_singleton.mp now]
            exact pair
        · exact added
      · simp only [candidatePorts,if_neg room]
        split
        · exact ordered_append ih lower
        · exact ih

theorem probes_every_port (suggestedPort window : Int) (low : 1 ≤ suggestedPort) (high : suggestedPort ≤ 65535)
    (counts : 0 ≤ window) :
    ∃ ports, iterUsbProbePorts suggestedPort window = .ok ports ∧ ports.head? = some suggestedPort ∧
      (∀ port, port ∈ ports ↔
        (suggestedPort - window ≤ port ∧ port ≤ suggestedPort + window) ∧ 1 ≤ port ∧ port ≤ 65535) ∧
      ports.Nodup ∧
      ports.Pairwise fun one two => |one - suggestedPort| ≤ |two - suggestedPort| ∧
        (|one - suggestedPort| = |two - suggestedPort| → two < one) := by
  have range : ¬(suggestedPort ≤ 0 ∨ suggestedPort > 65535) := by omega
  have counted : ((window.toNat : Nat) : Int) = window := Int.toNat_of_nonneg counts
  refine ⟨candidatePorts suggestedPort window.toNat,?_,?_,?_,?_,candidates_ordered low high⟩
  · unfold iterUsbProbePorts
    rw [if_neg range,if_neg (not_lt.mpr counts)]
  · obtain ⟨rest,first⟩ := @candidates_head suggestedPort window.toNat
    rw [first,List.head?_cons]
  · intro port
    rw [candidates_mem low high,counted]
  · exact (candidates_ordered low high).imp earlier_differ

theorem probes_last_port :
    (1 ≤ (65534 : Int) ∧ (65534 : Int) ≤ 65535 ∧ (0 : Int) ≤ 2) ∧
    iterUsbProbePorts 65534 2 = .ok [65534,65535,65533,65532] ∧
    ∃ ports, iterUsbProbePorts 65534 2 = .ok ports ∧ ports.head? = some 65534 ∧ 65535 ∈ ports := by
  refine ⟨by decide,by decide,?_⟩
  obtain ⟨ports,returned,first,members,-⟩ := probes_every_port 65534 2 (by decide) (by decide) (by decide)
  exact ⟨ports,returned,first,(members 65535).mpr (by decide)⟩

end ImageSearch.ProbePorts
