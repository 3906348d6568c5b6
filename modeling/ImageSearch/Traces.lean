import ImageSearch.Transitions

namespace ImageSearch.Traces
open Transitions

variable {State Label : Type*} {system : System State Label} {admitted : State → Label → Prop} {s next : State}
  {trace : List (State × Label)}

inductive Traced (system : System State Label) (admitted : State → Label → Prop) (s : State) :
    List (State × Label) → State → Prop
  | nil : Traced system admitted s [] s
  | snoc {trace : List (State × Label)} {middle next : State} {label : Label} (path : Traced system admitted s trace middle)
      (allowed : admitted middle label) (taken : system.step middle label = some next) :
      Traced system admitted s (trace ++ [(middle,label)]) next

theorem reaches_traced (path : Reaches system admitted s next) : ∃ trace, Traced system admitted s trace next := by
  induction path with
  | refl => exact ⟨[],.nil⟩
  | tail _ step ih =>
      obtain ⟨trace,before⟩ := ih
      obtain ⟨label,allowed,taken⟩ := step
      exact ⟨_,.snoc before allowed taken⟩

-- Where every counted step is paid for out of what is left, and no step adds to it, the first
-- allowance bounds the counted steps of the run.
theorem traced_spends {counted : State × Label → Bool} {left : State → Nat → Prop} {allowance : Nat}
    (spends : ∀ s label next k, left s k → admitted s label → system.step s label = some next →
      ∃ rest, left next rest ∧ rest + (if counted (s,label) then 1 else 0) ≤ k)
    (start : left s allowance) (path : Traced system admitted s trace next) :
    ∃ rest, left next rest ∧ trace.countP counted + rest ≤ allowance := by
  induction path with
  | nil => exact ⟨allowance,start,by simp⟩
  | @snoc trace middle next label _ allowed taken ih =>
      obtain ⟨before,here,spent⟩ := ih
      obtain ⟨rest,there,paid⟩ := spends middle label next before here allowed taken
      refine ⟨rest,there,?_⟩
      rw [List.countP_append,List.countP_singleton]
      omega

end ImageSearch.Traces
