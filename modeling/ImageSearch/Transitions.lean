import Mathlib.Logic.Relation

namespace ImageSearch.Transitions

-- A label carries every choice that is not the system's own: which party moves,
-- what a caller passes, what a device or a peer answers. `none` refuses the label.
structure System (State Label : Type*) where
  step : State → Label → Option State

variable {State Label : Type*} {system : System State Label} {admitted : State → Label → Prop}
  {s middle next : State}

-- Every step of the path meets the condition in the state it is taken from.
def Reaches (system : System State Label) (admitted : State → Label → Prop) : State → State → Prop :=
  Relation.ReflTransGen fun s next => ∃ label, admitted s label ∧ system.step s label = some next

-- The unconditional closure: every run of the system.
def Reachable (system : System State Label) : State → State → Prop :=
  Reaches system fun _ _ => True

theorem reaches_refl : Reaches system admitted s s := Relation.ReflTransGen.refl

theorem reaches_step (path : Reaches system admitted s middle) (allowed : admitted middle label)
    (taken : system.step middle label = some next) : Reaches system admitted s next :=
  Relation.ReflTransGen.tail path ⟨label,allowed,taken⟩

theorem reaches_trans (one : Reaches system admitted s middle) (two : Reaches system admitted middle next) :
    Reaches system admitted s next := Relation.ReflTransGen.trans one two

theorem reaches_weaken {weaker : State → Label → Prop} (imp : ∀ s label, admitted s label → weaker s label)
    (path : Reaches system admitted s next) : Reaches system weaker s next := by
  refine Relation.ReflTransGen.mono ?_ _ _ path
  rintro s next ⟨label,allowed,taken⟩
  exact ⟨label,imp s label allowed,taken⟩

theorem reaches_preserves {invariant : State → Prop}
    (preserved : ∀ s label next, invariant s → admitted s label → system.step s label = some next → invariant next)
    (start : invariant s) (path : Reaches system admitted s next) : invariant next := by
  induction path with
  | refl => exact start
  | tail _ step ih =>
      obtain ⟨label,allowed,taken⟩ := step
      exact preserved _ label _ ih allowed taken

def System.checkedRun (system : System State Label) (admitted : State → Label → Prop)
    [∀ s label, Decidable (admitted s label)] : State → List Label → Option State
  | s,[] => some s
  | s,label :: rest =>
    if admitted s label then (system.step s label).bind fun middle => system.checkedRun admitted middle rest
    else none

theorem checkedRun_reaches [∀ s label, Decidable (admitted s label)] {labels : List Label}
    (ran : system.checkedRun admitted s labels = some next) : Reaches system admitted s next := by
  induction labels generalizing s with
  | nil => cases ran; exact reaches_refl
  | cons label rest ih =>
      simp only [System.checkedRun] at ran
      split at ran
      · rename_i allowed
        obtain ⟨middle,taken,rest⟩ := Option.bind_eq_some_iff.mp ran
        exact reaches_trans (reaches_step reaches_refl allowed taken) (ih rest)
      · cases ran

-- A schedule that evaluates to a state with a decidable property exhibits a run to one.
theorem checkedRun_exhibits (system : System State Label) (admitted : State → Label → Prop)
    [∀ s label, Decidable (admitted s label)] (s : State) (labels : List Label) (seen : State → Bool)
    (ran : (system.checkedRun admitted s labels).any seen = true) :
    ∃ next, Reaches system admitted s next ∧ seen next = true := by
  cases done : system.checkedRun admitted s labels with
  | none => simp [done] at ran
  | some next => exact ⟨next,checkedRun_reaches done,by simpa [done] using ran⟩

end ImageSearch.Transitions
