import ImageSearch.Transitions
import Mathlib.Algebra.BigOperators.Group.Finset.Piecewise
import Mathlib.Algebra.GroupWithZero.Nat
import Mathlib.Data.Fintype.Basic

namespace ImageSearch.Threads
open Transitions

-- The numbers of threads that a run looked at by itself may have.
instance (priority := 2000) oneThread : NeZero 1 := ⟨by decide⟩
instance (priority := 2000) twoThreads : NeZero 2 := ⟨by decide⟩
instance (priority := 2000) threeThreads : NeZero 3 := ⟨by decide⟩

variable {Index World Local Input Event : Type*}

structure Pool (Index World Local : Type*) where
  world : World
  threads : Index → Local

-- `input` is what one atomic step is handed from outside: an oracle's answer, a
-- peer's message. The environment moves the shared world alone.
inductive Move (Index Input Event : Type*) where
  | thread (i : Index) (input : Input)
  | environment (event : Event)

variable [DecidableEq Index]

def pool (step : World → Local → Input → Option (World × Local)) (environment : World → Event → Option World) :
    System (Pool Index World Local) (Move Index Input Event) where
  step s
    | .thread i input => (step s.world (s.threads i) input).map fun next =>
        ⟨next.1,Function.update s.threads i next.2⟩
    | .environment event => (environment s.world event).map fun next => {s with world:=next}

variable {step : World → Local → Input → Option (World × Local)} {environment : World → Event → Option World}
  {s next : Pool Index World Local}

theorem thread_parts (taken : (pool step environment).step s (.thread i input) = some next) :
    ∃ world' thread', step s.world (s.threads i) input = some (world',thread') ∧
      next = ⟨world',Function.update s.threads i thread'⟩ := by
  obtain ⟨⟨world',thread'⟩,moved,rfl⟩ := Option.map_eq_some_iff.mp taken
  exact ⟨world',thread',moved,rfl⟩

theorem environment_parts (taken : (pool step environment).step s (.environment event) = some next) :
    ∃ world', environment s.world event = some world' ∧ next = {s with world:=world'} := by
  obtain ⟨world',moved,rfl⟩ := Option.map_eq_some_iff.mp taken
  exact ⟨world',moved,rfl⟩

-- A condition on one step: on the thread that moves, on it beside each other
-- thread, and on an environment event beside each thread.
structure Condition (World Local Input Event : Type*) where
  own : World → Local → Input → Prop := fun _ _ _ => True
  beside : World → Local → Input → Local → Prop := fun _ _ _ _ => True
  event : World → Event → Local → Prop := fun _ _ _ => True

def Condition.Admits (condition : Condition World Local Input Event) (s : Pool Index World Local) :
    Move Index Input Event → Prop
  | .thread i input => condition.own s.world (s.threads i) input ∧
      ∀ j, j ≠ i → condition.beside s.world (s.threads i) input (s.threads j)
  | .environment event => ∀ j, condition.event s.world event (s.threads j)

instance (condition : Condition World Local Input Event) [Fintype Index]
    [own : ∀ w t x, Decidable (condition.own w t x)] [beside : ∀ w t x u, Decidable (condition.beside w t x u)]
    [event : ∀ w e u, Decidable (condition.event w e u)] (s : Pool Index World Local) (move : Move Index Input Event) :
    Decidable (condition.Admits s move) :=
  match move with
  | .thread i input => inferInstanceAs (Decidable (condition.own s.world (s.threads i) input ∧
      ∀ j, j ≠ i → condition.beside s.world (s.threads i) input (s.threads j)))
  | .environment e => inferInstanceAs (Decidable (∀ j, condition.event s.world e (s.threads j)))

structure Assertions (World Local : Type*) where
  world : World → Prop := fun _ => True
  thread : World → Local → Prop := fun _ _ => True
  pair : Local → Local → Prop := fun _ _ => True

structure Assertions.Hold (a : Assertions World Local) (s : Pool Index World Local) : Prop where
  world : a.world s.world
  thread : ∀ i, a.thread s.world (s.threads i)
  pair : ∀ i j, i ≠ j → a.pair (s.threads i) (s.threads j)

-- The moving thread keeps its own assertions, interferes with no other thread's,
-- and an environment event keeps them all. Threads that do not move keep their
-- pair assertions, which do not read the world.
structure Stable (a : Assertions World Local) (step : World → Local → Input → Option (World × Local))
    (environment : World → Event → Option World) (condition : Condition World Local Input Event) : Prop where
  own : ∀ {w t x w' t'}, a.world w → a.thread w t → condition.own w t x → step w t x = some (w',t') →
    a.world w' ∧ a.thread w' t'
  other : ∀ {w t u x w' t'}, a.world w → a.thread w t → a.thread w u → a.pair t u → a.pair u t →
    condition.own w t x → condition.beside w t x u → step w t x = some (w',t') →
    a.thread w' u ∧ a.pair t' u ∧ a.pair u t'
  eventWorld : ∀ {w e w'}, a.world w → environment w e = some w' → a.world w'
  eventThread : ∀ {w e w' u}, a.world w → a.thread w u → condition.event w e u → environment w e = some w' →
    a.thread w' u

variable {a : Assertions World Local} {condition : Condition World Local Input Event}

theorem hold_preserved (stable : Stable a step environment condition) (old : a.Hold s)
    (allowed : condition.Admits s move) (taken : (pool step environment).step s move = some next) : a.Hold next := by
  cases move with
  | thread i input =>
      obtain ⟨world',thread',moved,rfl⟩ := thread_parts taken
      obtain ⟨newWorld,newThread⟩ := stable.own old.world (old.thread i) allowed.1 moved
      have beside : ∀ j, j ≠ i → a.thread world' (s.threads j) ∧ a.pair thread' (s.threads j) ∧
          a.pair (s.threads j) thread' := fun j different =>
        stable.other old.world (old.thread i) (old.thread j) (old.pair i j different.symm)
          (old.pair j i different) allowed.1 (allowed.2 j different) moved
      refine ⟨newWorld,?_,?_⟩
      · intro j
        by_cases same : j = i
        · subst j; simpa using newThread
        · simpa [same] using (beside j same).1
      · intro j k different
        by_cases first : j = i
        · subst j
          simpa [Ne.symm different] using (beside k (Ne.symm different)).2.1
        · by_cases second : k = i
          · subst k; simpa [first] using (beside j first).2.2
          · simpa [first,second] using old.pair j k different
  | environment event =>
      obtain ⟨world',moved,rfl⟩ := environment_parts taken
      exact ⟨stable.eventWorld old.world moved,
        fun i => stable.eventThread old.world (old.thread i) (allowed i) moved,old.pair⟩

theorem hold_reaches (stable : Stable a step environment condition) (start : a.Hold s)
    (path : Reaches (pool step environment) condition.Admits s next) : a.Hold next :=
  reaches_preserves (fun _ _ _ old allowed taken => hold_preserved stable old allowed taken) start path

-- What the threads hold between them, after one of them changed.
theorem sum_update {M : Type*} [AddCommMonoid M] [Fintype Index] (held : Local → M) (threads : Index → Local) (i : Index)
    (moved : Local) :
    ∑ j, held (Function.update threads i moved j) + held (threads i) = ∑ j, held (threads j) + held moved := by
  have one := Finset.sum_update_of_mem (Finset.mem_univ i) (fun j => held (threads j)) (held moved)
  have all := Finset.sum_update_of_mem (Finset.mem_univ i) (fun j => held (threads j)) (held (threads i))
  have same : (fun j => held (Function.update threads i moved j)) =
      Function.update (fun j => held (threads j)) i (held moved) := by
    funext j
    by_cases here : j = i
    · subst j; simp
    · simp [here]
  rw [Function.update_eq_self] at all
  rw [same,one,all]
  ac_rfl

def Alone (step : World → Local → Input → Option (World × Local)) : World × Local → World × Local → Prop :=
  Relation.ReflTransGen fun before after => ∃ input, step before.1 before.2 input = some after

end ImageSearch.Threads
