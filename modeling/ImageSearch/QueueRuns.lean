import Mathlib.Data.List.Basic
import ImageSearch.Transitions
import ImageSearch.AsyncQueue

namespace ImageSearch.QueueRuns
open Transitions AsyncQueue

variable {Item : Type*} {queue after : Queue Item} {item : Item} {answered : List (Nat × Option Item)}

-- `resume` is the consumer of a resolved promise running on.
inductive Call (Item : Type*) where
  | push (item : Item)
  | shift
  | tryShift
  | close
  | resume (promise : Nat)

-- The queue, with the items of the push calls made before any call of close, the items
-- delivered in the order of their delivery, and every promise resolved so far.
structure QueueRun (Item : Type*) where
  queue : Queue Item
  pushed : List Item
  delivered : List Item
  answers : List (Nat × Option Item)
  closeCalled : Bool

def QueueRun.start : QueueRun Item := ⟨.empty,[],[],[],false⟩

def resolvedBy (queue after : Queue Item) : List (Nat × Option Item) := after.resolved.drop queue.resolved.length

def QueueRun.observe (run : QueueRun Item) (after : Queue Item) : QueueRun Item :=
  {run with
    queue:=after
    delivered:=run.delivered ++ (resolvedBy run.queue after).filterMap Prod.snd
    answers:=run.answers ++ resolvedBy run.queue after}

def QueueRun.call (run : QueueRun Item) : Call Item → Option (QueueRun Item)
  | .push item => some {run.observe (run.queue.push item) with
      pushed:=if run.closeCalled then run.pushed else run.pushed ++ [item]}
  | .shift => some (run.observe run.queue.shift)
  | .tryShift => some (match run.queue.tryShift with
      | none => run
      | some (item,rest) => {run with queue:=rest,delivered:=run.delivered ++ [item]})
  | .close => some {run.observe run.queue.close with closeCalled:=true}
  | .resume promise => (run.queue.take promise).map fun taken => {run with queue:=taken.2}

def calls : System (QueueRun Item) (Call Item) := ⟨QueueRun.call⟩

theorem resolved_by (grown : after.resolved = queue.resolved ++ answered) : resolvedBy queue after = answered := by
  unfold resolvedBy
  rw [grown,List.drop_left]

inductive Pushed (queue : Queue Item) (item : Item) (after : Queue Item) : Prop where
  | handed (waiter : Nat) (waits : queue.waiters = waiter :: after.waiters) (items : after.items = queue.items)
      (resolved : after.resolved = queue.resolved ++ [(waiter,some item)])
  | stored (idle : queue.waiters = []) (still : after.waiters = []) (items : after.items = queue.items ++ [item])
      (resolved : after.resolved = queue.resolved ++ [])

theorem push_ends (opened : queue.closed = false) : Pushed queue item (queue.push item) := by
  have unshut : ¬queue.closed = true := by simp [opened]
  unfold Queue.push
  rw [dif_neg unshut]
  split
  · rename_i waiter waiters waits
    exact .handed waiter waits rfl rfl
  · rename_i idle
    exact .stored idle idle rfl (List.append_nil _).symm

theorem push_issued : (queue.push item).issued = queue.issued := by
  unfold Queue.push
  split
  · rfl
  · split
    · rfl
    · rfl

inductive Shifted (queue after : Queue Item) : Prop where
  | served (item : Item) (items : queue.items = item :: after.items) (waiters : after.waiters = queue.waiters)
      (resolved : after.resolved = queue.resolved ++ [(queue.issued,some item)])
  | ended (drained : queue.Drained) (items : after.items = queue.items) (waiters : after.waiters = queue.waiters)
      (resolved : after.resolved = queue.resolved ++ [(queue.issued,none)])
  | waits (opened : queue.closed = false) (none : queue.items = []) (items : after.items = [])
      (waiters : after.waiters = queue.waiters ++ [queue.issued]) (resolved : after.resolved = queue.resolved ++ [])

theorem tryShift_taken {rest : Queue Item} (taken : queue.tryShift = some (item,rest)) :
    queue.items = item :: rest.items ∧ rest.waiters = queue.waiters ∧ rest.closed = queue.closed ∧
      rest.resolved = queue.resolved ∧ rest.issued = queue.issued := by
  unfold Queue.tryShift at taken
  split at taken
  · cases taken
  · rename_i items held
    cases taken
    exact ⟨held,rfl,rfl,rfl,rfl⟩

theorem tryShift_empty (nothing : queue.tryShift = none) : queue.items = [] := by
  unfold Queue.tryShift at nothing
  split at nothing
  · assumption
  · cases nothing

theorem shift_ends : Shifted queue queue.shift := by
  unfold Queue.shift
  split
  · rename_i item rest taken
    obtain ⟨items,waiters,-,resolved,-⟩ := tryShift_taken taken
    exact .served item items waiters (congrArg (fun entries => entries ++ [(queue.issued,some item)]) resolved)
  · rename_i nothing
    have empty := tryShift_empty nothing
    split
    · rename_i ended
      exact .ended ended rfl rfl rfl
    · rename_i unended
      refine .waits ?_ empty empty rfl (List.append_nil _).symm
      cases shut : queue.closed with
      | false => rfl
      | true => exact absurd ⟨shut,empty⟩ unended

theorem shift_issued : queue.shift.issued = queue.issued+1 := by
  unfold Queue.shift
  split
  · rfl
  · split
    · rfl
    · rfl

-- With consumers waiting there is nothing stored, and all of them learn of the end.
theorem close_answers (opened : queue.closed = false) (apart : queue.items = [] ∨ queue.waiters = []) :
    queue.close.items = queue.items ∧
      queue.close.resolved = queue.resolved ++ queue.waiters.map fun waiter => (waiter,none) := by
  unfold Queue.close
  rw [if_neg (by simp [opened])]
  rcases apart with empty | idle
  · simp [empty]
  · simp [idle]

theorem close_closes : queue.close.closed = true ∧ queue.close.issued = queue.issued := by
  unfold Queue.close
  split
  · rename_i shut
    exact ⟨shut,rfl⟩
  · exact ⟨rfl,rfl⟩

theorem close_waiters (opened : queue.closed = false) : queue.close.waiters = [] := by
  unfold Queue.close
  rw [if_neg (by simp [opened])]

theorem take_issued {promise : Nat} {item? : Option Item} (taken : queue.take promise = some (item?,after)) :
    after.issued = queue.issued := by
  unfold Queue.take at taken
  split at taken
  · cases taken
  · cases taken
    rfl

structure Kept (run : QueueRun Item) : Prop where
  closed : run.queue.closed = run.closeCalled
  apart : run.queue.items = [] ∨ run.queue.waiters = []
  accounted : run.delivered ++ run.queue.items = run.pushed
  ended : ∀ promise, (promise,none) ∈ run.answers → run.queue.Drained
  settled : run.queue.closed = true → run.queue.waiters = []
  promises : (run.answers.map Prod.fst ++ run.queue.waiters).Perm (List.range run.queue.issued)

variable {run next : QueueRun Item}

theorem kept_start : Kept (QueueRun.start : QueueRun Item) where
  closed := rfl
  apart := .inl rfl
  accounted := rfl
  ended := by simp [QueueRun.start]
  settled := fun _ => rfl
  promises := by simp [QueueRun.start,Queue.empty]

theorem observe_same : run.observe run.queue = run := by
  have nothing : resolvedBy run.queue run.queue = [] := resolved_by (List.append_nil _).symm
  unfold QueueRun.observe
  rw [nothing,List.filterMap_nil,List.append_nil,List.append_nil]

theorem kept_push (kept : Kept run) : Kept {run.observe (run.queue.push item) with
    pushed:=if run.closeCalled then run.pushed else run.pushed ++ [item]} := by
  rcases Bool.eq_false_or_eq_true run.closeCalled with called | called
  · have shut : run.queue.closed = true := kept.closed.trans called
    rw [push_shut shut,observe_same,if_pos called]
    exact kept
  · rw [if_neg (by simp [called])]
    have opened : run.queue.closed = false := kept.closed.trans called
    have still : (run.queue.push item).closed = false := push_closed.trans opened
    have unended : ∀ promise, (promise,none) ∉ run.answers := by
      intro promise member
      exact absurd ((kept.ended promise member).1.symm.trans opened) (by decide)
    rcases @push_ends Item run.queue item opened with ⟨waiter,waits,items,resolved⟩ | ⟨idle,idleAfter,items,resolved⟩
    · have empty : run.queue.items = [] := kept.apart.resolve_right (by simp [waits])
      have answered := resolved_by resolved
      refine ⟨still.trans called.symm,.inl (items.trans empty),?_,?_,?_,?_⟩
      · have before := kept.accounted
        rw [empty,List.append_nil] at before
        simp [QueueRun.observe,answered,items,empty,before]
      · intro promise member
        simp only [QueueRun.observe,answered,List.mem_append,List.mem_singleton,Prod.mk.injEq] at member
        rcases member with old | ⟨-,other⟩
        · exact absurd old (unended promise)
        · cases other
      · intro shut
        exact absurd (shut.symm.trans still) (by decide)
      · have before := kept.promises
        rw [waits] at before
        simpa [QueueRun.observe,answered,push_issued] using before
    · have answered := resolved_by resolved
      refine ⟨still.trans called.symm,.inr idleAfter,?_,?_,?_,?_⟩
      · simp [QueueRun.observe,answered,items,← kept.accounted]
      · intro promise member
        simp only [QueueRun.observe,answered,List.append_nil] at member
        exact absurd member (unended promise)
      · intro _
        exact idleAfter
      · have before := kept.promises
        rw [idle] at before
        simpa [QueueRun.observe,answered,push_issued,idleAfter] using before

theorem range_issued {issued : Nat} {promises rest : List Nat} (all : (promises ++ rest).Perm (List.range issued)) :
    (promises ++ [issued] ++ rest).Perm (List.range (issued+1)) := by
  rw [List.range_succ,List.append_assoc]
  refine (List.perm_append_comm_assoc promises [issued] rest).trans ?_
  have moved : ([issued] ++ (promises ++ rest)).Perm (promises ++ rest ++ [issued]) := List.perm_append_comm
  exact moved.trans (all.append_right [issued])

theorem kept_shift (kept : Kept run) : Kept (run.observe run.queue.shift) := by
  have closed : run.queue.shift.closed = run.queue.closed := shift_closed
  rcases @shift_ends _ run.queue with ⟨item,items,waiters,resolved⟩ | ⟨drained,items,waiters,resolved⟩ |
    ⟨opened,none,items,waiters,resolved⟩
  · have answered := resolved_by resolved
    have idle : run.queue.waiters = [] := kept.apart.resolve_left (by simp [items])
    refine ⟨closed.trans kept.closed,.inr (waiters.trans idle),?_,?_,?_,?_⟩
    · have before := kept.accounted
      rw [items] at before
      simpa [QueueRun.observe,answered] using before
    · intro promise member
      simp only [QueueRun.observe,answered,List.mem_append,List.mem_singleton,Prod.mk.injEq] at member
      rcases member with old | ⟨-,other⟩
      · exact absurd (kept.ended promise old).2 (by simp [items])
      · cases other
    · intro _
      exact waiters.trans idle
    · simpa [QueueRun.observe,answered,waiters,shift_issued] using range_issued kept.promises
  · have answered := resolved_by resolved
    have drainedAfter : run.queue.shift.Drained := ⟨closed.trans drained.1,items.trans drained.2⟩
    refine ⟨closed.trans kept.closed,.inl drainedAfter.2,?_,fun _ _ => drainedAfter,?_,?_⟩
    · simpa [QueueRun.observe,answered,items] using kept.accounted
    · intro _
      exact waiters.trans (kept.settled drained.1)
    · simpa [QueueRun.observe,answered,waiters,shift_issued] using range_issued kept.promises
  · have answered := resolved_by resolved
    refine ⟨closed.trans kept.closed,.inl items,?_,?_,?_,?_⟩
    · have before := kept.accounted
      rw [none] at before
      simpa [QueueRun.observe,answered,items] using before
    · intro promise member
      simp only [QueueRun.observe,answered,List.append_nil] at member
      exact absurd ((kept.ended promise member).1.symm.trans opened) (by decide)
    · intro shut
      exact absurd ((closed.symm.trans shut).symm.trans opened) (by decide)
    · have all := kept.promises.append_right [run.queue.issued]
      simpa [QueueRun.observe,answered,waiters,shift_issued,List.range_succ,List.append_assoc] using all

theorem kept_tryShift {rest : Queue Item} (kept : Kept run) (taken : run.queue.tryShift = some (item,rest)) :
    Kept {run with queue:=rest,delivered:=run.delivered ++ [item]} := by
  obtain ⟨items,waiters,closed,-,issued⟩ := tryShift_taken taken
  have idle : run.queue.waiters = [] := kept.apart.resolve_left (by simp [items])
  refine ⟨closed.trans kept.closed,.inr (waiters.trans idle),?_,?_,fun _ => waiters.trans idle,?_⟩
  · have before := kept.accounted
    rw [items] at before
    simpa using before
  · intro promise member
    exact absurd (kept.ended promise member).2 (by simp [items])
  · simpa [waiters,issued] using kept.promises

theorem kept_close (kept : Kept run) : Kept {run.observe run.queue.close with closeCalled:=true} := by
  cases shut : run.queue.closed with
  | true =>
      have called : run.closeCalled = true := kept.closed.symm.trans shut
      rw [close_shut shut,observe_same]
      exact ⟨shut,kept.apart,kept.accounted,kept.ended,kept.settled,kept.promises⟩
  | false =>
      obtain ⟨items,resolved⟩ := close_answers shut kept.apart
      have answered := resolved_by resolved
      have waiters := close_waiters shut
      have nothing : (run.queue.waiters.map fun waiter => (waiter,(none : Option Item))).filterMap Prod.snd = [] := by
        simp
      refine ⟨close_closes.1,.inr waiters,?_,?_,fun _ => waiters,?_⟩
      · simpa [QueueRun.observe,answered,items,nothing] using kept.accounted
      · intro promise member
        refine ⟨close_closes.1,items.trans ?_⟩
        simp only [QueueRun.observe,answered,List.mem_append,List.mem_map] at member
        rcases member with old | ⟨waiter,waits,-⟩
        · exact (kept.ended promise old).2
        · exact kept.apart.resolve_right (List.ne_nil_of_mem waits)
      · simpa [QueueRun.observe,answered,waiters,close_closes.2,Function.comp_def] using kept.promises

theorem kept_step (call : Call Item) (kept : Kept run) (taken : calls.step run call = some next) : Kept next := by
  cases call with
  | push item =>
      cases taken
      exact kept_push kept
  | shift =>
      cases taken
      exact kept_shift kept
  | tryShift =>
      simp only [calls,QueueRun.call,Option.some.injEq] at taken
      split at taken
      · subst taken
        exact kept
      · rename_i item rest held
        subst taken
        exact kept_tryShift kept held
  | close =>
      cases taken
      exact kept_close kept
  | resume promise =>
      obtain ⟨⟨item?,after⟩,received,rfl⟩ := Option.map_eq_some_iff.mp taken
      obtain ⟨items,waiters,closed,-⟩ := take_parts received
      have issued := take_issued received
      exact ⟨closed.trans kept.closed,by simpa [items,waiters] using kept.apart,by simpa [items] using kept.accounted,
        fun other member => take_drained (kept.ended other member) received,
        by simpa [closed,waiters] using kept.settled,by simpa [waiters,issued] using kept.promises⟩

theorem loses_nothing (run : QueueRun Item) (path : Reachable calls QueueRun.start run) :
    (run.queue.items = [] ∨ run.queue.waiters = []) ∧
    run.delivered ++ run.queue.items = run.pushed ∧
    (∀ promise, (promise,none) ∈ run.answers → run.queue.closed = true ∧ run.queue.items = []) ∧
    (run.closeCalled = true → run.queue.waiters = []) ∧
    (run.answers.map Prod.fst ++ run.queue.waiters).Perm (List.range run.queue.issued) := by
  have kept : Kept run := reaches_preserves (fun _ call _ kept _ taken => kept_step call kept taken) kept_start path
  exact ⟨kept.apart,kept.accounted,kept.ended,fun called => kept.settled (kept.closed.trans called),kept.promises⟩

-- One consumer waits, one takes what is there, one comes after the end; the last push is too late.
theorem loses_nothing_shared : ∃ run : QueueRun Nat, Reachable calls QueueRun.start run ∧
    run.answers = [(0,some 1),(1,some 3),(2,none)] ∧ run.pushed = [1,2,3] ∧ run.delivered = run.pushed ∧
    run.queue.closed = true := by
  obtain ⟨run,path,seen⟩ := checkedRun_exhibits (@calls Nat) (fun _ _ => True) QueueRun.start
    [.shift,.push 1,.push 2,.tryShift,.push 3,.resume 0,.shift,.close,.push 4,.shift]
    (fun run => run.answers = [(0,some 1),(1,some 3),(2,none)] ∧ run.pushed = [1,2,3]) (by decide)
  obtain ⟨answers,pushed⟩ := of_decide_eq_true seen
  obtain ⟨-,accounted,ended,-⟩ := loses_nothing run path
  obtain ⟨closed,items⟩ := ended 2 (by simp [answers])
  rw [items,List.append_nil] at accounted
  exact ⟨run,path,answers,pushed,accounted,closed⟩

end ImageSearch.QueueRuns
