import ImageSearch.ConnectionThreads
import Mathlib.Algebra.Order.BigOperators.Group.Finset

namespace ImageSearch.Resynchronisation
open Transitions Threads PhoneConnection ConnectionThreads

variable {w w' : AoaClient} {t t' : Activity} {x : Input} {event : Event}

def resyncing : Activity → Nat
  | .checking _ | .lowering _ | .closing _ | .submitting _ => 1
  | _ => 0

def load (client : AoaClient) : Nat := client.queuedTasks + if client.runningTask.isSome then 1 else 0
def raised (client : AoaClient) : Nat := if client.resyncInProgress then 1 else 0

def tasks (client : AoaClient) : Bool × Nat × Option TaskPhase × Bool :=
  (client.resyncInProgress,client.queuedTasks,client.runningTask,client.executorShutdown)

theorem load_tasks (same : tasks w' = tasks w) : load w' = load w := by
  simp only [tasks,Prod.mk.injEq] at same
  rw [load,load,same.2.1,same.2.2.1]

theorem raised_tasks (same : tasks w' = tasks w) : raised w' = raised w := by
  simp only [tasks,Prod.mk.injEq] at same
  rw [raised,raised,same.1]

-- The executor has not been shut down when a task is submitted, no close interrupts the
-- put of an auth response, and no stream fails while a task is past its probe.
def serves (client : AoaClient) : Activity → Input → Bool
  | .submitting _,.go => !client.executorShutdown
  | .answering generation _ _ _,.go => !interrupted client generation
  | .raising (.stream _),.go => client.runningTask ≠ some .finishing
  | _,_ => true

def loses : Activity → Activity → Bool
  | .raising (.stream _),.lowering _ => true
  | _,_ => false

def keepsQueue (client : AoaClient) : Event → Bool
  | .reset => client.stopped || client.queuedTasks = 0
  | _ => true

variable {Index : Type*}

def served (s : Phone Index) : Move Index Input Event → Prop
  | .thread i input => serves s.world (s.threads i) input = true ∧ ∀ j, loses (s.threads i) (s.threads j) = false
  | .environment event => keepsQueue s.world event = true

def Promised (client : AoaClient) : Prop :=
  0 < client.queuedTasks ∨ client.runningTask = some .sleeping ∨ client.runningTask = some .probing

def resubmits : Activity → Bool
  | .checking _ | .closing _ | .submitting _ => true
  | _ => false

def Awaited (s : Phone Index) : Prop := Promised s.world ∨ ∃ i, resubmits (s.threads i) = true

def ends : Move Index Input Event → Bool
  | .environment .reset => true
  | .environment (.taskProbes _) => true
  | _ => false

variable [DecidableEq Index]

structure Resynchronises (admitted : Phone Index → Move Index Input Event → Prop) (s : Phone Index) : Prop where
  flagged : s.world.resyncInProgress = true →
    0 < s.world.queuedTasks ∨ s.world.runningTask ≠ none ∨ ∃ i, resyncing (s.threads i) = 1
  caught : ∀ i role, s.threads i ≠ .crashed role
  failing : ∀ i role next, s.threads i = .raising (.stream role) → admitted s (.thread i .go) →
    (system Index).step s (.thread i .go) = some next → Awaited next
  awaited : ∀ move next, Awaited s → admitted s move → (system Index).step s move = some next →
    Awaited next ∨ s.world.stopped = true ∨ s.world.bootstrapPrepared = false ∨ ends move = true
  accepted : ∀ i caller next, s.threads i = .submitting caller → admitted s (.thread i .go) →
    (system Index).step s (.thread i .go) = some next → next.world.queuedTasks = s.world.queuedTasks + 1

structure Unconcerned (w w' : AoaClient) (t' : Activity) : Prop where
  tasks : tasks w' = tasks w
  resyncing : resyncing t' = 0
  caught : ∀ role, t' ≠ .crashed role

theorem call_unconcerned (taken : callStep w t x = some (w',t')) : Unconcerned w w' t' := by
  unfold callStep at taken
  split at taken
  · split at taken <;> cases taken
    exact ⟨rfl,rfl,nofun⟩
  · cases taken
    exact ⟨rfl,rfl,nofun⟩
  · split at taken <;> cases taken
    exact ⟨rfl,rfl,nofun⟩
  · cases taken
    exact ⟨rfl,rfl,nofun⟩
  · cases taken
    exact ⟨rfl,rfl,nofun⟩
  · split at taken <;> cases taken
    exact ⟨rfl,rfl,nofun⟩
  · split at taken <;> cases taken
    exact ⟨rfl,rfl,nofun⟩
  · rename_i kind requestId queue seen
    cases taken
    cases kind <;> exact ⟨rfl,rfl,nofun⟩
  · cases taken

theorem reader_unconcerned (allowed : serves w t x = true) (taken : readerStep w t x = some (w',t')) :
    Unconcerned w w' t' := by
  unfold readerStep at taken
  split at taken
  · split at taken <;> cases taken <;> exact ⟨rfl,rfl,nofun⟩
  · cases taken
    exact ⟨rfl,rfl,nofun⟩
  · cases taken
    exact ⟨rfl,rfl,nofun⟩
  · cases taken
    exact ⟨rfl,rfl,nofun⟩
  · cases taken
    exact ⟨rfl,rfl,nofun⟩
  · split at taken <;> cases taken <;> exact ⟨rfl,rfl,nofun⟩
  · split at taken <;> cases taken <;> exact ⟨rfl,rfl,nofun⟩
  · split at taken
    · cases taken
      exact ⟨rfl,rfl,nofun⟩
    · split at taken <;> cases taken <;> exact ⟨rfl,rfl,nofun⟩
  · cases taken
    exact ⟨rfl,rfl,nofun⟩
  · split at taken
    · rename_i interrupted
      simp [serves,interrupted] at allowed
    · split at taken <;> cases taken
      exact ⟨rfl,rfl,nofun⟩
  · cases taken
    exact ⟨rfl,rfl,nofun⟩
  · cases taken
    exact ⟨rfl,rfl,nofun⟩
  · cases taken

theorem writer_unconcerned (taken : writerStep w t x = some (w',t')) : Unconcerned w w' t' := by
  unfold writerStep at taken
  split at taken
  · split at taken <;> cases taken <;> exact ⟨rfl,rfl,nofun⟩
  · split at taken
    · cases taken
      exact ⟨rfl,rfl,nofun⟩
    · split at taken <;> cases taken
      exact ⟨rfl,rfl,nofun⟩
  · split at taken <;> cases taken <;> exact ⟨rfl,rfl,nofun⟩
  · cases taken
    exact ⟨rfl,rfl,nofun⟩
  · cases taken

theorem watchdog_unconcerned (taken : watchdogStep w t x = some (w',t')) : Unconcerned w w' t' := by
  unfold watchdogStep at taken
  split at taken
  · split at taken <;> cases taken <;> exact ⟨rfl,rfl,nofun⟩
  · split at taken <;> cases taken
    exact ⟨rfl,rfl,nofun⟩
  · cases taken

theorem enter_unconcerned (taken : enter w x = some (w',t')) : Unconcerned w w' t' := by
  unfold enter at taken
  split at taken
  · rename_i role
    split at taken <;> cases taken
    cases role <;> exact ⟨rfl,rfl,nofun⟩
  · by_cases connected : w.state = .connected
    · rw [enterSendRequest_connected connected] at taken
      cases taken
      exact ⟨rfl,rfl,nofun⟩
    · rw [enterSendRequest_apart connected] at taken
      cases taken
      exact ⟨rfl,rfl,nofun⟩
  · by_cases connected : w.state = .connected
    · rw [enterBeginStreaming_connected connected] at taken
      cases taken
      exact ⟨rfl,rfl,nofun⟩
    · rw [enterBeginStreaming_apart connected] at taken
      cases taken
      exact ⟨rfl,rfl,nofun⟩
  · split at taken <;> cases taken <;> exact ⟨rfl,rfl,nofun⟩
  · split at taken <;> cases taken <;> exact ⟨rfl,rfl,nofun⟩
  · cases taken

-- What a step of any thread gives to the resync, the thread itself included, it takes
-- from the flag.
structure Balances (w : AoaClient) (t : Activity) (w' : AoaClient) (t' : Activity) : Prop where
  balance : resyncing t' + load w' + raised w = resyncing t + load w + raised w'
  caught : ∀ role, t' ≠ .crashed role

theorem unconcerned_balances (idle : resyncing t = 0) (unconcerned : Unconcerned w w' t') : Balances w t w' t' := by
  refine ⟨?_,unconcerned.caught⟩
  rw [load_tasks unconcerned.tasks,raised_tasks unconcerned.tasks,unconcerned.resyncing,idle]

theorem resyncing_returns (caller : ResyncCaller) (how : Ending) : resyncing (caller.returns how) = 0 := by
  cases caller <;> rfl

theorem returns_caught (caller : ResyncCaller) (how : Ending) (role : Role) : caller.returns how ≠ .crashed role := by
  cases caller <;> nofun

theorem resync_balances (within : resyncing t + load w ≤ raised w) (allowed : serves w t x = true)
    (taken : resyncStep w t x = some (w',t')) : Balances w t w' t' := by
  unfold resyncStep at taken
  split at taken
  · split at taken <;> cases taken <;> exact ⟨rfl,nofun⟩
  · rename_i caller
    split at taken
    · cases taken
      refine ⟨?_,returns_caught caller _⟩
      rw [resyncing_returns]
      rfl
    · rename_i lowered
      cases taken
      refine ⟨?_,nofun⟩
      simp [resyncing,load,raised,lowered]
      omega
  · split at taken <;> cases taken <;> exact ⟨rfl,nofun⟩
  · rename_i caller
    cases taken
    refine ⟨?_,returns_caught caller _⟩
    rw [resyncing_returns]
    cases flag : w.resyncInProgress with
    | false => simp [resyncing,raised,flag] at within
    | true =>
        simp [resyncing,raised,load,flag]
        omega
  · cases taken
    exact ⟨rfl,nofun⟩
  · rename_i caller
    split at taken
    · rename_i shutdown
      simp [serves,shutdown] at allowed
    · cases taken
      refine ⟨?_,returns_caught caller _⟩
      rw [resyncing_returns]
      simp only [resyncing,load,raised]
      omega
  · cases taken

theorem step_balances (within : resyncing t + load w ≤ raised w) (allowed : serves w t x = true)
    (taken : activityStep w t x = some (w',t')) : Balances w t w' t' := by
  cases t with
  | idle => exact unconcerned_balances rfl (enter_unconcerned taken)
  | sending _ _ _ | requesting _ _ _ _ _ | waiting _ _ _ _ | removing _ _ _ _ =>
      exact unconcerned_balances rfl (call_unconcerned taken)
  | reading _ | receiving _ | handling _ _ | challenged _ _ _ _ | rejecting _ _ | answering _ _ _ _ | answered _ _
  | offering _ _ _ _ => exact unconcerned_balances rfl (reader_unconcerned allowed taken)
  | writing _ | taking _ | holding _ _ => exact unconcerned_balances rfl (writer_unconcerned taken)
  | leaving _ | raising _ | checking _ | lowering _ | closing _ | submitting _ => exact resync_balances within allowed taken
  | watching => exact unconcerned_balances rfl (watchdog_unconcerned taken)
  | ended _ | crashed _ => cases taken

theorem probe_tasks (w : AoaClient) (found : Option OpenOutcome) : tasks (w.probeAttachedAccessories found) = tasks w := by
  rcases found with _ | outcome
  · rfl
  · cases outcome <;> rfl

theorem start_tasks (w : AoaClient) : tasks w.startInternal = tasks w := by
  unfold AoaClient.startInternal
  split <;> rfl

theorem prepare_tasks {bootstrap : Bootstrap} {found : Option OpenOutcome}
    (prepared : (w.prepareBootstrap bootstrap found).toOption = some w') : tasks w' = tasks w := by
  unfold AoaClient.prepareBootstrap at prepared
  split at prepared
  · cases prepared
  · dsimp only at prepared
    split at prepared <;> cases prepared
    · rfl
    · rw [probe_tasks,start_tasks]
      rfl

theorem event_balances (within : load w ≤ raised w) (allowed : keepsQueue w event = true)
    (taken : eventStep w event = some w') : load w' + raised w = load w + raised w' := by
  have unchanged : tasks w' = tasks w → load w' + raised w = load w + raised w' := fun same => by
    rw [load_tasks same,raised_tasks same]
  cases event with
  | prepareBootstrap bootstrap found => exact unchanged (prepare_tasks taken)
  | openAccessory outcome => cases taken; exact unchanged (probe_tasks w (some outcome))
  | detached => cases taken; exact unchanged rfl
  | reset =>
      cases taken
      by_cases stopped : w.stopped = true
      · exact unchanged (by simp [tasks,AoaClient.reset,AoaClient.stopInternal,AoaClient.transitionTo,stopped])
      · simp only [keepsQueue,stopped,Bool.false_or,decide_eq_true_eq] at allowed
        simp [load,raised,AoaClient.reset,AoaClient.stopInternal,AoaClient.transitionTo,AoaClient.shutdownNow,
          AoaClient.closeConnection,stopped,allowed]
  | taskStarts =>
      simp only [eventStep] at taken
      split at taken <;> cases taken
      rename_i free
      simp [load,raised,free.2]
      omega
  | taskWakes =>
      simp only [eventStep] at taken
      split at taken <;> cases taken
      rename_i sleeping
      simp [load,raised,sleeping]
  | taskProbes found =>
      simp only [eventStep] at taken
      split at taken <;> cases taken
      rename_i probing
      have same := probe_tasks w found
      simp only [tasks,Prod.mk.injEq] at same
      simp [load,raised,probing,same.1,same.2.1]
  | taskEnds =>
      simp only [eventStep] at taken
      split at taken <;> cases taken
      rename_i finishing
      cases flag : w.resyncInProgress with
      | false => simp [load,raised,finishing,flag] at within
      | true => simp [load,raised,finishing,flag]

theorem promised_tasks (same : tasks w' = tasks w) (promised : Promised w) : Promised w' := by
  simp only [tasks,Prod.mk.injEq] at same
  rw [Promised,same.2.1,same.2.2.1]
  exact promised

theorem resync_promised (promised : Promised w) (taken : resyncStep w t x = some (w',t')) : Promised w' := by
  unfold resyncStep at taken
  split at taken
  · split at taken <;> cases taken <;> exact promised
  · split at taken <;> cases taken <;> exact promised
  · split at taken <;> cases taken <;> exact promised
  · cases taken
    exact promised
  · cases taken
    exact promised
  · split at taken <;> cases taken
    · exact promised
    · exact .inl (Nat.succ_pos _)
  · cases taken

theorem step_promised (promised : Promised w) (allowed : serves w t x = true) (taken : activityStep w t x = some (w',t')) :
    Promised w' := by
  cases t with
  | idle => exact promised_tasks (enter_unconcerned taken).tasks promised
  | sending _ _ _ | requesting _ _ _ _ _ | waiting _ _ _ _ | removing _ _ _ _ =>
      exact promised_tasks (call_unconcerned taken).tasks promised
  | reading _ | receiving _ | handling _ _ | challenged _ _ _ _ | rejecting _ _ | answering _ _ _ _ | answered _ _
  | offering _ _ _ _ => exact promised_tasks (reader_unconcerned allowed taken).tasks promised
  | writing _ | taking _ | holding _ _ => exact promised_tasks (writer_unconcerned taken).tasks promised
  | leaving _ | raising _ | checking _ | lowering _ | closing _ | submitting _ => exact resync_promised promised taken
  | watching => exact promised_tasks (watchdog_unconcerned taken).tasks promised
  | ended _ | crashed _ => cases taken

-- A thread on its way submits its task, or finds the client stopped or unprepared.
theorem resync_resubmits (busy : resubmits t = true) (allowed : serves w t x = true)
    (taken : resyncStep w t x = some (w',t')) :
    resubmits t' = true ∨ Promised w' ∨ w.stopped = true ∨ w.bootstrapPrepared = false := by
  unfold resyncStep at taken
  split at taken
  · cases busy
  · cases busy
  · split at taken <;> cases taken
    · rename_i inactive
      simp only [Bool.or_eq_true,Bool.not_eq_true'] at inactive
      exact .inr (.inr inactive)
    · exact .inl rfl
  · cases busy
  · cases taken
    exact .inl rfl
  · split at taken
    · rename_i shutdown
      simp [serves,shutdown] at allowed
    · cases taken
      exact .inr (.inl (.inl (Nat.succ_pos _)))
  · cases taken

theorem step_resubmits (busy : resubmits t = true) (allowed : serves w t x = true)
    (taken : activityStep w t x = some (w',t')) :
    resubmits t' = true ∨ Promised w' ∨ w.stopped = true ∨ w.bootstrapPrepared = false := by
  cases t with
  | checking | closing | submitting => exact resync_resubmits busy allowed taken
  | _ => cases busy

-- A promised task stays until it probes, or is dropped because the client has stopped.
theorem event_promised (promised : Promised w) (taken : eventStep w event = some w') :
    Promised w' ∨ w.stopped = true ∨ w.bootstrapPrepared = false ∨ event = .reset ∨ ∃ found, event = .taskProbes found := by
  cases event with
  | prepareBootstrap bootstrap found => exact .inl (promised_tasks (prepare_tasks taken) promised)
  | openAccessory outcome => cases taken; exact .inl (promised_tasks (probe_tasks w (some outcome)) promised)
  | detached => cases taken; exact .inl promised
  | reset => exact .inr (.inr (.inr (.inl rfl)))
  | taskStarts =>
      simp only [eventStep] at taken
      split at taken <;> cases taken
      exact .inl (.inr (.inl rfl))
  | taskWakes =>
      simp only [eventStep] at taken
      split at taken <;> cases taken
      by_cases active : (!w.stopped && w.bootstrapPrepared) = true
      · exact .inl (.inr (.inr (by simp [active])))
      · simp only [Bool.and_eq_true,Bool.not_eq_true',not_and_or,Bool.not_eq_false,Bool.not_eq_true] at active
        exact .inr (active.imp id .inl)
  | taskProbes found => exact .inr (.inr (.inr (.inr ⟨found,rfl⟩)))
  | taskEnds =>
      simp only [eventStep] at taken
      split at taken <;> cases taken
      rename_i finishing
      rcases promised with queued | sleeping | probing
      · exact .inl (.inl queued)
      · cases finishing.symm.trans sleeping
      · cases finishing.symm.trans probing

section Runs
variable {s next : Phone Index} {move : Move Index Input Event}

theorem awaited_step (awaited : Awaited s) (allowed : served s move) (taken : (system Index).step s move = some next) :
    Awaited next ∨ s.world.stopped = true ∨ s.world.bootstrapPrepared = false ∨ ends move = true := by
  cases move with
  | thread i input =>
      obtain ⟨world',thread',moved,rfl⟩ := thread_parts taken
      rcases awaited with promised | ⟨j,busy⟩
      · exact .inl (.inl (step_promised promised allowed.1 moved))
      · by_cases same : j = i
        · subst j
          rcases step_resubmits busy allowed.1 moved with going | promised | stopped | unprepared
          · exact .inl (.inr ⟨i,by simpa using going⟩)
          · exact .inl (.inl promised)
          · exact .inr (.inl stopped)
          · exact .inr (.inr (.inl unprepared))
        · exact .inl (.inr ⟨j,by simpa [same] using busy⟩)
  | environment event =>
      obtain ⟨world',moved,rfl⟩ := environment_parts taken
      rcases awaited with promised | waiting
      · rcases event_promised promised moved with kept | stopped | unprepared | rfl | ⟨found,rfl⟩
        · exact .inl (.inl kept)
        · exact .inr (.inl stopped)
        · exact .inr (.inr (.inl unprepared))
        · exact .inr (.inr (.inr rfl))
        · exact .inr (.inr (.inr rfl))
      · exact .inl (.inr waiting)

theorem submit_accepted {i : Index} {caller : ResyncCaller} (submits : s.threads i = .submitting caller)
    (allowed : served s (.thread i .go)) (taken : (system Index).step s (.thread i .go) = some next) :
    next.world.queuedTasks = s.world.queuedTasks + 1 := by
  obtain ⟨world',thread',moved,rfl⟩ := thread_parts taken
  have running : s.world.executorShutdown = false := by simpa [submits,serves] using allowed.1
  rw [submits] at moved
  simp only [activityStep,resyncStep,running] at moved
  cases moved
  rfl

variable [Fintype Index]

structure Synchronised (s : Phone Index) : Prop where
  balance : ∑ i, resyncing (s.threads i) + load s.world = raised s.world
  caught : ∀ i role, s.threads i ≠ .crashed role

omit [DecidableEq Index] in
theorem synchronised_initial : Synchronised (initial Index) :=
  ⟨by simp [initial,resyncing,load,raised,AoaClient.new],fun _ => nofun⟩

omit [DecidableEq Index] in
theorem within_flag (old : Synchronised s) (i : Index) : resyncing (s.threads i) + load s.world ≤ raised s.world := by
  have one := Finset.single_le_sum (f := fun j => resyncing (s.threads j)) (fun _ _ => Nat.zero_le _) (Finset.mem_univ i)
  have balance := old.balance
  omega

theorem synchronised_step (old : Synchronised s) (allowed : served s move) (taken : (system Index).step s move = some next) :
    Synchronised next := by
  have balance := old.balance
  cases move with
  | thread i input =>
      obtain ⟨world',thread',moved,rfl⟩ := thread_parts taken
      have kept := step_balances (within_flag old i) allowed.1 moved
      refine ⟨?_,fun j role => ?_⟩
      · have sums := sum_update resyncing s.threads i thread'
        have given := kept.balance
        simp only
        omega
      · by_cases same : j = i
        · subst j
          simpa using kept.caught role
        · simpa [same] using old.caught j role
  | environment event =>
      obtain ⟨world',moved,rfl⟩ := environment_parts taken
      have kept := event_balances (by omega) allowed moved
      exact ⟨by simp only; omega,old.caught⟩

theorem synchronised_reaches (path : Reaches (system Index) served (initial Index) s) : Synchronised s :=
  reaches_preserves (fun _ _ _ old allowed taken => synchronised_step old allowed taken) synchronised_initial path

omit [DecidableEq Index] in
theorem some_resyncing (old : Synchronised s) (flag : s.world.resyncInProgress = true) (free : load s.world = 0) :
    ∃ i, resyncing (s.threads i) = 1 := by
  have balance := old.balance
  simp only [free,raised,flag,if_true] at balance
  obtain ⟨i,_,busy⟩ := Finset.exists_ne_zero_of_sum_ne_zero (s := Finset.univ)
    (f := fun i => resyncing (s.threads i)) (by omega)
  have within := within_flag old i
  simp only [free,raised,flag,if_true] at within
  exact ⟨i,by omega⟩

theorem queued_load (free : ¬ Promised w) (probed : w.runningTask ≠ some .finishing) : load w = 0 := by
  simp only [Promised,not_or,not_lt,nonpos_iff_eq_zero] at free
  obtain ⟨queued,sleeping,probing⟩ := free
  cases running : w.runningTask with
  | none => simp [load,queued,running]
  | some phase => cases phase <;> simp_all

theorem resubmits_busy {role : Role} (busy : resyncing t = 1) (keeps : loses (.raising (.stream role)) t = false) :
    resubmits t = true := by
  cases t with
  | checking | closing | submitting => rfl
  | lowering => cases keeps
  | _ => cases busy

-- A failing stream raises the flag, or finds it raised for a task that will probe or for
-- a thread that will submit one.
theorem failing_awaited {i : Index} {role : Role} (old : Synchronised s) (raises : s.threads i = .raising (.stream role))
    (allowed : served s (.thread i .go)) (taken : (system Index).step s (.thread i .go) = some next) : Awaited next := by
  obtain ⟨world',thread',moved,rfl⟩ := thread_parts taken
  rw [raises] at moved
  simp only [activityStep,resyncStep] at moved
  split at moved
  · rename_i flag
    cases moved
    by_cases promised : Promised s.world
    · exact .inl promised
    · have probed : s.world.runningTask ≠ some .finishing := by simpa [raises,serves] using allowed.1
      obtain ⟨j,busy⟩ := some_resyncing old flag (queued_load promised probed)
      have different : j ≠ i := by
        rintro rfl
        rw [raises] at busy
        cases busy
      have keeps := allowed.2 j
      rw [raises] at keeps
      refine .inr ⟨j,?_⟩
      simp only [Function.update_of_ne different]
      exact resubmits_busy busy keeps
  · cases moved
    exact .inr ⟨i,by simp [resubmits]⟩

theorem served_resynchronises (path : Reaches (system Index) served (initial Index) s) : Resynchronises served s := by
  have old := synchronised_reaches path
  refine ⟨fun flag => ?_,old.caught,?_,fun move next => awaited_step,?_⟩
  · by_cases queued : 0 < s.world.queuedTasks
    · exact .inl queued
    · by_cases running : s.world.runningTask = none
      · exact .inr (.inr (some_resyncing old flag (by simp [load,running]; omega)))
      · exact .inr (.inl running)
  · intro i role next raises allowed taken
    exact failing_awaited old raises allowed taken
  · intro i caller next submits allowed taken
    exact submit_accepted submits allowed taken

end Runs

instance [Fintype Index] (s : Phone Index) (move : Move Index Input Event) : Decidable (served s move) :=
  match move with
  | .thread i input => inferInstanceAs (Decidable (serves s.world (s.threads i) input = true ∧
      ∀ j, loses (s.threads i) (s.threads j) = false))
  | .environment event => inferInstanceAs (Decidable (keepsQueue s.world event = true))

def sampleBootstrap : Bootstrap := ⟨"session","code",1⟩

def failsAfterReset : List (Move Unit Input Event) :=
  [.environment (.prepareBootstrap sampleBootstrap (some .opened)),.environment .reset,
    .environment (.prepareBootstrap sampleBootstrap (some .opened)),.thread () (.start (.reader 5)),.thread () .go,
    .thread () .fail,.thread () .go,.thread () .go,.thread () .go,.thread () .go,.thread () .go]

def failsAndReopens : List (Move Unit Input Event) :=
  [.environment (.prepareBootstrap sampleBootstrap (some .opened)),.thread () (.start (.reader 2)),.thread () .go,
    .thread () .fail,.thread () .go,.thread () .go,.thread () .go,.thread () .go,.thread () .go,.environment .taskStarts,
    .environment .taskWakes,.environment (.taskProbes (some .opened)),.environment .taskEnds]

def readerCrashed (s : Phone Unit) : Bool :=
  match s.threads () with
  | .crashed (.reader _) => true
  | _ => false

theorem reset_loses_resync : ¬ ∀ s : Phone Unit,
    Reaches (system Unit) (fun _ _ => True) (initial Unit) s → Resynchronises (fun _ _ => True) s := by
  intro all
  obtain ⟨s,path,seen⟩ := checkedRun_exhibits (system Unit) (fun _ _ => True) (initial Unit) failsAfterReset
    readerCrashed (by decide +kernel)
  unfold readerCrashed at seen
  split at seen
  · rename_i generation crashed
    exact (all s path).caught () _ crashed
  · cases seen

theorem failed_stream_reopens : ∃ s : Phone Unit, Reaches (system Unit) served (initial Unit) s ∧
    s.world.streams = some 5 ∧ s.world.resyncInProgress = false ∧ Resynchronises served s := by
  obtain ⟨s,path,seen⟩ := checkedRun_exhibits (system Unit) served (initial Unit) failsAndReopens
    (fun s => s.world.streams = some 5 && !s.world.resyncInProgress) (by decide +kernel)
  simp only [Bool.and_eq_true,decide_eq_true_eq,Bool.not_eq_true'] at seen
  exact ⟨s,path,seen.1,seen.2,served_resynchronises path⟩

end ImageSearch.Resynchronisation
