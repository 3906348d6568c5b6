import ImageSearch.PhoneRuns

namespace ImageSearch.SnapshotCounts
open Transitions Threads PhoneUploads PhoneRuns

structure Shown where
  counts : Counts
  phase : TransferPhase
  deriving DecidableEq, Repr

def shown (snapshot : TransferSnapshot) : Shown := ⟨snapshot.counts,snapshot.phase⟩

def TransferPhase.terminal : TransferPhase → Bool
  | .preparing | .transferring => false
  | .stopped | .completed | .failed => true

def AtMost (one two : Counts) : Prop := one.transferred ≤ two.transferred ∧ one.failed ≤ two.failed

-- From one snapshot to the next no count goes down and no ended phase is taken back.
def Forward (before after : Option Shown) : Prop :=
  ∀ old ∈ before, ∃ new, after = some new ∧ AtMost old.counts new.counts ∧
    (TransferPhase.terminal old.phase = true → TransferPhase.terminal new.phase = true)

def current (w : Service) : Option Shown := w.currentSnapshot.map shown

-- What the step of a call is about to put in the snapshot's place. A refresh puts back
-- what it has copied.
def pendingWrite (w : Service) : Task → Input → Option Shown
  | .loading,.resolved _ => if w.stored.isNone then some ⟨⟨0,0⟩,.failed⟩ else none
  | .resetting _,.resolved _ => some ⟨⟨0,0⟩,.preparing⟩
  | .emptying _,.resolved _ => some ⟨⟨0,0⟩,.completed⟩
  | .opening _ totalCount,.resolved transport => some (shown (makeProgressSnapshot transport totalCount ⟨0,0⟩ 0))
  | .recording _ totalCount counts skippedCount,.resolved transport =>
    some (shown (makeProgressSnapshot transport totalCount counts skippedCount))
  | .terminating _ _ counts _ _,.resolved _ => some ⟨counts,.failed⟩
  | .pausing _ counts _,.resolved _ => some ⟨counts,.stopped⟩
  | .closing _ counts _,.resolved _ => some ⟨counts,.transferring⟩
  | .failing _,.resolved _ => some ⟨⟨0,1⟩,.failed⟩
  | .completing snapshot,.resolved _ => if w.stored.isNone then some (shown (snapshot.failing "")) else none
  | .concluding snapshot,.resolved _ => some (shown snapshot)
  | _,_ => none

def recounts : Task → Input → Bool
  | .idle,.startTransfer | .transferring .., .counted _ | .failing _,.resolved _ => true
  | _,_ => false

def holdsCopy : Task → Bool
  | .refreshing _ | .completing _ | .completeLoaded _ _ | .completeSent _ | .concluding _ => true
  | _ => false

def unreported : Task → Option Counts
  | .stopping snapshot | .stopLoaded _ snapshot | .completing snapshot | .completeLoaded _ snapshot => some snapshot.counts
  | _ => none

-- Where stopTransfer and completeTransfer copy the snapshot, where completeTransfer writes
-- its own, and the counts of a run that throws.
def copies : Task → Input → Bool
  | .idle,.stopTransfer | .idle,.completeTransfer => true
  | _,_ => false

def concludes : Task → Bool
  | .completing _ | .concluding _ => true
  | _ => false

def thrown : Task → Input → Option Counts
  | .transferring _ _ counts _,.batchEnded (.threw _) => some counts
  | _,_ => none

-- stopTransfer and completeTransfer copy while the snapshot has the run's counts, and the
-- run counts nothing until they have reported them; no other snapshot is written while a
-- call holds a copy that it will write back; completeTransfer writes its own when no run
-- is under way; and a run throws before it has transferred anything or failed twice.
def undisturbed : Condition Service Task Input Unit where
  own w task input :=
    (copies task input = true → (w.currentSnapshot.getD (TransferSnapshot.empty .lan)).counts = w.runCounts) ∧
    (concludes task = true → (pendingWrite w task input).isSome → w.running = false) ∧
    ∀ counts ∈ thrown task input, counts.transferred = 0 ∧ counts.failed ≤ 1
  beside w task input other :=
    ((pendingWrite w task input).isSome → pendingWrite w task input ≠ current w → holdsCopy other = false) ∧
    (recounts task input = true → unreported other = none)

def resets : Task → Bool
  | .loading | .resetting _ => true
  | _ => false

def isRun : Task → Bool
  | .loading | .resetting _ | .fetching _ | .emptying _ | .negotiating .. | .saving .. | .starting .. | .started ..
  | .reportingStop .. | .opening .. | .transferring .. | .recording .. | .terminating .. | .draining _ | .pausing ..
  | .closing .. | .failing _ => true
  | _ => false

-- The snapshot of a run that has not ended, and whose counts the run is not behind of.
def Running (counts : Counts) (seen : Option Shown) : Prop :=
  ∃ old, seen = some old ∧ AtMost old.counts counts ∧ TransferPhase.terminal old.phase = false

-- What each call may rely on, of the snapshot, the run's counts and whether it is under way.
def Fits (seen : Option Shown) (runCounts : Counts) (running : Bool) : Task → Prop
  | .idle => True
  | .loading | .resetting _ => running = true ∧ runCounts = ⟨0,0⟩
  | .fetching _ | .emptying _ | .negotiating .. | .saving .. | .starting .. | .started .. | .reportingStop .. | .opening .. =>
    running = true ∧ runCounts = ⟨0,0⟩ ∧ Running ⟨0,0⟩ seen
  | .transferring _ _ counts _ | .recording _ _ counts _ | .terminating _ _ counts _ _ | .pausing _ counts _
  | .closing _ counts _ => running = true ∧ runCounts = counts ∧ Running counts seen
  | .draining _ => running = true
  | .failing _ => running = true ∧ Running ⟨0,1⟩ seen
  | .refreshing snapshot => seen = some (shown snapshot)
  | .stopping snapshot | .stopLoaded _ snapshot => snapshot.counts = runCounts
  | .completing snapshot | .completeLoaded _ snapshot => snapshot.counts = runCounts ∧ ∀ old ∈ seen, old = shown snapshot
  | .completeSent snapshot => ∀ old ∈ seen, old = shown snapshot
  | .concluding snapshot => Forward seen (some (shown snapshot))

variable {phone : PhoneLibraries} {w w' : Service} {task task' other : Task} {input : Input} {seen seen' : Option Shown}
  {counts runCounts runCounts' : Counts} {running running' : Bool} {phase : TransferPhase} {snapshot : TransferSnapshot}
  {desktop : TrustedDesktopRecord} {overLan : Bool} {outgoing : Outgoing} {transport : TransferClients.Transport}
  {totalCount skippedCount : Nat} {outcome : Counted}

theorem atMost_refl : AtMost counts counts := ⟨Nat.le_refl _,Nat.le_refl _⟩

theorem atMost_trans {one two three : Counts} (first : AtMost one two) (second : AtMost two three) : AtMost one three :=
  ⟨Nat.le_trans first.1 second.1,Nat.le_trans first.2 second.2⟩

theorem forward_refl : Forward seen seen := fun old there => ⟨old,there,atMost_refl,id⟩

theorem running_forward (under : Running counts seen) : Forward seen (some ⟨counts,phase⟩) := by
  obtain ⟨old,rfl,bound,unended⟩ := under
  intro found there
  cases there
  exact ⟨_,rfl,bound,fun ended => by rw [unended] at ended; cases ended⟩

theorem running_more {more : Counts} (under : Running counts seen) (bound : AtMost counts more) : Running more seen := by
  obtain ⟨old,there,below,unended⟩ := under
  exact ⟨old,there,atMost_trans below bound,unended⟩

theorem progress_shown : ∃ phase, shown (makeProgressSnapshot transport totalCount counts skippedCount) = ⟨counts,phase⟩ ∧
    TransferPhase.terminal phase = false := by
  refine ⟨_,rfl,?_⟩
  unfold makeProgressSnapshot
  dsimp only
  split <;> rfl

theorem progress_running : Running counts (some (shown (makeProgressSnapshot transport totalCount counts skippedCount))) := by
  obtain ⟨phase,same,unended⟩ := @progress_shown counts transport totalCount skippedCount
  exact ⟨_,rfl,by rw [same]; exact atMost_refl,by rw [same]; exact unended⟩

theorem counted_more : AtMost counts (counts.count outcome) := by
  cases outcome <;> simp [AtMost,Counts.count]

-- What a completion that failed ends with goes forward from what it copied.
theorem failing_forward {message : String} (same : ∀ old ∈ seen, old = shown snapshot) :
    Forward seen (some (shown (snapshot.failing message))) := by
  intro old there
  rw [same old there]
  exact ⟨_,rfl,⟨Nat.le_refl _,Nat.le_max_left _ _⟩,fun _ => rfl⟩

theorem completing_forward (same : ∀ old ∈ seen, old = shown snapshot) : Forward seen (some (shown snapshot.completing)) := by
  intro old there
  rw [same old there]
  exact ⟨_,rfl,atMost_refl,fun _ => rfl⟩

@[simp] theorem send_current : current (w.send phone overLan desktop outgoing) = current w := by
  unfold Service.send
  split <;> rfl

@[simp] theorem send_runCounts : (w.send phone overLan desktop outgoing).runCounts = w.runCounts := by
  unfold Service.send
  split <;> rfl

@[simp] theorem send_running : (w.send phone overLan desktop outgoing).running = w.running := by
  unfold Service.send
  split <;> rfl

@[simp] theorem send_reports : (w.send phone overLan desktop outgoing).reports = w.reports := by
  unfold Service.send
  split <;> rfl

structure Stepped (w : Service) (task : Task) (input : Input) (w' : Service) (task' : Task) : Prop where
  fits : Fits (current w') w'.runCounts w'.running task'
  forward : resets task = false → Forward (current w) (current w')
  reports : ∀ report ∈ w'.reports, report ∈ w.reports ∨ report.reported = report.run
  seen : current w' = current w ∨ ∃ key, pendingWrite w task input = some key ∧ current w' = some key
  counts : w'.runCounts = w.runCounts ∨ recounts task input = true ∧ (isRun task = true ∨ w.running = false)
  running : w'.running = w.running ∨ isRun task = true ∨ w.running = false
  run : isRun task' = true → isRun task = true ∨ w.running = false

theorem stepped_same (seen : current w' = current w) (counts : w'.runCounts = w.runCounts) (reports : w'.reports = w.reports)
    (running : w'.running = w.running) (fits : Fits (current w) w.runCounts w.running task')
    (run : isRun task' = true → isRun task = true) : Stepped w task input w' task' := by
  refine ⟨by rwa [seen,counts,running],fun _ => by rw [seen]; exact forward_refl,?_,.inl seen,.inl counts,.inl running,
    fun there => .inl (run there)⟩
  intro report member
  rw [reports] at member
  exact .inl member

theorem stepped_write {key : Shown} (pending : pendingWrite w task input = some key) (seen : current w' = some key)
    (counts : w'.runCounts = w.runCounts ∨ recounts task input = true) (reports : w'.reports = w.reports)
    (run : isRun task = true) (forward : resets task = false → Forward (current w) (some key))
    (fits : Fits (some key) w'.runCounts w'.running task') : Stepped w task input w' task' := by
  refine ⟨by rwa [seen],fun settled => by rw [seen]; exact forward settled,?_,.inr ⟨key,pending,seen⟩,?_,.inr (.inl run),
    fun _ => .inl run⟩
  · intro report member
    rw [reports] at member
    exact .inl member
  · rcases counts with same | changed
    · exact .inl same
    · exact .inr ⟨changed,.inl run⟩

theorem stepped_report {copied : Counts} (same : copied = w.runCounts) (fits : Fits (current w) w.runCounts w.running task')
    (run : isRun task' = true → isRun task = true) : Stepped w task input
      {w.send phone overLan desktop outgoing with reports:=⟨copied,w.runCounts⟩ :: w.reports} task' := by
  have kept : current {w.send phone overLan desktop outgoing with reports:=⟨copied,w.runCounts⟩ :: w.reports} = current w :=
    send_current
  refine ⟨?_,fun _ => by rw [kept]; exact forward_refl,?_,.inl kept,.inl send_runCounts,.inl send_running,
    fun there => .inl (run there)⟩
  · rw [kept,send_runCounts,send_running]
    exact fits
  · intro report member
    rcases List.mem_cons.mp member with rfl | old
    · exact .inr same
    · exact .inl old

theorem run_stepped (held : Fits (current w) w.runCounts w.running task) (allowed : undisturbed.own w task input)
    (taken : stepRun phone w task input = some (w',task')) : Stepped w task input w' task' := by
  unfold stepRun at taken
  split at taken
  · split at taken
    · rename_i absent
      cases taken
      exact stepped_write (by simp [pendingWrite,absent]; rfl) rfl (.inl rfl) rfl rfl nofun trivial
    · cases taken
      exact stepped_same rfl rfl rfl rfl held fun _ => rfl
  · cases taken
    exact stepped_write rfl rfl (.inl rfl) rfl rfl nofun ⟨held.1,held.2,_,rfl,atMost_refl,rfl⟩
  · obtain ⟨going,zero,under⟩ := held
    split at taken
    · cases taken
      exact stepped_same rfl rfl rfl rfl ⟨going,running_more under ⟨Nat.le_refl _,Nat.zero_le _⟩⟩ fun _ => rfl
    · cases taken
      exact stepped_same rfl rfl rfl rfl ⟨going,zero,under⟩ fun _ => rfl
    · split at taken <;> cases taken <;> exact stepped_same rfl rfl rfl rfl ⟨going,zero,under⟩ fun _ => rfl
  · cases taken
    exact stepped_write rfl rfl (.inl rfl) rfl rfl (fun _ => running_forward held.2.2) trivial
  · obtain ⟨going,zero,under⟩ := held
    split at taken
    · cases taken
      exact stepped_same rfl rfl rfl rfl ⟨going,running_more under ⟨Nat.le_refl _,Nat.zero_le _⟩⟩ fun _ => rfl
    · split at taken <;> cases taken <;> exact stepped_same rfl rfl rfl rfl ⟨going,zero,under⟩ fun _ => rfl
  · cases taken
    exact stepped_same rfl rfl rfl rfl held fun _ => rfl
  · cases taken
    exact stepped_same send_current send_runCounts send_reports send_running held fun _ => rfl
  · obtain ⟨going,zero,under⟩ := held
    split at taken
    · cases taken
      exact stepped_same rfl rfl rfl rfl ⟨going,running_more under ⟨Nat.le_refl _,Nat.zero_le _⟩⟩ fun _ => rfl
    · split at taken <;> cases taken <;> exact stepped_same rfl rfl rfl rfl ⟨going,zero,under⟩ fun _ => rfl
  · cases taken
    exact stepped_report held.2.1.symm held fun _ => rfl
  · cases taken
    obtain ⟨phase,same,-⟩ := @progress_shown ⟨0,0⟩ _ _ 0
    refine stepped_write rfl rfl (.inl rfl) rfl rfl (fun _ => ?_) ⟨held.1,held.2.1,progress_running⟩
    rw [same]
    exact running_forward held.2.2
  · cases taken
    exact stepped_same send_current send_runCounts send_reports send_running held fun _ => rfl
  · rename_i desktop totalCount counts skippedCount outcome
    have more : Fits (current w) (counts.count outcome) w.running (.recording desktop totalCount (counts.count outcome) 0) :=
      ⟨held.1,rfl,running_more held.2.2 counted_more⟩
    have counted : ∀ task', Fits (current w) (counts.count outcome) w.running task' →
        Stepped w (.transferring desktop totalCount counts skippedCount) (.counted outcome)
          {w with runCounts:=counts.count outcome} task' := by
      intro task' fits
      exact ⟨fits,fun _ => forward_refl,fun report member => .inl member,.inl rfl,.inr ⟨rfl,.inl rfl⟩,.inl rfl,
        fun _ => .inl rfl⟩
    dsimp only at taken
    split at taken <;> cases taken <;> exact counted _ more
  · obtain ⟨going,same,under⟩ := held
    split at taken
    · split at taken
      · cases taken
        exact stepped_same rfl rfl rfl rfl ⟨going,same,under⟩ fun _ => rfl
      · cases taken
    · have few := allowed.2.2 _ rfl
      cases taken
      exact stepped_same rfl rfl rfl rfl ⟨going,running_more under ⟨Nat.le_of_eq few.1,few.2⟩⟩ fun _ => rfl
    · cases taken
      exact stepped_same rfl rfl rfl rfl ⟨going,same,under⟩ fun _ => rfl
  · cases taken
    exact stepped_same send_current send_runCounts send_reports send_running held fun _ => rfl
  · rename_i desktop totalCount counts skippedCount transport
    cases taken
    obtain ⟨phase,same,-⟩ := @progress_shown counts transport totalCount skippedCount
    refine stepped_write rfl rfl (.inl rfl) rfl rfl (fun _ => ?_) ⟨held.1,held.2.1,progress_running⟩
    rw [same]
    exact running_forward held.2.2
  · cases taken
    exact stepped_same send_current send_runCounts send_reports send_running held fun _ => rfl
  · cases taken
    exact stepped_write rfl rfl (.inl rfl) rfl rfl (fun _ => running_forward held.2.2) held.1
  · cases taken
    refine stepped_same send_current send_runCounts send_reports send_running held fun _ => rfl
  · cases taken
    exact ⟨trivial,fun _ => forward_refl,fun report member => .inl member,.inl rfl,.inl rfl,.inr (.inl rfl),nofun⟩
  · cases taken
    exact stepped_write rfl rfl (.inl rfl) rfl rfl (fun _ => running_forward held.2.2) trivial
  · cases taken
    exact stepped_write rfl rfl (.inl rfl) rfl rfl (fun _ => running_forward held.2.2) trivial
  · cases taken
    exact stepped_write rfl rfl (.inr rfl) rfl rfl (fun _ => running_forward held.2) trivial
  · cases taken

theorem stepped_back {key : Shown} (seen : current w' = current w ∨ pendingWrite w task input = some key)
    (back : current w' = some key) (counts : w'.runCounts = w.runCounts) (reports : w'.reports = w.reports)
    (running : w'.running = w.running) (forward : Forward (current w) (some key)) : Stepped w task input w' .idle := by
  refine ⟨trivial,fun _ => by rw [back]; exact forward,?_,?_,.inl counts,.inl running,nofun⟩
  · intro report member
    rw [reports] at member
    exact .inl member
  · rcases seen with same | pending
    · exact .inl same
    · exact .inr ⟨key,pending,back⟩

theorem copied_shown (w : Service) : ∀ old ∈ current w, old = shown (w.currentSnapshot.getD (.empty .lan)) := by
  intro old there
  unfold current at there
  cases copied : w.currentSnapshot with
  | none =>
      rw [copied] at there
      cases there
  | some snapshot =>
      rw [copied] at there
      cases there
      rfl

theorem step_stepped (held : Fits (current w) w.runCounts w.running task) (allowed : undisturbed.own w task input)
    (taken : stepTask phone w task input = some (w',task')) : Stepped w task input w' task' := by
  unfold stepTask at taken
  split at taken
  · unfold enter at taken
    split at taken
    · split at taken
      · cases taken
      · rename_i alone
        have alone : w.running = false := by simpa using alone
        cases taken
        exact ⟨⟨rfl,rfl⟩,fun _ => forward_refl,fun report member => .inl member,.inl rfl,.inr ⟨rfl,.inr alone⟩,
          .inr (.inr alone),fun _ => .inr alone⟩
    · split at taken
      · cases taken
        exact stepped_same rfl rfl rfl rfl trivial nofun
      · rename_i snapshot there
        cases taken
        exact stepped_same rfl rfl rfl rfl (by simp [Fits,current,there]) nofun
    · cases taken
      exact stepped_same rfl rfl rfl rfl (allowed.1 rfl) nofun
    · cases taken
      exact stepped_same rfl rfl rfl rfl ⟨allowed.1 rfl,copied_shown w⟩ nofun
    · cases taken
      exact stepped_same rfl rfl rfl rfl trivial nofun
    · cases taken
  · rename_i snapshot transport
    cases taken
    have same : current (w.write (if w.stored.isSome then {snapshot with transport} else snapshot)) = current w := by
      refine Eq.trans ?_ held.symm
      unfold current Service.write
      split <;> rfl
    exact stepped_same same rfl rfl rfl trivial nofun
  · split at taken
    · cases taken
      exact stepped_same rfl rfl rfl rfl trivial nofun
    · cases taken
      exact stepped_same rfl rfl rfl rfl held nofun
  · cases taken
    exact stepped_report held trivial nofun
  · split at taken
    · rename_i absent
      cases taken
      exact stepped_back (.inr (by simp [pendingWrite,absent]; rfl)) rfl rfl rfl rfl (failing_forward held.2)
    · cases taken
      exact stepped_same rfl rfl rfl rfl held nofun
  · cases taken
    exact stepped_report held.1 held.2 nofun
  · split at taken
    · cases taken
      exact stepped_same rfl rfl rfl rfl (completing_forward held) nofun
    · cases taken
      exact stepped_same rfl rfl rfl rfl (failing_forward held) nofun
  · cases taken
    exact stepped_back (.inr rfl) rfl rfl rfl rfl held
  · exact run_stepped held allowed taken

theorem fits_kept (held : Fits seen runCounts running other)
    (snapshots : isRun other = true ∨ holdsCopy other = true → seen' = seen)
    (counts : isRun other = true ∨ (unreported other).isSome = true → runCounts' = runCounts)
    (going : isRun other = true → running' = running) : Fits seen' runCounts' running' other := by
  cases other <;> simp_all [Fits,isRun,holdsCopy,unreported]

theorem run_going (held : Fits seen runCounts running task) (run : isRun task = true) : running = true := by
  cases task <;> simp_all [Fits,isRun]

-- Beside a run only completeTransfer writes a snapshot of its own, and that the
-- condition keeps for when there is none.
theorem write_alone {key : Shown} (caller : isRun task = false) (pending : pendingWrite w task input = some key)
    (allowed : undisturbed.own w task input) : w.running = false := by
  have written : (pendingWrite w task input).isSome = true := by simp [pending]
  unfold pendingWrite at pending
  split at pending
  all_goals first
    | exact allowed.2.1 rfl written
    | cases caller
    | cases pending

theorem other_kept (held : Fits (current w) w.runCounts w.running task) (others : Fits (current w) w.runCounts w.running other)
    (apart : isRun task = true → isRun other = false) (allowed : undisturbed.own w task input)
    (beside : undisturbed.beside w task input other) (taken : stepTask phone w task input = some (w',task')) :
    Fits (current w') w'.runCounts w'.running other := by
  have stepped := step_stepped held allowed taken
  have caller : isRun other = true → isRun task = false ∧ w.running = true := by
    intro run
    refine ⟨?_,run_going others run⟩
    cases moving : isRun task with
    | false => rfl
    | true => rw [apart moving] at run; cases run
  refine fits_kept others ?_ ?_ ?_
  · intro depends
    rcases stepped.seen with same | ⟨key,pending,written⟩
    · exact same
    · rcases depends with run | copied
      · have alone := write_alone (caller run).1 pending allowed
        rw [(caller run).2] at alone
        cases alone
      · by_cases same : pendingWrite w task input = current w
        · rw [written,← pending,same]
        · have free := beside.1 (by simp [pending]) same
          rw [copied] at free
          cases free
  · intro depends
    rcases stepped.counts with same | ⟨recounted,who⟩
    · exact same
    · rcases depends with run | copied
      · rcases who with moving | alone
        · rw [(caller run).1] at moving
          cases moving
        · rw [(caller run).2] at alone
          cases alone
      · rw [beside.2 recounted] at copied
        cases copied
  · intro run
    rcases stepped.running with same | moving | alone
    · exact same
    · rw [(caller run).1] at moving
      cases moving
    · rw [(caller run).2] at alone
      cases alone

section Runs
variable {Index : Type} [DecidableEq Index] {s next : Pool Index Service Task}

def relied : Assertions Service Task where
  world w := ∀ report ∈ w.reports, report.reported = report.run
  thread w := Fits (current w) w.runCounts w.running
  pair task other := isRun task = true → isRun other = false

theorem relied_stable : Stable relied (stepTask phone) (fun _ (_ : Unit) => none) undisturbed where
  own reported held allowed taken := by
    have stepped := step_stepped held allowed taken
    refine ⟨fun report member => ?_,stepped.fits⟩
    rcases stepped.reports report member with old | exact
    · exact reported report old
    · exact exact
  other {w task other input w' task'} _ held others apart back allowed beside taken := by
    have stepped := step_stepped held allowed taken
    refine ⟨other_kept held others apart allowed beside taken,fun run => ?_,fun run => ?_⟩
    · rcases stepped.run run with moving | alone
      · exact apart moving
      · cases going : isRun other with
        | false => rfl
        | true => rw [run_going others going] at alone; cases alone
    · cases moved : isRun task' with
      | false => rfl
      | true =>
          rcases stepped.run moved with moving | alone
          · rw [back run] at moving
            cases moving
          · rw [run_going others run] at alone
            cases alone
  eventWorld _ taken := by cases taken
  eventThread _ _ _ taken := by cases taken

omit [DecidableEq Index] in
theorem launched_relied {stored : Option TrustedDesktopRecord} :
    relied.Hold (launched stored : Pool Index Service Task) :=
  ⟨fun _ member => absurd member (List.not_mem_nil),fun _ => trivial,nofun⟩

def begins (s : Pool Index Service Task) : Move Index Input Unit → Bool
  | .thread i _ => resets (s.threads i)
  | .environment _ => false

-- Undisturbed, the counts go up only and an ended phase stays one until the next run, and
-- what stopTransfer and completeTransfer report is what the run has counted.
theorem counts_go_forward (phone : PhoneLibraries) (stored : Option TrustedDesktopRecord) (s : Pool Index Service Task)
    (path : Reaches (service phone) undisturbed.Admits (launched stored) s) :
    (∀ report ∈ s.world.reports, report.reported = report.run) ∧
      ∀ move next, undisturbed.Admits s move → (service phone).step s move = some next → begins s move = false →
        Forward (current s.world) (current next.world) := by
  have hold := hold_reaches relied_stable launched_relied path
  refine ⟨hold.world,fun move next allowed taken settled => ?_⟩
  cases move with
  | environment event => cases taken
  | thread i input =>
      obtain ⟨world',task',moved,rfl⟩ := thread_parts taken
      exact (step_stepped (hold.thread i) allowed.1 moved).forward settled

end Runs

instance (one two : Counts) : Decidable (AtMost one two) :=
  inferInstanceAs (Decidable (one.transferred ≤ two.transferred ∧ one.failed ≤ two.failed))

instance (w : Service) (task : Task) (input : Input) : Decidable (undisturbed.own w task input) :=
  inferInstanceAs (Decidable (
    (copies task input = true → (w.currentSnapshot.getD (TransferSnapshot.empty .lan)).counts = w.runCounts) ∧
    (concludes task = true → (pendingWrite w task input).isSome → w.running = false) ∧
    ∀ counts ∈ thrown task input, counts.transferred = 0 ∧ counts.failed ≤ 1))

instance (w : Service) (task : Task) (input : Input) (other : Task) : Decidable (undisturbed.beside w task input other) :=
  inferInstanceAs (Decidable (
    ((pendingWrite w task input).isSome → pendingWrite w task input ≠ current w → holdsCopy other = false) ∧
    (recounts task input = true → unreported other = none)))

instance (w : Service) (event : Unit) (other : Task) : Decidable (undisturbed.event w event other) :=
  inferInstanceAs (Decidable True)

def plainRecord : TrustedDesktopRecord := ⟨"trust-key","session-1","phone-1",false,false⟩

def firstCounted : List (Move (Fin 2) Input Unit) :=
  [.startTransfer,.resolved .lan,.resolved .lan,.fetched (.ok 2),.exchanged (.accepted false),.post true "proof" [],
    .answered none,.resolved .lan,.counted .uploaded].map (.thread 0)

def transferredCount (w : Service) : Option Nat := w.currentSnapshot.map TransferSnapshot.transferredCount

-- progressSnapshot copies the snapshot, the run writes that an asset was transferred, and
-- the copy is written over it.
theorem refresh_takes_back : ¬ ∀ (phone : PhoneLibraries) (stored : Option TrustedDesktopRecord) (s : Pool (Fin 2) Service Task),
    Reachable (service phone) (launched stored) s → (∀ report ∈ s.world.reports, report.reported = report.run) ∧
      ∀ move next, (service phone).step s move = some next → begins s move = false →
        Forward (current s.world) (current next.world) := by
  intro all
  obtain ⟨s,path,seen⟩ := checkedRun_exhibits (service samplePhone) (fun _ _ => True)
    (launched (some plainRecord) : Pool (Fin 2) Service Task)
    (firstCounted ++ [.thread 1 .progressSnapshot,.thread 0 (.resolved .lan)])
    (fun s => transferredCount s.world == some 1 && !begins s (.thread 1 (.resolved .lan)) &&
      ((service samplePhone).step s (.thread 1 (.resolved .lan))).any fun next => transferredCount next.world == some 0)
    (by decide +kernel)
  simp only [Bool.and_eq_true,beq_iff_eq,Bool.not_eq_true',Option.any_eq_true] at seen
  obtain ⟨⟨one,settled⟩,next,taken,zero⟩ := seen
  have forward := (all samplePhone (some plainRecord) s path).2 _ next taken settled
  obtain ⟨snapshot,there,counted⟩ := Option.map_eq_some_iff.mp one
  obtain ⟨later,after,none⟩ := Option.map_eq_some_iff.mp zero
  obtain ⟨new,written,bound,-⟩ := forward (shown snapshot) (by simp [current,there])
  simp only [current,after,Option.map_some,Option.some.injEq] at written
  subst written
  have bound : snapshot.transferredCount ≤ later.transferredCount := bound.1
  omega

-- One after the other: a refresh, both assets, the end of the run, and its completion.
theorem orderly_counts_go_forward : ∃ s : Pool (Fin 2) Service Task,
    s.world.reports = [⟨⟨1,1⟩,⟨1,1⟩⟩] ∧ (∀ report ∈ s.world.reports, report.reported = report.run) ∧
      ∀ move next, undisturbed.Admits s move → (service samplePhone).step s move = some next → begins s move = false →
        Forward (current s.world) (current next.world) := by
  obtain ⟨s,path,seen⟩ := checkedRun_exhibits (service samplePhone) undisturbed.Admits
    (launched (some plainRecord) : Pool (Fin 2) Service Task)
    (firstCounted ++ [.thread 0 (.resolved .lan),.thread 1 .progressSnapshot,.thread 1 (.resolved .usb),
      .thread 0 (.counted .failed),.thread 0 (.resolved .lan),.thread 0 (.batchEnded .finished),.thread 0 (.resolved .lan),
      .thread 0 .completeTransfer,.thread 0 (.resolved .lan),.thread 0 (.post true "proof" []),.thread 0 (.answered none)])
    (fun s => s.world.reports == [⟨⟨1,1⟩,⟨1,1⟩⟩]) (by decide +kernel)
  exact ⟨s,by simpa using seen,counts_go_forward samplePhone (some plainRecord) s path⟩

end ImageSearch.SnapshotCounts
