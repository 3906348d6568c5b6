import ImageSearch.AuthenticatedDeeds

namespace ImageSearch.SoleWorkers
open Transitions Threads Payload AssetUploadStream AoaStreams UsbAdapters

def loopThread : Worker → Option Nat
  | .unborn | .ended => none
  | .checking thread | .configuring thread | .leaving thread _ | .readying thread _ | .waiting thread => some thread
  | .probing attempt | .opening attempt | .registering attempt | .challenging attempt _ | .answering attempt _ _
  | .listening attempt _ _ | .verifying attempt _ _ _ | .accepted attempt _ | .polling attempt _ | .serving attempt _
  | .handling attempt _ _ | .appending attempt _ _ _ _ | .dispatching attempt _ _ _ | .replying attempt _ _ =>
    some attempt.thread

def beyond : Worker → Bool
  | .unborn | .ended | .checking _ => false
  | _ => true

def serves : Worker → Bool
  | .serving _ _ | .handling _ _ _ | .appending _ _ _ _ _ | .dispatching _ _ _ _ | .replying _ _ _ => true
  | _ => false

def registers : Worker → Bool
  | .registering _ => true
  | _ => false

def untold (adapter : Adapter) : Worker → Bool
  | .opening _ | .registering _ => true
  | .configuring _ | .probing _ => adapter = .usbWebSocket
  | _ => false

section Adapters
variable (adapter : Adapter) (sha256 : String → String) (encryption : PayloadEncryption) {Index : Type} [DecidableEq Index]

-- One call of the adapter after the other: `start` returns when its thread is started.
def callsInSequence (w : UsbAdapter) : Event → Option UsbAdapter
  | .launch thread => stepCaller w (.launch thread)
  | event => if w.made = [] then stepCaller w event else none

def usbAdapterInSequence : System (Pool Index UsbAdapter Worker) (Move Index Input Event) :=
  pool (stepWorker adapter sha256 encryption) callsInSequence

-- A start that clears the event finds every earlier worker ended, nothing is configured
-- while the event is set, and no websocket is registered then.
def orderly (s : Pool Index UsbAdapter Worker) : Move Index Input Event → Prop
  | .environment .start => s.world.stopEvent = true → s.world.bootstrapConfig ≠ none →
      s.world.started = [] ∧ ∀ i, loopThread (s.threads i) = none
  | .environment (.configureBootstrap _) => s.world.stopEvent = false
  | .thread i _ => registers (s.threads i) = true → adapter = .usbWebSocket → s.world.stopEvent = false
  | _ => True

structure SoleWorker (s : Pool Index UsbAdapter Worker) : Prop where
  one : ∀ i j, i ≠ j → beyond (s.threads i) = true → beyond (s.threads j) = false
  current : ∀ i thread, loopThread (s.threads i) = some thread → serves (s.threads i) = true → s.world.superseded ≤ thread
  stopped : s.world.stopEvent = true → s.world.state = .stopped
  unregistered : ∀ i attempt, s.threads i = .registering attempt → attempt.thread ∉ s.world.toldStopped

end Adapters

variable {adapter : Adapter} {sha256 : String → String} {encryption : PayloadEncryption} {w w' w'' : UsbAdapter}
  {t t' : Worker} {thread : Nat} {input : Input}

structure Settled (w : UsbAdapter) : Prop where
  bounded : w.superseded ≤ w.retired ∧ w.retired ≤ w.nextThread
  stopped : w.stopEvent = true → w.state = .stopped ∧ w.workerThread = none ∧ w.made = []
  running : w.stopEvent = false → w.retired = w.superseded ∧ w.toldStopped = []
  fresh : w.stopEvent = false → ∀ thread ∈ w.made ++ w.started, w.workerThread = some thread
  current : ∀ thread ∈ w.made ++ w.started, w.superseded ≤ thread
  single : (w.made ++ w.started).length ≤ 1
  launched : ∀ thread ∈ w.started, thread ∈ w.alive

structure Alone (adapter : Adapter) (w : UsbAdapter) (u : Worker) (thread : Nat) : Prop where
  alive : thread ∈ w.alive
  made : w.made = []
  started : w.started = []
  fresh : w.stopEvent = false → w.workerThread = some thread
  current : w.superseded ≤ thread
  told : untold adapter u = true → thread ∉ w.toldStopped

def workers (adapter : Adapter) : Assertions UsbAdapter Worker where
  world := Settled
  thread w u := ∀ thread, loopThread u = some thread → Alone adapter w u thread
  pair u v := loopThread u = none ∨ loopThread v = none

structure Works (w w' : UsbAdapter) : Prop where
  stopEvent : w'.stopEvent = w.stopEvent
  workerThread : w'.workerThread = w.workerThread
  made : w'.made = w.made
  started : w'.started = w.started
  alive : w'.alive = w.alive
  nextThread : w'.nextThread = w.nextThread
  retired : w'.retired = w.retired
  superseded : w'.superseded = w.superseded
  told : w'.toldStopped = w.toldStopped
  state : w.stopEvent = true → w.state = .stopped → w'.state = .stopped

inductive Passes (adapter : Adapter) (w : UsbAdapter) (t : Worker) (thread : Nat) : UsbAdapter → Worker → Prop where
  | works {w' : UsbAdapter} {t' : Worker} (works : Works w w') (same : loopThread t' = some thread)
      (checked : untold adapter t' = true → untold adapter t = true ∨ w.stopEvent = false) : Passes adapter w t thread w' t'
  | told {t' : Worker} (stopped : w.stopEvent = true) (same : loopThread t' = some thread)
      (checked : untold adapter t' = false) : Passes adapter w t thread (w.tell thread) t'
  | ends {w' : UsbAdapter} (works : Works w w') : Passes adapter w t thread (w'.exit thread) .ended
  | quits (stopped : w.stopEvent = true) : Passes adapter w t thread ((w.tell thread).exit thread) .ended

theorem works_refl (w : UsbAdapter) : Works w w := ⟨rfl,rfl,rfl,rfl,rfl,rfl,rfl,rfl,rfl,fun _ => id⟩

theorem works_detach (w : UsbAdapter) : Works w w.detach := ⟨rfl,rfl,rfl,rfl,rfl,rfl,rfl,rfl,rfl,fun _ => id⟩

theorem works_act (w : UsbAdapter) (stream : TransferAssetUploadStream) (attempt : Attempt) (connection : Nat) (deed : Deed) :
    Works w ({w with assetUploadStream:=stream}.act attempt connection deed) :=
  ⟨rfl,rfl,rfl,rfl,rfl,rfl,rfl,rfl,rfl,fun _ => id⟩

theorem works_stream (w : UsbAdapter) (stream : TransferAssetUploadStream) : Works w {w with assetUploadStream:=stream} :=
  ⟨rfl,rfl,rfl,rfl,rfl,rfl,rfl,rfl,rfl,fun _ => id⟩

theorem works_ready (w : UsbAdapter) : Works w (w.setReadyState adapter) := by
  have state : w.state = .stopped → (if w.state = .stopped then UsbTransportState.stopped else .ready) = .stopped := by
    intro stopped
    rw [if_pos stopped]
  cases adapter <;> exact ⟨rfl,rfl,rfl,rfl,rfl,rfl,rfl,rfl,rfl,fun _ => state⟩

theorem works_register (running : adapter = .usbWebSocket → w.stopEvent = false) : Works w (w.register adapter) := by
  cases adapter with
  | usbWebSocket =>
      refine ⟨rfl,rfl,rfl,rfl,rfl,rfl,rfl,rfl,rfl,?_⟩
      intro stopped
      rw [running rfl] at stopped
      cases stopped
  | aoa => exact ⟨rfl,rfl,rfl,rfl,rfl,rfl,rfl,rfl,rfl,fun _ => id⟩

theorem leave_thread (dies : Bool) : loopThread (leave adapter thread dies) = some thread := by
  cases adapter <;> rfl

theorem leave_told (dies : Bool) : untold adapter (leave adapter thread dies) = false := by
  cases adapter <;> rfl

theorem passes_leave {dies : Bool} (works : Works w w') : Passes adapter w t thread w' (leave adapter thread dies) := by
  refine .works works (leave_thread dies) ?_
  intro checked
  rw [leave_told] at checked
  cases checked

theorem appended_passes {attempt : Attempt} {connection : Nat} {requestId : String} {payload : Bytes} {messages : List Message} :
    Passes adapter w t attempt.thread (appended adapter w attempt connection requestId payload messages).1
      (appended adapter w attempt connection requestId payload messages).2 := by
  unfold appended
  split
  · refine .works ?_ rfl nofun
    dsimp only
    split
    · exact works_stream w _
    · exact works_act w _ _ _ _
  · split
    · exact passes_leave (works_stream w _)
    · exact .works (works_stream w _) rfl nofun

theorem handled_passes {attempt : Attempt} {connection : Nat} {message : Message} {messages : List Message} :
    Passes adapter w t attempt.thread (handled adapter encryption w attempt connection message messages).1
      (handled adapter encryption w attempt connection message messages).2 := by
  unfold handled
  split
  · exact passes_leave (works_refl w)
  · split
    · exact .works (works_refl w) rfl nofun
    · split
      · exact .works (works_refl w) rfl nofun
      · exact passes_leave (works_refl w)
  · split
    · exact .works (works_stream w _) rfl nofun
    · exact .works (works_act w _ _ _ _) rfl nofun
    · exact .works (works_act w _ _ _ _) rfl nofun
    · exact .works (works_stream w _) rfl nofun

theorem verified_thread {attempt : Attempt} {connection : Nat} {rand proof : String} :
    Passes adapter w t attempt.thread w (verified adapter sha256 w attempt connection rand proof) := by
  unfold verified
  split
  · exact passes_leave (works_refl w)
  · split
    · exact .works (works_refl w) rfl nofun
    · exact passes_leave (works_refl w)
    · exact passes_leave (works_refl w)

theorem step_passes (inside : loopThread t = some thread)
    (running : registers t = true → adapter = .usbWebSocket → w.stopEvent = false)
    (taken : stepWorker adapter sha256 encryption w t input = some (w',t')) : Passes adapter w t thread w' t' := by
  have idle := works_refl w
  have clear : ¬ w.stopEvent = true → w.stopEvent = false := Bool.eq_false_iff.mpr
  unfold stepWorker at taken
  split at taken <;> first | cases inside | cases taken
  -- checking
  · split at taken
    · rename_i stopped
      cases taken; exact .quits stopped
    · rename_i running
      cases taken; exact .works idle rfl fun _ => .inr (clear running)
  -- configuring
  · split at taken
    · cases taken; exact .works idle rfl fun checked => .inl checked
    · cases taken; exact .works idle rfl nofun
    · cases taken; exact .ends idle
  -- probing
  · cases taken; exact .works idle rfl nofun
  · split at taken
    · rename_i stopped
      cases taken
      obtain ⟨rfl,stopped⟩ := stopped
      exact .told stopped rfl rfl
    · rename_i goes
      cases taken
      refine .works idle rfl ?_
      intro _
      cases adapter with
      | usbWebSocket => exact .inl rfl
      | aoa => exact .inr (clear fun stopped => goes ⟨rfl,stopped⟩)
  -- opening
  · split at taken
    · cases taken; exact .works idle rfl fun _ => .inl rfl
    · cases taken; exact .works idle rfl nofun
    · cases taken; exact .works idle rfl nofun
  -- registering
  · cases taken
    exact .works (works_register (running rfl)) rfl nofun
  -- challenging
  · split at taken
    · cases taken
    · cases taken; exact .works ⟨rfl,rfl,rfl,rfl,rfl,rfl,rfl,rfl,rfl,fun _ => id⟩ rfl nofun
  -- answering
  · split at taken
    · rename_i stopped
      cases taken; exact .told stopped (leave_thread _) (leave_told _)
    · cases taken; exact .works idle rfl nofun
  · cases taken; exact passes_leave idle
  -- listening
  · cases taken; exact .works idle rfl nofun
  · split at taken
    · split at taken
      · cases taken; exact .works idle rfl nofun
      · cases taken; exact passes_leave idle
      · cases taken; exact .works ⟨rfl,rfl,rfl,rfl,rfl,rfl,rfl,rfl,rfl,fun _ => id⟩ rfl nofun
    · cases taken
  -- verifying
  · cases taken; exact verified_thread
  -- accepted
  · cases taken
    refine .works ⟨rfl,rfl,rfl,rfl,rfl,rfl,rfl,rfl,rfl,?_⟩ rfl nofun
    intro _ stopped
    exact if_pos stopped
  -- polling
  · split at taken
    · rename_i stopped
      cases taken; exact .told stopped (leave_thread _) (leave_told _)
    · cases taken; exact .works idle rfl nofun
  -- serving
  · cases taken; exact .works idle rfl nofun
  · split at taken
    · cases taken; exact .works idle rfl nofun
    · cases taken
  -- handling
  · split at taken
    · cases taken; exact .works idle rfl nofun
    · rename_i attempt connection _ message messages
      have done := @handled_passes adapter encryption w (.handling attempt connection (message :: messages)) attempt connection
        message messages
      simp only [Option.some.injEq] at taken
      rw [taken] at done
      exact done
  -- appending
  · rename_i attempt connection requestId payload messages
    have done := @appended_passes adapter w (.appending attempt connection requestId payload messages) attempt connection
      requestId payload messages
    simp only [Option.some.injEq] at taken
    rw [taken] at done
    exact done
  -- dispatching
  · cases taken; exact .works (works_act w w.assetUploadStream _ _ _) rfl nofun
  · cases taken; exact passes_leave (works_act w w.assetUploadStream _ _ _)
  -- replying
  · cases taken; exact .works idle rfl nofun
  -- failures
  · cases taken; exact .works idle rfl nofun
  · cases taken; exact passes_leave idle
  · cases taken; exact passes_leave idle
  · cases taken; exact passes_leave idle
  · cases taken; exact passes_leave idle
  -- leaving
  · cases taken; exact .works (works_detach w) rfl nofun
  -- readying
  · split at taken
    · cases taken; exact .ends (works_ready w)
    · cases taken; exact .works (works_ready w) rfl nofun
  -- waiting
  · cases taken; exact .works idle rfl nofun

theorem step_enters (outside : loopThread t = none) (taken : stepWorker adapter sha256 encryption w t input = some (w',t')) :
    ∃ thread, thread ∈ w.started ∧ w' = {w with started:=w.started.erase thread} ∧ t' = .checking thread := by
  unfold stepWorker at taken
  split at taken <;> first | cases outside | cases taken
  split at taken
  · rename_i thread there
    cases taken
    exact ⟨thread,there,rfl,rfl⟩
  · cases taken

theorem works_settled (works : Works w w') (settled : Settled w) : Settled w' := by
  obtain ⟨bounded,stopped,running,fresh,current,single,launched⟩ := settled
  constructor
  · rwa [works.superseded,works.retired,works.nextThread]
  · intro event
    rw [works.stopEvent] at event
    rw [works.workerThread,works.made]
    exact ⟨works.state event (stopped event).1,(stopped event).2⟩
  · rwa [works.stopEvent,works.retired,works.superseded,works.told]
  · rwa [works.stopEvent,works.made,works.started,works.workerThread]
  · rwa [works.made,works.started,works.superseded]
  · rwa [works.made,works.started]
  · rwa [works.started,works.alive]

theorem tell_settled (stopped : w.stopEvent = true) (settled : Settled w) : Settled (w.tell thread) where
  bounded := settled.bounded
  stopped := settled.stopped
  running running := by cases stopped.symm.trans running
  fresh := settled.fresh
  current := settled.current
  single := settled.single
  launched := settled.launched

theorem exit_settled (started : w.started = []) (settled : Settled w) : Settled (w.exit thread) where
  bounded := settled.bounded
  stopped := settled.stopped
  running := settled.running
  fresh := settled.fresh
  current := settled.current
  single := settled.single
  launched := by
    intro other there
    change other ∈ w.started at there
    rw [started] at there
    cases there

theorem passes_keeps (settled : Settled w) (alone : Alone adapter w t thread) (passes : Passes adapter w t thread w' t') :
    Settled w' ∧ ∀ after, loopThread t' = some after → Alone adapter w' t' after := by
  cases passes with
  | works works same checked =>
      refine ⟨works_settled works settled,?_⟩
      intro after inside
      cases same.symm.trans inside
      constructor
      · rw [works.alive]; exact alone.alive
      · rw [works.made]; exact alone.made
      · rw [works.started]; exact alone.started
      · rw [works.stopEvent,works.workerThread]; exact alone.fresh
      · rw [works.superseded]; exact alone.current
      · intro before
        rw [works.told]
        rcases checked before with earlier | running
        · exact alone.told earlier
        · rw [(settled.running running).2]
          exact List.not_mem_nil
  | told stopped same checked =>
      refine ⟨tell_settled stopped settled,?_⟩
      intro after inside
      cases same.symm.trans inside
      refine ⟨alone.alive,alone.made,alone.started,alone.fresh,alone.current,?_⟩
      intro before
      rw [checked] at before
      cases before
  | ends works => exact ⟨exit_settled (works.started.trans alone.started) (works_settled works settled),nofun⟩
  | quits stopped => exact ⟨exit_settled alone.started (tell_settled stopped settled),nofun⟩

theorem enters_keeps (settled : Settled w) (there : thread ∈ w.started) :
    Settled {w with started:=w.started.erase thread} ∧
      Alone adapter {w with started:=w.started.erase thread} (.checking thread) thread := by
  have one : w.made = [] ∧ w.started = [thread] := by
    have single := settled.single
    obtain ⟨before,after,parts⟩ := List.append_of_mem there
    rw [parts] at single ⊢
    simp only [List.length_append,List.length_cons] at single
    have made : w.made.length = 0 := by omega
    have left : before.length = 0 := by omega
    have right : after.length = 0 := by omega
    rw [List.length_eq_zero_iff] at made left right
    rw [made,left,right]
    exact ⟨rfl,rfl⟩
  have emptied : w.started.erase thread = [] := by rw [one.2]; simp
  rw [emptied]
  have pending : thread ∈ w.made ++ w.started := List.mem_append_right _ there
  refine ⟨⟨settled.bounded,settled.stopped,settled.running,?_,?_,?_,nofun⟩,settled.launched thread there,one.1,rfl,
    fun running => settled.fresh running thread pending,settled.current thread pending,nofun⟩
  · intro running other member
    rw [one.1] at member
    cases member
  · intro other member
    rw [one.1] at member
    cases member
  · rw [one.1]
    exact Nat.zero_le _

-- The third clause of `orderly`, on the thread that moves.
def registersRunning (adapter : Adapter) : Condition UsbAdapter Worker Input Empty where
  own w t _ := registers t = true → adapter = .usbWebSocket → w.stopEvent = false

theorem workers_stable : Stable (workers adapter) (stepWorker adapter sha256 encryption) (fun _ => nofun)
    (registersRunning adapter) where
  own := by
    intro w t input w' t' settled alone running taken
    cases inside : loopThread t with
    | some thread => exact passes_keeps settled (alone thread inside) (step_passes inside running taken)
    | none =>
        obtain ⟨thread,there,rfl,rfl⟩ := step_enters inside taken
        obtain ⟨after,sole⟩ := @enters_keeps adapter w thread settled there
        exact ⟨after,fun other same => by cases same; exact sole⟩
  other := by
    intro w t u input w' t' settled mine alone pair _ running _ taken
    have outside : loopThread u = none := by
      cases inside : loopThread u with
      | none => rfl
      | some other =>
          have sole := alone other inside
          rcases pair with out | out
          · obtain ⟨thread,there,-,-⟩ := step_enters out taken
            rw [sole.started] at there
            cases there
          · cases inside.symm.trans out
    refine ⟨?_,.inr outside,.inl outside⟩
    intro other inside
    cases outside.symm.trans inside
  eventWorld := nofun
  eventThread := nofun

section Events
variable {Index : Type} {s : Pool Index UsbAdapter Worker}

theorem needs_dead (needed : w.needsWorker = true) (kept : w.workerThread = some thread) : thread ∉ w.alive := by
  simpa [UsbAdapter.needsWorker,kept] using needed

-- Where start makes a thread, none is in the loop or on its way into it.
theorem needed_idle (old : (workers adapter).Hold s) (allowed : orderly adapter s (.environment .start))
    (configured : s.world.bootstrapConfig ≠ none) (needed : s.world.needsWorker = true) :
    s.world.started = [] ∧ ∀ i, loopThread (s.threads i) = none := by
  cases event : s.world.stopEvent with
  | true => exact allowed event configured
  | false =>
      constructor
      · cases started : s.world.started with
        | nil => rfl
        | cons thread rest =>
            have there : thread ∈ s.world.started := by rw [started]; exact List.mem_cons_self ..
            have kept := old.world.fresh event thread (List.mem_append_right _ there)
            exact absurd (old.world.launched thread there) (needs_dead needed kept)
      · intro i
        cases inside : loopThread (s.threads i) with
        | none => rfl
        | some thread =>
            have alone := old.thread i thread inside
            exact absurd alone.alive (needs_dead needed (alone.fresh event))

theorem start_holds (old : (workers adapter).Hold s) (allowed : orderly adapter s (.environment .start))
    (made : s.world.made = []) : (workers adapter).Hold ⟨s.world.start,s.threads⟩ := by
  obtain ⟨settled,alone,pair⟩ := old
  unfold UsbAdapter.start
  by_cases configured : s.world.bootstrapConfig = none
  · rw [if_pos configured]
    exact ⟨settled,alone,pair⟩
  rw [if_neg configured]
  by_cases needed : s.world.needsWorker = true
  · obtain ⟨started,outside⟩ := needed_idle ⟨settled,alone,pair⟩ allowed configured needed
    simp only [needed,if_true]
    refine ⟨⟨⟨Nat.le_refl _,Nat.le_succ_of_le settled.bounded.2⟩,nofun,fun _ => ⟨rfl,rfl⟩,?_,?_,?_,settled.launched⟩,?_,pair⟩
    · intro _ thread member
      simp only [made,started,List.append_nil,List.mem_singleton] at member
      subst member
      rfl
    · intro thread member
      simp only [made,started,List.append_nil,List.mem_singleton] at member
      subst member
      exact settled.bounded.2
    · simp [made,started]
    · intro i thread inside
      cases (outside i).symm.trans inside
  · have running : s.world.stopEvent = false := by
      by_contra stopped
      rw [Bool.not_eq_false] at stopped
      have ended := (settled.stopped stopped).2.1
      simp [UsbAdapter.needsWorker,ended] at needed
    simp only [needed]
    have same := (settled.running running).1
    refine ⟨⟨⟨Nat.le_refl _,settled.bounded.2⟩,nofun,fun _ => ⟨rfl,rfl⟩,fun _ => settled.fresh running,?_,settled.single,
      settled.launched⟩,?_,pair⟩
    · intro thread member
      change s.world.retired ≤ thread
      rw [same]
      exact settled.current thread member
    · intro i thread inside
      have sole := alone i thread inside
      refine ⟨sole.alive,sole.made,sole.started,fun _ => sole.fresh running,?_,fun _ => List.not_mem_nil⟩
      change s.world.retired ≤ thread
      rw [same]
      exact sole.current

theorem launch_holds (old : (workers adapter).Hold s) (there : thread ∈ s.world.made) :
    (workers adapter).Hold ⟨{s.world with
      made:=s.world.made.erase thread
      started:=thread :: s.world.started
      alive:=thread :: s.world.alive},s.threads⟩ := by
  obtain ⟨settled,alone,pair⟩ := old
  have single := settled.single
  obtain ⟨before,after,parts⟩ := List.append_of_mem there
  have one : s.world.made = [thread] ∧ s.world.started = [] := by
    rw [parts] at single ⊢
    simp only [List.length_append,List.length_cons] at single
    have left : before.length = 0 := by omega
    have right : after.length = 0 := by omega
    have started : s.world.started.length = 0 := by omega
    rw [List.length_eq_zero_iff] at left right started
    rw [left,right]
    exact ⟨rfl,started⟩
  have running : s.world.stopEvent = false := by
    by_contra stopped
    rw [Bool.not_eq_false] at stopped
    rw [(settled.stopped stopped).2.2] at there
    cases there
  have pending : thread ∈ s.world.made ++ s.world.started := List.mem_append_left _ there
  rw [one.1,one.2]
  simp only [List.erase_cons_head]
  refine ⟨⟨settled.bounded,?_,settled.running,?_,?_,Nat.le_refl _,?_⟩,?_,pair⟩
  · intro stopped
    cases running.symm.trans stopped
  · intro _ other member
    cases List.mem_singleton.mp member
    exact settled.fresh running thread pending
  · intro other member
    cases List.mem_singleton.mp member
    exact settled.current thread pending
  · intro other member
    cases List.mem_singleton.mp member
    exact List.mem_cons_self ..
  · intro i other inside
    rw [(alone i other inside).made] at there
    cases there

theorem stop_holds (old : (workers adapter).Hold s) (made : s.world.made = []) :
    (workers adapter).Hold ⟨s.world.stop,s.threads⟩ := by
  obtain ⟨settled,alone,pair⟩ := old
  refine ⟨⟨⟨Nat.le_trans settled.bounded.1 settled.bounded.2,Nat.le_refl _⟩,fun _ => ⟨rfl,rfl,made⟩,nofun,nofun,
    settled.current,settled.single,settled.launched⟩,?_,pair⟩
  intro i thread inside
  have sole := alone i thread inside
  exact ⟨sole.alive,sole.made,sole.started,nofun,sole.current,sole.told⟩

theorem configure_holds {config : UsbBootstrapConfig} (old : (workers adapter).Hold s) (running : s.world.stopEvent = false) :
    (workers adapter).Hold ⟨s.world.configureBootstrap config,s.threads⟩ := by
  obtain ⟨settled,alone,pair⟩ := old
  refine ⟨⟨settled.bounded,?_,settled.running,settled.fresh,settled.current,settled.single,settled.launched⟩,?_,pair⟩
  · intro stopped
    cases running.symm.trans stopped
  · intro i thread inside
    have sole := alone i thread inside
    exact ⟨sole.alive,sole.made,sole.started,sole.fresh,sole.current,sole.told⟩

theorem event_holds {event : Event} (old : (workers adapter).Hold s) (allowed : orderly adapter s (.environment event))
    (taken : callsInSequence s.world event = some w') : (workers adapter).Hold ⟨w',s.threads⟩ := by
  cases event with
  | launch thread =>
      simp only [callsInSequence,stepCaller] at taken
      split at taken
      · rename_i there
        cases taken; exact launch_holds old there
      · cases taken
  | start =>
      simp only [callsInSequence,stepCaller] at taken
      split at taken
      · rename_i made
        cases taken; exact start_holds old allowed made
      · cases taken
  | stop =>
      simp only [callsInSequence,stepCaller] at taken
      split at taken
      · rename_i made
        cases taken; exact stop_holds old made
      · cases taken
  | configureBootstrap config =>
      simp only [callsInSequence,stepCaller] at taken
      split at taken
      · cases taken; exact configure_holds old allowed
      · cases taken

theorem step_holds [DecidableEq Index] (s : Pool Index UsbAdapter Worker) (move : Move Index Input Event) (next : Pool Index UsbAdapter Worker)
    (old : (workers adapter).Hold s) (allowed : orderly adapter s move)
    (taken : (usbAdapterInSequence adapter sha256 encryption).step s move = some next) : (workers adapter).Hold next := by
  cases move with
  | thread i input =>
      have running : (registersRunning adapter).Admits s (.thread i input : Move Index Input Empty) :=
        ⟨allowed,fun _ _ => trivial⟩
      exact hold_preserved (@workers_stable adapter sha256 encryption) old running taken
  | environment event =>
      obtain ⟨w',moved,rfl⟩ := environment_parts taken
      exact event_holds old allowed moved

theorem created_holds : (workers adapter).Hold (created : Pool Index UsbAdapter Worker) where
  world := ⟨⟨Nat.le_refl _,Nat.le_refl _⟩,nofun,fun _ => ⟨rfl,rfl⟩,nofun,nofun,Nat.zero_le _,nofun⟩
  thread _ := nofun
  pair _ _ _ := .inl rfl

theorem beyond_inside (beyond : beyond t = true) : ∃ thread, loopThread t = some thread := by
  cases t <;> first | exact ⟨_,rfl⟩ | cases beyond

theorem holds_sole (old : (workers adapter).Hold s) : SoleWorker s where
  one i j different here := by
    obtain ⟨thread,inside⟩ := beyond_inside here
    rw [Bool.eq_false_iff]
    intro there
    obtain ⟨other,beside⟩ := beyond_inside there
    rcases old.pair i j different with out | out
    · cases inside.symm.trans out
    · cases beside.symm.trans out
  current i thread inside _ := (old.thread i thread inside).current
  stopped event := (old.world.stopped event).1
  unregistered i attempt here := by
    have alone := old.thread i attempt.thread (by rw [here]; rfl)
    rw [here] at alone
    exact alone.told rfl

theorem sole_worker (adapter : Adapter) (sha256 : String → String) (encryption : PayloadEncryption) [DecidableEq Index]
    (path : Reaches (usbAdapterInSequence adapter sha256 encryption) (orderly adapter) created s) : SoleWorker s :=
  holds_sole (reaches_preserves step_holds created_holds path)

end Events

section Samples
open AuthenticatedDeeds

instance {Index : Type} [DecidableEq Index] [Fintype Index] (adapter : Adapter) (s : Pool Index UsbAdapter Worker)
    (move : Move Index Input Event) : Decidable (orderly adapter s move) :=
  match move with
  | .environment .start => inferInstanceAs (Decidable (s.world.stopEvent = true → s.world.bootstrapConfig ≠ none →
      s.world.started = [] ∧ ∀ i, loopThread (s.threads i) = none))
  | .environment (.configureBootstrap _) => inferInstanceAs (Decidable (s.world.stopEvent = false))
  | .environment (.launch _) | .environment .stop => inferInstanceAs (Decidable True)
  | .thread i _ => inferInstanceAs (Decidable (registers (s.threads i) = true → adapter = .usbWebSocket →
      s.world.stopEvent = false))

def pair (adapter : Adapter) : System (Pool (Fin 2) UsbAdapter Worker) (Move (Fin 2) Input Event) :=
  usbAdapterInSequence adapter id clearPayloads

def enters (thread : Nat) (i : Fin 2) : List (Move (Fin 2) Input Event) :=
  [.environment .start,.environment (.launch thread),.thread i (.run thread),.thread i .proceed]

def Restarts (adapter : Adapter) : Prop :=
  ∃ s, Reaches (pair adapter) (orderly adapter) created s ∧ s.threads 0 = .ended ∧ beyond (s.threads 1) = true ∧ SoleWorker s

theorem restart_sole : Restarts .usbWebSocket ∧ Restarts .aoa := by
  have each : ∀ adapter, Restarts adapter := by
    intro adapter
    obtain ⟨s,path,seen⟩ := checkedRun_exhibits (pair adapter) (orderly adapter) created
      (.environment (.configureBootstrap firstConfig) :: [.environment .start,.environment (.launch 0),.thread 0 (.run 0),
        .environment .stop,.thread 0 .proceed] ++ enters 1 1)
      (fun s => (match s.threads 0 with | .ended => true | _ => false) && beyond (s.threads 1))
      (by cases adapter <;> decide +kernel)
    obtain ⟨first,second⟩ := Bool.and_eq_true_iff.mp seen
    refine ⟨s,path,?_,second,sole_worker adapter id clearPayloads path⟩
    cases here : s.threads 0 <;> rw [here] at first <;> first | rfl | cases first
  exact ⟨each .usbWebSocket,each .aoa⟩

-- The worker of the first start is past its check when stop returns; the second start
-- clears the event that it has not seen.
def RunsTwo (adapter : Adapter) : Prop :=
  ∃ s, Reachable (pair adapter) created s ∧ beyond (s.threads 0) = true ∧ beyond (s.threads 1) = true ∧ ¬ SoleWorker s

theorem restarted_twice : RunsTwo .usbWebSocket ∧ RunsTwo .aoa := by
  have each : ∀ adapter, RunsTwo adapter := by
    intro adapter
    obtain ⟨s,path,seen⟩ := checkedRun_exhibits (pair adapter) (fun _ _ => True) created
      (.environment (.configureBootstrap firstConfig) :: enters 0 0 ++ .environment .stop :: enters 1 1)
      (fun s => beyond (s.threads 0) && beyond (s.threads 1)) (by cases adapter <;> decide +kernel)
    obtain ⟨first,second⟩ := Bool.and_eq_true_iff.mp seen
    refine ⟨s,path,first,second,?_⟩
    intro sole
    rw [sole.one 0 1 (by decide) first] at second
    cases second
  exact ⟨each .usbWebSocket,each .aoa⟩

end Samples

end ImageSearch.SoleWorkers
