import ImageSearch.ConnectionThreads

namespace ImageSearch.ConnectionGenerations
open Transitions Threads PhoneConnection ConnectionThreads

variable {w w' : AoaClient} {kind : CallKind} {requestId : String} {queue seen : Nat}

def registry (client : AoaClient) : CallKind → Registry
  | .request => client.pendingResponses
  | .streaming => client.pendingStreamingResponses

def queues (client : AoaClient) : List Nat :=
  (client.pendingResponses ++ client.pendingStreamingResponses).map Prod.snd

-- The call a thread is in between its registration, or its lookup, and its removal.
def held : Activity → Option (CallKind × String × Nat × Nat)
  | .requesting kind requestId queue _ seen => some (kind,requestId,queue,seen)
  | .waiting kind requestId queue seen => some (kind,requestId,queue,seen)
  | .removing kind requestId queue seen => some (kind,requestId,queue,seen)
  | _ => none

-- Past the loop's check the reader's connection, while it is the current one, is open
-- and not stopped.
def Live (client : AoaClient) (generation : Nat) : Prop :=
  generation ≤ client.connectionGeneration ∧
    (generation = client.connectionGeneration → client.streams = some generation)

def Checked (client : AoaClient) (generation : Nat) : Prop :=
  Live client generation ∧ (generation = client.connectionGeneration → client.stopped = false)

-- A call that saw the current connection finds its queue in its map; one that saw an
-- earlier connection has its queue in no map, and has been woken unless it is leaving.
structure Held (client : AoaClient) (kind : CallKind) (requestId : String) (queue seen : Nat) : Prop where
  issued : queue < client.nextQueue
  past : seen ≤ client.connectionGeneration
  current : seen = client.connectionGeneration → (registry client kind).get requestId = some queue
  earlier : seen ≠ client.connectionGeneration → queue ∉ queues client

def Woken (client : AoaClient) (queue seen : Nat) : Prop :=
  seen ≠ client.connectionGeneration → (client.mailboxes queue).isSome

def ThreadFits (client : AoaClient) : Activity → Prop
  | .requesting kind requestId queue _ seen => Held client kind requestId queue seen ∧ Woken client queue seen
  | .waiting kind requestId queue seen => Held client kind requestId queue seen ∧ Woken client queue seen
  | .removing kind requestId queue seen => Held client kind requestId queue seen
  | .reading generation => Live client generation
  | .receiving generation | .handling generation _ | .challenged generation _ _ _ | .rejecting generation _
  | .answering generation _ _ _ | .offering generation _ _ _ => Checked client generation
  | .answered generation _ => Checked client generation ∧ generation ∈ client.answered
  | .writing generation => Live client generation
  | .taking generation => Live client generation
  | .holding generation frame => Live client generation ∧ generation ≤ frame.seen
  | .raising (.handler generation _) | .checking (.handler generation _) | .lowering (.handler generation _)
  | .closing (.handler generation _) | .submitting (.handler generation _) => Checked client generation
  | _ => True

def RoleFits (client : AoaClient) : Role → Prop
  | .reader generation => Live client generation
  | .writer generation => Live client generation
  | .watchdog => True

structure WorldFits (client : AoaClient) : Prop where
  queued : ∀ frame ∈ client.outgoingQueue, frame.seen = client.connectionGeneration
  streams : ∀ generation, client.streams = some generation → generation = client.connectionGeneration
  connected : client.state = .connected → client.streams = some client.connectionGeneration ∧
    client.connectionGeneration ∈ client.answered ∧ client.stopped = false
  written : ∀ entry ∈ client.written, entry.2 ≤ entry.1.seen
  issued : ∀ queue ∈ queues client, queue < client.nextQueue
  distinct : (queues client).Nodup
  starting : ∀ role ∈ client.starting, RoleFits client role

def Apart (one two : Activity) : Prop :=
  ∀ kind requestId queue seen kind' requestId' queue' seen', held one = some (kind,requestId,queue,seen) →
    held two = some (kind',requestId',queue',seen') → queue ≠ queue' ∧ (kind = kind' → requestId ≠ requestId')

def generations : Assertions AoaClient Activity where
  world := WorldFits
  thread := ThreadFits
  pair := Apart

def entering : Input → Option (CallKind × String)
  | .sendRequest requestId _ => some (.request,requestId)
  | .beginStreamingRequest requestId _ => some (.streaming,requestId)
  | .finishStreamingRequest requestId _ => some (.streaming,requestId)
  | _ => none

-- No close between a caller's check and its frame's arrival in the queue, and none
-- between the challenge's answer and the change of state.
def onItsConnection (client : AoaClient) : Activity → Input → Bool
  | .sending _ _ seen,.go => seen = client.connectionGeneration
  | .requesting _ _ _ _ seen,.go => seen = client.connectionGeneration
  | .answered generation _,.go => generation = client.connectionGeneration
  | _,_ => true

def onItsId : Activity → Input → Activity → Bool
  | .idle,input,other => (entering input).all fun id => (held other).all fun call => (call.1,call.2.1) ≠ id
  | _,_,_ => true

def undisturbed : Condition AoaClient Activity Input Event where
  own client thread input := onItsConnection client thread input = true
  beside _ thread input other := onItsId thread input other = true

theorem ids_differ {input : Input} {other : Activity} {id : String} (free : onItsId .idle input other = true)
    (enters : entering input = some (kind,requestId)) (call : held other = some (kind,id,queue,seen)) : id ≠ requestId := by
  simpa [onItsId,enters,call] using free

inductive Change where
  | quiet
  | registered (kind : CallKind) (requestId : String)
  | taken (queue : Nat)
  | removed (kind : CallKind) (requestId : String)
  | offered (queue : Nat) (result : ResponseResult)
  | closed

structure Quiet (w w' : AoaClient) : Prop where
  generation : w'.connectionGeneration = w.connectionGeneration
  streams : w'.streams = w.streams
  stopped : w'.stopped = w.stopped ∨ w'.stopped = false
  responses : w'.pendingResponses = w.pendingResponses
  streaming : w'.pendingStreamingResponses = w.pendingStreamingResponses
  mailboxes : w'.mailboxes = w.mailboxes
  next : w'.nextQueue = w.nextQueue
  answered : w.answered ⊆ w'.answered

structure Closed (w w' : AoaClient) : Prop where
  generation : w.connectionGeneration < w'.connectionGeneration
  mailboxes : w'.mailboxes = w.wakeAll
  responses : w'.pendingResponses = []
  streaming : w'.pendingStreamingResponses = []
  next : w'.nextQueue = w.nextQueue
  answered : w.answered ⊆ w'.answered

def registering (w : AoaClient) (requestId : String) : CallKind → AoaClient
  | .request => (w.registerPendingResponse requestId).1
  | .streaming => (w.registerPendingStreamingResponse requestId).1

def Change.Made (w w' : AoaClient) : Change → Prop
  | .quiet => Quiet w w'
  | .registered kind requestId => w' = registering w requestId kind
  | .taken queue => w' = w.take queue
  | .removed kind requestId => w' = removePending w kind requestId
  | .offered queue result => w' = w.offer queue result
  | .closed => Closed w w'

def Change.Clear (call : Option (CallKind × String × Nat × Nat)) : Change → Prop
  | .registered kind requestId => ∀ id queue seen, call = some (kind,id,queue,seen) → id ≠ requestId
  | .removed kind requestId => ∀ id queue seen, call = some (kind,id,queue,seen) → id ≠ requestId
  | .taken queue => ∀ kind id queue' seen, call = some (kind,id,queue',seen) → queue' ≠ queue
  | _ => True

theorem registry_registering (other : CallKind) (id : String) (different : other = kind → id ≠ requestId) :
    (registry (registering w requestId kind) other).get id = (registry w other).get id := by
  cases kind <;> cases other <;>
    simp_all [registry,registering,AoaClient.registerPendingResponse,AoaClient.registerPendingStreamingResponse,get_put_other]

theorem registry_removed (other : CallKind) (id : String) (different : other = kind → id ≠ requestId) :
    (registry (removePending w kind requestId) other).get id = (registry w other).get id := by
  cases kind <;> cases other <;> simp_all [registry,removePending,get_remove_other]

theorem get_queue (found : (registry w kind).get requestId = some queue) : queue ∈ queues w := by
  have inside := get_mem found
  refine List.mem_map.mpr ⟨(requestId,queue),List.mem_append.mpr ?_,rfl⟩
  cases kind
  · exact .inl inside
  · exact .inr inside

theorem remove_sublist (pending : Registry) : (pending.remove requestId).Sublist pending := List.filter_sublist

theorem queues_registering (w : AoaClient) (requestId : String) (kind : CallKind) : ∃ rest, rest.Sublist (queues w) ∧
    (queues (registering w requestId kind)).Perm (w.nextQueue :: rest) := by
  cases kind with
  | request =>
      refine ⟨((w.pendingResponses.remove requestId) ++ w.pendingStreamingResponses).map Prod.snd,?_,?_⟩
      · exact ((remove_sublist _).append (List.Sublist.refl _)).map _
      · simp [queues,registering,AoaClient.registerPendingResponse,Registry.put]
  | streaming =>
      refine ⟨(w.pendingResponses ++ w.pendingStreamingResponses.remove requestId).map Prod.snd,?_,?_⟩
      · exact ((List.Sublist.refl _).append (remove_sublist _)).map _
      · simp only [queues,registering,AoaClient.registerPendingStreamingResponse,Registry.put,List.map_append,List.map_cons]
        exact List.perm_middle

theorem queues_removed : (queues (removePending w kind requestId)).Sublist (queues w) := by
  cases kind with
  | request => exact ((remove_sublist _).append (List.Sublist.refl _)).map _
  | streaming => exact ((List.Sublist.refl _).append (remove_sublist _)).map _

theorem closed_queues (closed : Closed w w') : queues w' = [] := by
  simp [queues,closed.responses,closed.streaming]

variable {change : Change} {generation : Nat} {u : Activity}

@[simp] theorem registering_generation : (registering w requestId kind).connectionGeneration = w.connectionGeneration := by
  cases kind <;> rfl
@[simp] theorem registering_streams : (registering w requestId kind).streams = w.streams := by cases kind <;> rfl
@[simp] theorem registering_stopped : (registering w requestId kind).stopped = w.stopped := by cases kind <;> rfl
@[simp] theorem registering_mailboxes : (registering w requestId kind).mailboxes = w.mailboxes := by cases kind <;> rfl
@[simp] theorem registering_next : (registering w requestId kind).nextQueue = w.nextQueue + 1 := by cases kind <;> rfl
@[simp] theorem registering_answered : (registering w requestId kind).answered = w.answered := by cases kind <;> rfl
@[simp] theorem removed_generation : (removePending w kind requestId).connectionGeneration = w.connectionGeneration := by
  cases kind <;> rfl
@[simp] theorem removed_streams : (removePending w kind requestId).streams = w.streams := by cases kind <;> rfl
@[simp] theorem removed_stopped : (removePending w kind requestId).stopped = w.stopped := by cases kind <;> rfl
@[simp] theorem removed_mailboxes : (removePending w kind requestId).mailboxes = w.mailboxes := by cases kind <;> rfl
@[simp] theorem removed_next : (removePending w kind requestId).nextQueue = w.nextQueue := by cases kind <;> rfl
@[simp] theorem removed_answered : (removePending w kind requestId).answered = w.answered := by cases kind <;> rfl

structure Steady (w w' : AoaClient) : Prop where
  generation : w'.connectionGeneration = w.connectionGeneration
  streams : w'.streams = w.streams
  stopped : w'.stopped = w.stopped ∨ w'.stopped = false
  answered : w.answered ⊆ w'.answered

theorem change_steady (made : change.Made w w') : Steady w w' ∨ Closed w w' := by
  cases change with
  | quiet => exact .inl ⟨made.generation,made.streams,made.stopped,made.answered⟩
  | registered kind requestId => cases made; exact .inl ⟨by simp,by simp,by simp,by simp⟩
  | taken queue => cases made; exact .inl ⟨rfl,rfl,.inl rfl,List.Subset.refl _⟩
  | removed kind requestId => cases made; exact .inl ⟨by simp,by simp,by simp,by simp⟩
  | offered queue result => cases made; exact .inl ⟨rfl,rfl,.inl rfl,List.Subset.refl _⟩
  | closed => exact .inr made

theorem live_change (made : change.Made w w') (live : Live w generation) : Live w' generation := by
  rcases change_steady made with steady | closed
  · rw [Live,steady.generation,steady.streams]
    exact live
  · have newer := closed.generation
    have past := live.1
    exact ⟨by omega,fun same => by omega⟩

theorem checked_change (made : change.Made w w') (checked : Checked w generation) : Checked w' generation := by
  refine ⟨live_change made checked.1,fun same => ?_⟩
  rcases change_steady made with steady | closed
  · rcases steady.stopped with still | started
    · rw [still]
      exact checked.2 (same.trans steady.generation)
    · exact started
  · have newer := closed.generation
    have past := checked.1.1
    omega

theorem held_change (made : change.Made w w') (call : Held w kind requestId queue seen)
    (clear : change.Clear (some (kind,requestId,queue,seen))) : Held w' kind requestId queue seen := by
  cases change with
  | quiet =>
      have same : registry w' kind = registry w kind := by
        cases kind
        · exact made.responses
        · exact made.streaming
      have queuesSame : queues w' = queues w := by rw [queues,made.responses,made.streaming]; rfl
      exact ⟨made.next ▸ call.issued,made.generation ▸ call.past,
        fun now => same ▸ call.current (now.trans made.generation),
        fun before => queuesSame ▸ call.earlier fun now => before (now.trans made.generation.symm)⟩
  | registered other id =>
      cases made
      have different : kind = other → requestId ≠ id := by
        rintro rfl
        exact clear requestId queue seen rfl
      refine ⟨?_,by simpa using call.past,fun now => ?_,fun before => ?_⟩
      · rw [registering_next]
        have := call.issued
        omega
      · rw [registry_registering kind requestId different]
        exact call.current (by simpa using now)
      · obtain ⟨rest,sub,perm⟩ := queues_registering w id other
        intro inside
        rcases List.mem_cons.mp (perm.mem_iff.mp inside) with fresh | old
        · have := call.issued
          omega
        · exact call.earlier (by simpa using before) (sub.subset old)
  | taken other => cases made; exact ⟨call.issued,call.past,call.current,call.earlier⟩
  | removed other id =>
      cases made
      have different : kind = other → requestId ≠ id := by
        rintro rfl
        exact clear requestId queue seen rfl
      refine ⟨by simpa using call.issued,by simpa using call.past,fun now => ?_,fun before inside => ?_⟩
      · rw [registry_removed kind requestId different]
        exact call.current (by simpa using now)
      · exact call.earlier (by simpa using before) (queues_removed.subset inside)
  | offered other result => cases made; exact ⟨call.issued,call.past,call.current,call.earlier⟩
  | closed =>
      have newer := made.generation
      have past := call.past
      exact ⟨made.next ▸ call.issued,by omega,fun now => by omega,fun _ => by simp [closed_queues made]⟩

theorem woken_change (made : change.Made w w') (call : Held w kind requestId queue seen) (woken : Woken w queue seen)
    (clear : change.Clear (some (kind,requestId,queue,seen))) : Woken w' queue seen := by
  intro before
  cases change with
  | quiet =>
      rw [made.mailboxes]
      exact woken fun now => before (now.trans made.generation.symm)
  | registered other id =>
      cases made
      rw [registering_mailboxes]
      exact woken (by simpa using before)
  | taken other =>
      cases made
      have different : queue ≠ other := clear kind requestId queue seen rfl
      simpa [AoaClient.take,Function.update_of_ne different] using woken before
  | removed other id =>
      cases made
      rw [removed_mailboxes]
      exact woken (by simpa using before)
  | offered other result =>
      cases made
      have kept := woken before
      by_cases same : queue = other
      · subst same
        simp [AoaClient.offer]
      · simpa [AoaClient.offer,Function.update_of_ne same] using kept
  | closed =>
      rw [made.mailboxes,AoaClient.wakeAll]
      by_cases now : seen = w.connectionGeneration
      · have inside := get_queue (call.current now)
        simp only [queues] at inside
        rw [if_pos inside]
        simp
      · have kept := woken now
        split
        · simp
        · exact kept

theorem thread_change (made : change.Made w w') (clear : change.Clear (held u)) (fits : ThreadFits w u) :
    ThreadFits w' u := by
  cases u with
  | requesting kind requestId queue payload seen =>
      exact ⟨held_change made fits.1 clear,woken_change made fits.1 fits.2 clear⟩
  | waiting kind requestId queue seen => exact ⟨held_change made fits.1 clear,woken_change made fits.1 fits.2 clear⟩
  | removing kind requestId queue seen => exact held_change made fits clear
  | reading generation | writing generation | taking generation => exact live_change made fits
  | receiving generation | handling generation _ | challenged generation _ _ _ | rejecting generation _
  | answering generation _ _ _ | offering generation _ _ _ => exact checked_change made fits
  | answered generation rest =>
      refine ⟨checked_change made fits.1,?_⟩
      rcases change_steady made with steady | closed
      · exact steady.answered fits.2
      · exact closed.answered fits.2
  | holding generation frame => exact ⟨live_change made fits.1,fits.2⟩
  | raising caller | checking caller | lowering caller | closing caller | submitting caller =>
      cases caller with
      | handler generation rest => exact checked_change made fits
      | _ => trivial
  | _ => trivial

def changeOf (w : AoaClient) (t : Activity) (x : Input) : Change :=
  match t,x with
  | .idle,.sendRequest requestId _ => if w.state = .connected then .registered .request requestId else .quiet
  | .idle,.beginStreamingRequest requestId _ => if w.state = .connected then .registered .streaming requestId else .quiet
  | .waiting _ _ queue _,.go => .taken queue
  | .removing kind requestId _ _,.go => .removed kind requestId
  | .offering _ queue payload _,.go => .offered queue (.success payload)
  | .closing _,.go => .closed
  | _,_ => .quiet

-- What the registrations of a client depend on; a step that leaves it alone is quiet.
def registrations (w : AoaClient) :=
  (w.connectionGeneration,w.streams,w.stopped,w.pendingResponses,w.pendingStreamingResponses,w.mailboxes,w.nextQueue,w.answered)

theorem quiet_same (same : registrations w' = registrations w) : Quiet w w' := by
  simp only [registrations,Prod.mk.injEq] at same
  obtain ⟨generation,streams,stopped,responses,streaming,mailboxes,next,answered⟩ := same
  exact ⟨generation,streams,.inl stopped,responses,streaming,mailboxes,next,answered ▸ List.Subset.refl _⟩

theorem quiet_refl (w : AoaClient) : Quiet w w := quiet_same rfl

theorem closed_close (w : AoaClient) : Closed w w.closeConnection :=
  ⟨Nat.lt_succ_self _,rfl,rfl,rfl,rfl,List.Subset.refl _⟩

section Steps
variable {t t' : Activity} {x : Input}

theorem still (taken : some (w,t) = some (w',t')) : Quiet w w' := by
  cases taken
  exact quiet_refl w

theorem reader_change (taken : readerStep w t x = some (w',t')) : (changeOf w t x).Made w w' := by
  unfold readerStep at taken
  split at taken
  · split at taken <;> exact still taken
  · exact still taken
  · exact still taken
  · exact still taken
  · exact still taken
  · split at taken <;> exact still taken
  · split at taken <;> exact still taken
  · split at taken
    · exact still taken
    · split at taken <;> exact still taken
  · cases taken
    exact quiet_same rfl
  · split at taken
    · exact still taken
    · split at taken
      · cases taken
        exact ⟨rfl,rfl,.inl rfl,rfl,rfl,rfl,rfl,List.subset_cons_self _ _⟩
      · cases taken
  · cases taken
    exact quiet_same rfl
  · cases taken
    rfl
  · cases taken

theorem writer_change (taken : writerStep w t x = some (w',t')) : (changeOf w t x).Made w w' := by
  unfold writerStep at taken
  split at taken
  · split at taken <;> exact still taken
  · split at taken
    · exact still taken
    · split at taken
      · cases taken
        exact quiet_same rfl
      · cases taken
  · split at taken
    · cases taken
      exact quiet_same rfl
    · exact still taken
  · exact still taken
  · cases taken

theorem call_change (taken : callStep w t x = some (w',t')) : (changeOf w t x).Made w w' := by
  unfold callStep at taken
  split at taken
  · split at taken
    · cases taken
      exact quiet_same rfl
    · cases taken
  · exact still taken
  · split at taken
    · cases taken
      exact quiet_same rfl
    · cases taken
  · exact still taken
  · exact still taken
  · split at taken
    · cases taken
      rfl
    · cases taken
  · split at taken
    · exact still taken
    · cases taken
  · cases taken
    rfl
  · cases taken

theorem resync_change (taken : resyncStep w t x = some (w',t')) : (changeOf w t x).Made w w' := by
  unfold resyncStep at taken
  split at taken
  · split at taken <;> exact still taken
  · split at taken
    · exact still taken
    · cases taken
      exact quiet_same rfl
  · split at taken <;> exact still taken
  · cases taken
    exact quiet_same rfl
  · cases taken
    exact closed_close w
  · split at taken
    · exact still taken
    · cases taken
      exact quiet_same rfl
  · cases taken

theorem enter_change (taken : enter w x = some (w',t')) : (changeOf w .idle x).Made w w' := by
  unfold enter at taken
  split at taken
  · split at taken
    · cases taken
      exact quiet_same rfl
    · cases taken
  · rename_i requestId envelope
    by_cases connected : w.state = .connected
    · have change : changeOf w .idle (.sendRequest requestId envelope) = .registered .request requestId := if_pos connected
      rw [enterSendRequest_connected connected] at taken
      rw [change]
      cases taken
      exact Eq.refl (registering w requestId .request)
    · have change : changeOf w .idle (.sendRequest requestId envelope) = .quiet := if_neg connected
      rw [enterSendRequest_apart connected] at taken
      rw [change]
      exact still taken
  · rename_i requestId envelope
    by_cases connected : w.state = .connected
    · have change : changeOf w .idle (.beginStreamingRequest requestId envelope) = .registered .streaming requestId :=
        if_pos connected
      rw [enterBeginStreaming_connected connected] at taken
      rw [change]
      cases taken
      exact Eq.refl (registering w requestId .streaming)
    · have change : changeOf w .idle (.beginStreamingRequest requestId envelope) = .quiet := if_neg connected
      rw [enterBeginStreaming_apart connected] at taken
      rw [change]
      exact still taken
  · split at taken <;> exact still taken
  · split at taken <;> exact still taken
  · cases taken

theorem step_change (taken : activityStep w t x = some (w',t')) : (changeOf w t x).Made w w' := by
  cases t with
  | idle => exact enter_change taken
  | sending _ _ _ | requesting _ _ _ _ _ | waiting _ _ _ _ | removing _ _ _ _ => exact call_change taken
  | reading _ | receiving _ | handling _ _ | challenged _ _ _ _ | rejecting _ _ | answering _ _ _ _ | answered _ _
  | offering _ _ _ _ => exact reader_change taken
  | writing _ | taking _ | holding _ _ => exact writer_change taken
  | leaving _ | raising _ | checking _ | lowering _ | closing _ | submitting _ => exact resync_change taken
  | watching =>
      simp only [activityStep] at taken
      unfold watchdogStep at taken
      split at taken
      · split at taken <;> exact still taken
      · split at taken
        · exact still taken
        · cases taken
      · cases taken
  | ended _ | crashed _ => cases taken

theorem role_change (made : change.Made w w') (fits : RoleFits w role) : RoleFits w' role := by
  cases role with
  | reader generation => exact live_change made fits
  | writer generation => exact live_change made fits
  | watchdog => trivial

theorem world_quiet (old : WorldFits w) (quiet : Quiet w w')
    (queued : ∀ frame ∈ w'.outgoingQueue, frame ∈ w.outgoingQueue ∨ frame.seen = w.connectionGeneration)
    (state : w'.state = .connected → w.state = .connected ∨ (w.streams = some w.connectionGeneration ∧
      w.connectionGeneration ∈ w.answered ∧ w.stopped = false))
    (written : ∀ entry ∈ w'.written, entry ∈ w.written ∨ entry.2 ≤ entry.1.seen)
    (starting : ∀ role ∈ w'.starting, role ∈ w.starting) : WorldFits w' := by
  have same : queues w' = queues w := by rw [queues,quiet.responses,quiet.streaming]; rfl
  refine ⟨?_,?_,?_,?_,?_,?_,?_⟩
  · intro frame inside
    rw [quiet.generation]
    exact (queued frame inside).elim (old.queued frame) id
  · intro generation opened
    rw [quiet.generation]
    exact old.streams generation (quiet.streams ▸ opened)
  · intro connected
    rw [quiet.generation,quiet.streams]
    have facts := (state connected).elim old.connected id
    refine ⟨facts.1,quiet.answered facts.2.1,?_⟩
    rcases quiet.stopped with still | started
    · rw [still]
      exact facts.2.2
    · exact started
  · intro entry inside
    exact (written entry inside).elim (old.written entry) id
  · intro queue inside
    rw [quiet.next]
    exact old.issued queue (same ▸ inside)
  · rw [same]
    exact old.distinct
  · intro role inside
    have made : Change.quiet.Made w w' := quiet
    exact role_change made (old.starting role (starting role inside))

theorem world_still (taken : some (w,t) = some (w',t')) (old : WorldFits w) : WorldFits w' := by
  cases taken
  exact old

theorem world_same (old : WorldFits w) (same : registrations w' = registrations w)
    (queued : w'.outgoingQueue = w.outgoingQueue ∧ w'.written = w.written) (left : w'.state = w.state ∧ w'.starting = w.starting) :
    WorldFits w' := by
  refine world_quiet old (quiet_same same) ?_ ?_ ?_ ?_
  · rw [queued.1]
    exact fun _ => .inl
  · rw [left.1]
    exact .inl
  · rw [queued.2]
    exact fun _ => .inl
  · rw [left.2]
    exact fun _ => id

theorem world_maps (old : WorldFits w) (steady : change.Made w w') (generation : w'.connectionGeneration = w.connectionGeneration)
    (same : w'.outgoingQueue = w.outgoingQueue ∧ w'.state = w.state ∧ w'.streams = w.streams ∧ w'.stopped = w.stopped ∧
      w'.answered = w.answered ∧ w'.written = w.written ∧ w'.starting = w.starting)
    (issued : ∀ queue ∈ queues w', queue < w'.nextQueue) (distinct : (queues w').Nodup) : WorldFits w' := by
  obtain ⟨queued,state,streams,stopped,answered,written,starting⟩ := same
  refine ⟨?_,?_,?_,?_,issued,distinct,?_⟩
  · rw [queued,generation]
    exact old.queued
  · rw [streams,generation]
    exact old.streams
  · rw [state,streams,generation,answered,stopped]
    exact old.connected
  · rw [written]
    exact old.written
  · intro role inside
    exact role_change steady (old.starting role (starting ▸ inside))

theorem world_registering (old : WorldFits w) (requestId : String) (kind : CallKind) :
    WorldFits (registering w requestId kind) := by
  have made : (Change.registered kind requestId).Made w (registering w requestId kind) := Eq.refl _
  obtain ⟨rest,sub,perm⟩ := queues_registering w requestId kind
  refine world_maps old made (by simp) (by cases kind <;> exact ⟨rfl,rfl,rfl,rfl,rfl,rfl,rfl⟩) ?_ ?_
  · intro queue inside
    rw [registering_next]
    rcases List.mem_cons.mp (perm.mem_iff.mp inside) with fresh | before
    · omega
    · have := old.issued queue (sub.subset before)
      omega
  · rw [perm.nodup_iff,List.nodup_cons]
    refine ⟨fun inside => ?_,old.distinct.sublist sub⟩
    have := old.issued _ (sub.subset inside)
    omega

theorem world_removed (old : WorldFits w) : WorldFits (removePending w kind requestId) := by
  have made : (Change.removed kind requestId).Made w (removePending w kind requestId) := Eq.refl _
  refine world_maps old made (by simp) (by cases kind <;> exact ⟨rfl,rfl,rfl,rfl,rfl,rfl,rfl⟩) ?_ ?_
  · intro queue inside
    rw [removed_next]
    exact old.issued queue (queues_removed.subset inside)
  · exact old.distinct.sublist queues_removed

theorem world_closed (old : WorldFits w) : WorldFits w.closeConnection := by
  have made : Change.closed.Made w w.closeConnection := closed_close w
  refine ⟨by simp [AoaClient.closeConnection],by simp [AoaClient.closeConnection],?_,old.written,
    by simp [queues,AoaClient.closeConnection],by simp [queues,AoaClient.closeConnection],?_⟩
  · intro connected
    simp only [AoaClient.closeConnection] at connected
    split at connected
    · rename_i stopped
      have running := (old.connected connected).2.2
      simp [running] at stopped
    · cases connected
  · intro role inside
    exact role_change made (old.starting role inside)

theorem world_enqueue (old : WorldFits w) (frame : QueuedFrame) (current : frame.seen = w.connectionGeneration) :
    WorldFits (w.enqueue frame) := by
  refine world_quiet old (quiet_same rfl) ?_ .inl (fun _ => .inl) fun _ => id
  intro other inside
  rcases List.mem_append.mp inside with before | last
  · exact .inl before
  · exact .inr (List.mem_singleton.mp last ▸ current)

theorem call_world (old : WorldFits w) (allowed : undisturbed.own w t x) (taken : callStep w t x = some (w',t')) :
    WorldFits w' := by
  unfold callStep at taken
  split at taken
  · split at taken
    · cases taken
      exact world_enqueue old _ (of_decide_eq_true allowed)
    · cases taken
  · exact world_still taken old
  · split at taken
    · cases taken
      exact world_enqueue old _ (of_decide_eq_true allowed)
    · cases taken
  · exact world_still taken old
  · exact world_still taken old
  · rename_i queue seen
    split at taken
    · cases taken
      have made : (Change.taken queue).Made w (w.take queue) := Eq.refl _
      exact world_maps old made rfl ⟨rfl,rfl,rfl,rfl,rfl,rfl,rfl⟩ old.issued old.distinct
    · cases taken
  · split at taken
    · exact world_still taken old
    · cases taken
  · cases taken
    exact world_removed old
  · cases taken

theorem reader_world (old : WorldFits w) (fits : ThreadFits w t) (allowed : undisturbed.own w t x)
    (taken : readerStep w t x = some (w',t')) : WorldFits w' := by
  unfold readerStep at taken
  split at taken
  · split at taken <;> exact world_still taken old
  · exact world_still taken old
  · exact world_still taken old
  · exact world_still taken old
  · exact world_still taken old
  · split at taken <;> exact world_still taken old
  · split at taken <;> exact world_still taken old
  · split at taken
    · exact world_still taken old
    · split at taken <;> exact world_still taken old
  · cases taken
    exact world_quiet old (quiet_same rfl) (fun _ => .inl) (fun connected => by cases connected)
      (fun _ => .inl) fun _ => id
  · rename_i generation frameRequestId response rest
    split at taken
    · exact world_still taken old
    · rename_i current
      split at taken
      · cases taken
        have same := uninterrupted current
        have queued := world_enqueue old ⟨frameRequestId,.text response,generation⟩ same
        exact world_quiet queued ⟨rfl,rfl,.inl rfl,rfl,rfl,rfl,rfl,List.subset_cons_self _ _⟩ (fun _ => .inl) .inl
          (fun _ => .inl) fun _ => id
      · cases taken
  · rename_i generation rest
    cases taken
    have same : generation = w.connectionGeneration := of_decide_eq_true allowed
    subst same
    exact world_quiet old (quiet_same rfl) (fun _ => .inl)
      (fun _ => .inr ⟨fits.1.1.2 rfl,fits.2,fits.1.2 rfl⟩) (fun _ => .inl) fun _ => id
  · rename_i generation queue payload rest
    cases taken
    have made : (Change.offered queue (.success payload)).Made w (w.offer queue (.success payload)) := Eq.refl _
    exact world_maps old made rfl ⟨rfl,rfl,rfl,rfl,rfl,rfl,rfl⟩ old.issued old.distinct
  · cases taken

theorem writer_world (old : WorldFits w) (fits : ThreadFits w t) (taken : writerStep w t x = some (w',t')) :
    WorldFits w' := by
  unfold writerStep at taken
  split at taken
  · split at taken <;> exact world_still taken old
  · split at taken
    · exact world_still taken old
    · split at taken
      · rename_i frame rest queue
        cases taken
        refine world_quiet old (quiet_same rfl) (fun other inside => .inl ?_) .inl
          (fun _ => .inl) fun _ => id
        rw [queue]
        exact List.mem_cons_of_mem _ inside
      · cases taken
  · split at taken
    · cases taken
      refine world_quiet old (quiet_same rfl) (fun _ => .inl) .inl ?_ fun _ => id
      intro entry inside
      rcases List.mem_cons.mp inside with rfl | before
      · exact .inr fits.2
      · exact .inl before
    · exact world_still taken old
  · exact world_still taken old
  · cases taken

theorem resync_world (old : WorldFits w) (taken : resyncStep w t x = some (w',t')) : WorldFits w' := by
  unfold resyncStep at taken
  split at taken
  · split at taken <;> exact world_still taken old
  · split at taken
    · exact world_still taken old
    · cases taken
      exact world_same old rfl ⟨rfl,rfl⟩ ⟨rfl,rfl⟩
  · split at taken <;> exact world_still taken old
  · cases taken
    exact world_same old rfl ⟨rfl,rfl⟩ ⟨rfl,rfl⟩
  · cases taken
    exact world_closed old
  · split at taken
    · exact world_still taken old
    · cases taken
      exact world_same old rfl ⟨rfl,rfl⟩ ⟨rfl,rfl⟩
  · cases taken

theorem enter_world (old : WorldFits w) (taken : enter w x = some (w',t')) : WorldFits w' := by
  unfold enter at taken
  split at taken
  · split at taken
    · cases taken
      exact world_quiet old (quiet_same rfl) (fun _ => .inl) .inl (fun _ => .inl)
        fun _ inside => List.mem_of_mem_erase inside
    · cases taken
  · rename_i requestId envelope
    by_cases connected : w.state = .connected
    · rw [enterSendRequest_connected connected] at taken
      cases taken
      exact world_registering old requestId .request
    · rw [enterSendRequest_apart connected] at taken
      exact world_still taken old
  · rename_i requestId envelope
    by_cases connected : w.state = .connected
    · rw [enterBeginStreaming_connected connected] at taken
      cases taken
      exact world_registering old requestId .streaming
    · rw [enterBeginStreaming_apart connected] at taken
      exact world_still taken old
  · split at taken <;> exact world_still taken old
  · split at taken <;> exact world_still taken old
  · cases taken

theorem world_step (old : WorldFits w) (fits : ThreadFits w t) (allowed : undisturbed.own w t x)
    (taken : activityStep w t x = some (w',t')) : WorldFits w' := by
  cases t with
  | idle => exact enter_world old taken
  | sending _ _ _ | requesting _ _ _ _ _ | waiting _ _ _ _ | removing _ _ _ _ => exact call_world old allowed taken
  | reading _ | receiving _ | handling _ _ | challenged _ _ _ _ | rejecting _ _ | answering _ _ _ _ | answered _ _
  | offering _ _ _ _ => exact reader_world old fits allowed taken
  | writing _ | taking _ | holding _ _ => exact writer_world old fits taken
  | leaving _ | raising _ | checking _ | lowering _ | closing _ | submitting _ => exact resync_world old taken
  | watching =>
      simp only [activityStep] at taken
      unfold watchdogStep at taken
      split at taken
      · split at taken <;> exact world_still taken old
      · split at taken
        · exact world_still taken old
        · cases taken
      · cases taken
  | ended _ | crashed _ => cases taken

theorem enter_thread (old : WorldFits w) (taken : enter w x = some (w',t')) : ThreadFits w' t' := by
  unfold enter at taken
  split at taken
  · rename_i role
    split at taken
    · rename_i starting
      cases taken
      cases role <;> exact old.starting _ starting
    · cases taken
  · rename_i requestId envelope
    by_cases connected : w.state = .connected
    · rw [enterSendRequest_connected connected] at taken
      cases taken
      refine ⟨⟨Nat.lt_succ_self _,le_rfl,fun _ => ?_,fun before => absurd rfl before⟩,fun before => absurd rfl before⟩
      simp [registry]
    · rw [enterSendRequest_apart connected] at taken
      cases taken
      trivial
  · rename_i requestId envelope
    by_cases connected : w.state = .connected
    · rw [enterBeginStreaming_connected connected] at taken
      cases taken
      trivial
    · rw [enterBeginStreaming_apart connected] at taken
      cases taken
      trivial
  · split at taken <;> cases taken <;> trivial
  · split at taken
    · rename_i queue found
      cases taken
      obtain ⟨_,registered⟩ := enterFinishStreaming_found found
      have found : (registry w .streaming).get _ = some queue := registered
      exact ⟨⟨old.issued queue (get_queue found),le_rfl,fun _ => found,fun before => absurd rfl before⟩,
        fun before => absurd rfl before⟩
    · cases taken
      trivial
  · cases taken

theorem call_thread (fits : ThreadFits w t) (taken : callStep w t x = some (w',t')) : ThreadFits w' t' := by
  unfold callStep at taken
  split at taken
  · split at taken
    · cases taken
      trivial
    · cases taken
  · cases taken
    trivial
  · split at taken
    · cases taken
      exact ⟨⟨fits.1.issued,fits.1.past,fits.1.current,fits.1.earlier⟩,fits.2⟩
    · cases taken
  · cases taken
    exact fits.1
  · cases taken
    trivial
  · split at taken
    · cases taken
      exact ⟨fits.1.issued,fits.1.past,fits.1.current,fits.1.earlier⟩
    · cases taken
  · split at taken
    · cases taken
      exact fits.1
    · cases taken
  · cases taken
    trivial
  · cases taken

theorem reader_thread (fits : ThreadFits w t) (taken : readerStep w t x = some (w',t')) : ThreadFits w' t' := by
  unfold readerStep at taken
  split at taken
  · split at taken
    · cases taken
      trivial
    · rename_i going
      cases taken
      simp only [Bool.or_eq_true,not_or] at going
      exact ⟨fits,fun _ => by simpa using going.1⟩
  · cases taken
    exact fits
  · cases taken
    trivial
  · cases taken
    exact fits.1
  · cases taken
    exact fits
  · split at taken <;> cases taken <;> exact fits
  · split at taken <;> cases taken <;> exact fits
  · split at taken
    · cases taken
      exact fits
    · split at taken <;> cases taken <;> exact fits
  · cases taken
    exact fits
  · split at taken
    · cases taken
      trivial
    · split at taken
      · cases taken
        exact ⟨fits,List.mem_cons_self⟩
      · cases taken
  · cases taken
    exact fits.1
  · cases taken
    exact fits
  · cases taken

theorem writer_thread (old : WorldFits w) (fits : ThreadFits w t) (taken : writerStep w t x = some (w',t')) :
    ThreadFits w' t' := by
  unfold writerStep at taken
  split at taken
  · split at taken <;> cases taken
    · trivial
    · exact fits
  · split at taken
    · cases taken
      trivial
    · rename_i going
      split at taken
      · rename_i frame rest queue
        cases taken
        have seen := old.queued frame (by simp [queue])
        exact ⟨fits,by rw [uninterrupted going,seen]⟩
      · cases taken
  · split at taken <;> cases taken
    · exact fits.1
    · trivial
  · cases taken
    trivial
  · cases taken

theorem resync_thread (fits : ThreadFits w t) (taken : resyncStep w t x = some (w',t')) : ThreadFits w' t' := by
  unfold resyncStep at taken
  split at taken
  · split at taken <;> cases taken <;> trivial
  · rename_i caller
    split at taken <;> cases taken <;> cases caller <;> exact fits
  · rename_i caller
    split at taken <;> cases taken <;> cases caller <;> exact fits
  · rename_i caller
    cases taken
    cases caller <;> exact fits
  · rename_i caller
    cases taken
    have made : Change.closed.Made w w.closeConnection := closed_close w
    cases caller with
    | handler generation rest => exact checked_change made fits
    | stream role => trivial
    | watchdog => trivial
  · rename_i caller
    split at taken <;> cases taken <;> cases caller <;> first | exact fits | trivial
  · cases taken

theorem thread_step (old : WorldFits w) (fits : ThreadFits w t) (taken : activityStep w t x = some (w',t')) :
    ThreadFits w' t' := by
  cases t with
  | idle => exact enter_thread old taken
  | sending _ _ _ | requesting _ _ _ _ _ | waiting _ _ _ _ | removing _ _ _ _ => exact call_thread fits taken
  | reading _ | receiving _ | handling _ _ | challenged _ _ _ _ | rejecting _ _ | answering _ _ _ _ | answered _ _
  | offering _ _ _ _ => exact reader_thread fits taken
  | writing _ | taking _ | holding _ _ => exact writer_thread old fits taken
  | leaving _ | raising _ | checking _ | lowering _ | closing _ | submitting _ => exact resync_thread fits taken
  | watching =>
      simp only [activityStep] at taken
      unfold watchdogStep at taken
      split at taken
      · split at taken <;> cases taken <;> trivial
      · split at taken <;> cases taken
        trivial
      · cases taken
  | ended _ | crashed _ => cases taken

theorem held_call (taken : callStep w t x = some (w',t')) (call : held t' = some (kind,requestId,queue,seen)) :
    held t = some (kind,requestId,queue,seen) := by
  unfold callStep at taken
  split at taken
  · split at taken <;> cases taken
    cases call
  · cases taken
    cases call
  · split at taken <;> cases taken
    exact call
  · cases taken
    exact call
  · cases taken
    cases call
  · split at taken <;> cases taken
    exact call
  · split at taken <;> cases taken
    exact call
  · cases taken
    cases call
  · cases taken

@[simp] theorem held_beginning (role : Role) : held (beginning role) = none := by cases role <;> rfl
@[simp] theorem held_returns (caller : ResyncCaller) (how : Ending) : held (caller.returns how) = none := by
  cases caller <;> rfl
@[simp] theorem held_throws (caller : ResyncCaller) : held caller.throws = none := by cases caller <;> rfl

-- A call begins on a fresh queue, or on the one its map has for the id.
theorem held_enter (taken : enter w x = some (w',t')) (call : held t' = some (kind,requestId,queue,seen)) :
    entering x = some (kind,requestId) ∧ (queue = w.nextQueue ∨ (registry w kind).get requestId = some queue) := by
  unfold enter at taken
  split at taken
  · split at taken <;> cases taken
    simp at call
  · rename_i id envelope
    by_cases connected : w.state = .connected
    · rw [enterSendRequest_connected connected] at taken
      cases taken
      cases call
      exact ⟨rfl,.inl rfl⟩
    · rw [enterSendRequest_apart connected] at taken
      cases taken
      cases call
  · rename_i id envelope
    by_cases connected : w.state = .connected
    · rw [enterBeginStreaming_connected connected] at taken
      cases taken
      cases call
    · rw [enterBeginStreaming_apart connected] at taken
      cases taken
      cases call
  · split at taken <;> cases taken <;> cases call
  · split at taken
    · rename_i found
      cases taken
      cases call
      exact ⟨rfl,.inr (enterFinishStreaming_found found).2⟩
    · cases taken
      cases call
  · cases taken

theorem held_reader (taken : readerStep w t x = some (w',t')) : held t' = none := by
  unfold readerStep at taken
  split at taken
  · split at taken <;> cases taken <;> rfl
  · cases taken
    rfl
  · cases taken
    rfl
  · cases taken
    rfl
  · cases taken
    rfl
  · split at taken <;> cases taken <;> rfl
  · split at taken <;> cases taken <;> rfl
  · split at taken
    · cases taken
      rfl
    · split at taken <;> cases taken <;> rfl
  · cases taken
    rfl
  · split at taken
    · cases taken
      rfl
    · split at taken <;> cases taken
      rfl
  · cases taken
    rfl
  · cases taken
    rfl
  · cases taken

theorem held_writer (taken : writerStep w t x = some (w',t')) : held t' = none := by
  unfold writerStep at taken
  split at taken
  · split at taken <;> cases taken <;> rfl
  · split at taken
    · cases taken
      rfl
    · split at taken <;> cases taken
      rfl
  · split at taken <;> cases taken <;> rfl
  · cases taken
    rfl
  · cases taken

theorem held_resync (taken : resyncStep w t x = some (w',t')) : held t' = none := by
  unfold resyncStep at taken
  split at taken
  · split at taken <;> cases taken <;> rfl
  · split at taken <;> cases taken
    · exact held_returns _ _
    · rfl
  · split at taken <;> cases taken <;> rfl
  · cases taken
    exact held_returns _ _
  · cases taken
    rfl
  · split at taken <;> cases taken
    · exact held_throws _
    · exact held_returns _ _
  · cases taken

theorem held_watchdog (taken : watchdogStep w t x = some (w',t')) : held t' = none := by
  unfold watchdogStep at taken
  split at taken
  · split at taken <;> cases taken <;> rfl
  · split at taken <;> cases taken
    rfl
  · cases taken

theorem held_step (taken : activityStep w t x = some (w',t')) (call : held t' = some (kind,requestId,queue,seen)) :
    held t = some (kind,requestId,queue,seen) ∨ (t = .idle ∧ entering x = some (kind,requestId) ∧
      (queue = w.nextQueue ∨ (registry w kind).get requestId = some queue)) := by
  have free : held t' ≠ none := by simp [call]
  cases t with
  | idle => exact .inr ⟨rfl,held_enter taken call⟩
  | sending _ _ _ | requesting _ _ _ _ _ | waiting _ _ _ _ | removing _ _ _ _ => exact .inl (held_call taken call)
  | reading _ | receiving _ | handling _ _ | challenged _ _ _ _ | rejecting _ _ | answering _ _ _ _ | answered _ _
  | offering _ _ _ _ => exact absurd (held_reader taken) free
  | writing _ | taking _ | holding _ _ => exact absurd (held_writer taken) free
  | leaving _ | raising _ | checking _ | lowering _ | closing _ | submitting _ => exact absurd (held_resync taken) free
  | watching => exact absurd (held_watchdog taken) free
  | ended _ | crashed _ => cases taken

theorem held_fits (fits : ThreadFits w u) (call : held u = some (kind,requestId,queue,seen)) :
    Held w kind requestId queue seen := by
  cases u with
  | requesting | waiting => cases call; exact fits.1
  | removing => cases call; exact fits
  | _ => cases call

theorem apart_symm (apart : Apart t u) : Apart u t := by
  intro kind id queue seen kind' id' queue' seen' one two
  obtain ⟨queues,ids⟩ := apart kind' id' queue' seen' kind id queue seen two one
  exact ⟨queues.symm,fun same => (ids same.symm).symm⟩

theorem queue_once {kind' : CallKind} {requestId' : String} (fits : WorldFits w)
    (one : (registry w kind).get requestId = some queue) (two : (registry w kind').get requestId' = some queue) :
    kind = kind' ∧ requestId = requestId' := by
  have nodup := fits.distinct
  rw [queues,List.map_append,List.nodup_append] at nodup
  obtain ⟨responses,streaming,disjoint⟩ := nodup
  have first := get_mem one
  have second := get_mem two
  have inside : ∀ {pending : Registry} {id}, (id,queue) ∈ pending → queue ∈ pending.map Prod.snd := fun found =>
    List.mem_map_of_mem found
  cases kind <;> cases kind'
  · exact ⟨rfl,congrArg Prod.fst (List.inj_on_of_nodup_map responses first second rfl)⟩
  · exact absurd rfl (disjoint queue (inside first) queue (inside second))
  · exact absurd rfl (disjoint queue (inside second) queue (inside first))
  · exact ⟨rfl,congrArg Prod.fst (List.inj_on_of_nodup_map streaming first second rfl)⟩

theorem apart_step (old : WorldFits w) (fits : ThreadFits w u) (apart : Apart t u)
    (free : undisturbed.beside w t x u) (taken : activityStep w t x = some (w',t')) : Apart t' u := by
  intro kind id queue seen kind' id' queue' seen' mine other
  rcases held_step taken mine with same | ⟨rfl,enters,fresh | registered⟩
  · exact apart kind id queue seen kind' id' queue' seen' same other
  all_goals
    have ids : kind = kind' → id ≠ id' := by
      rintro rfl
      exact (ids_differ free enters other).symm
    have call := held_fits fits other
    refine ⟨?_,ids⟩
  · have issued := call.issued
    omega
  · rintro rfl
    by_cases now : seen' = w.connectionGeneration
    · obtain ⟨sameKind,sameId⟩ := queue_once old registered (call.current now)
      exact ids sameKind sameId
    · exact call.earlier now (get_queue registered)

theorem clear_step (apart : Apart t u) (free : undisturbed.beside w t x u) : (changeOf w t x).Clear (held u) := by
  unfold changeOf
  split
  · rename_i requestId envelope
    split
    · intro id queue seen call
      exact ids_differ free rfl call
    · trivial
  · rename_i requestId envelope
    split
    · intro id queue seen call
      exact ids_differ free rfl call
    · trivial
  · rename_i kind requestId queue seen
    intro kind' id queue' seen' call
    exact (apart kind requestId queue seen kind' id queue' seen' rfl call).1.symm
  · rename_i kind requestId queue seen
    intro id queue' seen' call
    exact ((apart kind requestId queue seen kind id queue' seen' rfl call).2 rfl).symm
  · trivial
  · trivial
  · trivial

end Steps

section Events
variable {event : Event}

theorem closed_open (w : AoaClient) (outcome : OpenOutcome) : Closed w (w.openAccessory outcome) := by
  cases outcome with
  | denied | missing => exact ⟨Nat.lt_succ_self _,rfl,rfl,rfl,rfl,List.Subset.refl _⟩
  | opened =>
      refine ⟨?_,rfl,rfl,rfl,rfl,List.Subset.refl _⟩
      change w.connectionGeneration < w.connectionGeneration + 1 + 1
      omega

theorem quiet_transition (w : AoaClient) (newState : AoaTransportState) : Quiet w (w.transitionTo newState) :=
  quiet_same rfl

theorem world_transition (old : WorldFits w) {newState : AoaTransportState} (apart : newState ≠ .connected) :
    WorldFits (w.transitionTo newState) :=
  world_quiet old (quiet_transition w newState) (fun _ => .inl) (fun connected => absurd connected apart) (fun _ => .inl)
    fun _ => id

theorem world_ended (old : WorldFits w) (closed : Closed w w') (queued : w'.outgoingQueue = [])
    (streams : ∀ generation, w'.streams = some generation → generation = w'.connectionGeneration)
    (state : w'.state ≠ .connected) (written : w'.written = w.written)
    (starting : ∀ role ∈ w'.starting, role ∈ w.starting ∨ RoleFits w' role) : WorldFits w' := by
  have made : Change.closed.Made w w' := closed
  refine ⟨by simp [queued],streams,fun connected => absurd connected state,written ▸ old.written,
    by simp [closed_queues closed],by simp [closed_queues closed],?_⟩
  intro role inside
  exact (starting role inside).elim (fun before => role_change made (old.starting role before)) id

theorem world_opened (old : WorldFits w) (outcome : OpenOutcome) : WorldFits (w.openAccessory outcome) := by
  have closed := world_closed old
  cases outcome with
  | denied => exact world_transition closed (by decide)
  | missing => exact closed
  | opened =>
      refine world_ended old (closed_open w .opened) rfl (fun generation opened => ?_) (fun connected => by cases connected) rfl
        (fun role inside => ?_)
      · cases opened
        rfl
      · rcases List.mem_append.mp inside with before | fresh
        · exact .inl before
        · rcases List.mem_pair.mp fresh with rfl | rfl
          · exact .inr ⟨le_rfl,fun _ => rfl⟩
          · exact .inr ⟨le_rfl,fun _ => rfl⟩

theorem world_probed (old : WorldFits w) (found : Option OpenOutcome) : WorldFits (w.probeAttachedAccessories found) := by
  cases found with
  | none => exact old
  | some outcome => exact world_opened old outcome

theorem world_started (old : WorldFits w) : WorldFits w.startInternal := by
  unfold AoaClient.startInternal
  split
  · rename_i stopped
    have made : Change.quiet.Made w {w with stopped:=false,starting:=w.starting ++ [.watchdog]} :=
      ⟨rfl,rfl,.inr rfl,rfl,rfl,rfl,rfl,List.Subset.refl _⟩
    refine ⟨old.queued,old.streams,fun connected => ?_,old.written,old.issued,old.distinct,fun role inside => ?_⟩
    · have facts := old.connected connected
      exact ⟨facts.1,facts.2.1,rfl⟩
    · rcases List.mem_append.mp inside with before | fresh
      · exact role_change made (old.starting role before)
      · cases List.mem_singleton.mp fresh
        trivial
  · exact old

theorem quiet_started (w : AoaClient) : Quiet w w.startInternal := by
  unfold AoaClient.startInternal
  split
  · exact ⟨rfl,rfl,.inr rfl,rfl,rfl,rfl,rfl,List.Subset.refl _⟩
  · exact quiet_refl w

theorem prepared_parts {bootstrap : Bootstrap} {found : Option OpenOutcome}
    (prepared : (w.prepareBootstrap bootstrap found).toOption = some w') : w' = {w with bootstrap:=some bootstrap} ∨
      w' = ((({w with bootstrap:=some bootstrap} : AoaClient).transitionTo .preparing).startInternal).probeAttachedAccessories found := by
  unfold AoaClient.prepareBootstrap at prepared
  split at prepared
  · cases prepared
  · dsimp only at prepared
    split at prepared <;> cases prepared
    · exact .inl rfl
    · exact .inr rfl

theorem reset_running (running : w.stopped = false) : w.reset =
    ({({w with stopped:=true} : AoaClient).shutdownNow.closeConnection with bootstrap:=none} : AoaClient).transitionTo .idle := by
  simp [AoaClient.reset,AoaClient.stopInternal,running]

theorem reset_stopped (stopped : w.stopped = true) : w.reset = ({w with bootstrap:=none} : AoaClient).transitionTo .idle := by
  simp [AoaClient.reset,AoaClient.stopInternal,stopped]

theorem closed_reset (running : w.stopped = false) : Closed w w.reset := by
  rw [reset_running running]
  exact ⟨Nat.lt_succ_self _,rfl,rfl,rfl,rfl,List.Subset.refl _⟩

theorem quiet_reset (stopped : w.stopped = true) : Quiet w w.reset := by
  rw [reset_stopped stopped]
  exact quiet_same rfl

theorem world_reset (old : WorldFits w) : WorldFits w.reset := by
  cases running : w.stopped with
  | false =>
      have closed := closed_reset running
      rw [reset_running running] at closed ⊢
      exact world_ended old closed rfl (fun generation opened => by cases opened) (fun connected => by cases connected) rfl
        fun _ => .inl
  | true =>
      have quiet := quiet_reset running
      rw [reset_stopped running] at quiet ⊢
      exact world_quiet old quiet (fun _ => .inl) (fun connected => by cases connected) (fun _ => .inl) fun _ => id

theorem quiet_trans {middle : AoaClient} (one : Quiet w middle) (two : Quiet middle w') : Quiet w w' := by
  refine ⟨two.generation.trans one.generation,two.streams.trans one.streams,?_,two.responses.trans one.responses,
    two.streaming.trans one.streaming,two.mailboxes.trans one.mailboxes,two.next.trans one.next,
    List.Subset.trans one.answered two.answered⟩
  rcases two.stopped with still | started
  · rw [still]
    exact one.stopped
  · exact .inr started

theorem quiet_closed {middle : AoaClient} (quiet : Quiet w middle) (closed : Closed middle w') : Closed w w' := by
  refine ⟨quiet.generation ▸ closed.generation,?_,closed.responses,closed.streaming,closed.next.trans quiet.next,
    List.Subset.trans quiet.answered closed.answered⟩
  rw [closed.mailboxes]
  unfold AoaClient.wakeAll
  rw [quiet.responses,quiet.streaming,quiet.mailboxes]

theorem closed_quiet {middle : AoaClient} (closed : Closed w middle) (quiet : Quiet middle w') : Closed w w' :=
  ⟨quiet.generation ▸ closed.generation,quiet.mailboxes.trans closed.mailboxes,quiet.responses.trans closed.responses,
    quiet.streaming.trans closed.streaming,quiet.next.trans closed.next,List.Subset.trans closed.answered quiet.answered⟩

theorem probe_change (w : AoaClient) (found : Option OpenOutcome) : Quiet w (w.probeAttachedAccessories found) ∨
    Closed w (w.probeAttachedAccessories found) := by
  cases found with
  | none => exact .inl (quiet_refl w)
  | some outcome => exact .inr (closed_open w outcome)

-- An event closes the connection or leaves calls and connections alone.
theorem event_change (taken : eventStep w event = some w') : Quiet w w' ∨ Closed w w' := by
  cases event with
  | prepareBootstrap bootstrap found =>
      have recorded : Quiet w {w with bootstrap:=some bootstrap} :=
        quiet_same rfl
      rcases prepared_parts taken with rfl | rfl
      · exact .inl recorded
      · have started := quiet_trans recorded (quiet_trans (quiet_transition _ .preparing) (quiet_started _))
        exact (probe_change _ found).imp (quiet_trans started) (quiet_closed started)
  | reset =>
      cases taken
      cases running : w.stopped with
      | false => exact .inr (closed_reset running)
      | true => exact .inl (quiet_reset running)
  | openAccessory outcome => cases taken; exact .inr (closed_open w outcome)
  | detached => cases taken; exact .inr (closed_close w)
  | taskStarts | taskWakes | taskEnds =>
      simp only [eventStep] at taken
      split at taken <;> cases taken
      exact .inl (quiet_same rfl)
  | taskProbes found =>
      simp only [eventStep] at taken
      split at taken <;> cases taken
      have ended : Quiet (w.probeAttachedAccessories found)
          {w.probeAttachedAccessories found with runningTask:=some .finishing} :=
        quiet_same rfl
      exact (probe_change w found).imp (quiet_trans · ended) (closed_quiet · ended)

theorem event_world (old : WorldFits w) (taken : eventStep w event = some w') : WorldFits w' := by
  cases event with
  | prepareBootstrap bootstrap found =>
      have recorded : WorldFits {w with bootstrap:=some bootstrap} :=
        world_same old rfl ⟨rfl,rfl⟩ ⟨rfl,rfl⟩
      rcases prepared_parts taken with rfl | rfl
      · exact recorded
      · exact world_probed (world_started (world_transition recorded (by decide))) found
  | reset => cases taken; exact world_reset old
  | openAccessory outcome => cases taken; exact world_opened old outcome
  | detached => cases taken; exact world_closed old
  | taskStarts | taskWakes | taskEnds =>
      simp only [eventStep] at taken
      split at taken <;> cases taken
      exact world_same old rfl ⟨rfl,rfl⟩ ⟨rfl,rfl⟩
  | taskProbes found =>
      simp only [eventStep] at taken
      split at taken <;> cases taken
      exact world_quiet (world_probed old found) (quiet_same rfl) (fun _ => .inl) .inl
        (fun _ => .inl) fun _ => id

theorem event_thread (fits : ThreadFits w u) (taken : eventStep w event = some w') : ThreadFits w' u := by
  rcases event_change taken with quiet | closed
  · have made : Change.quiet.Made w w' := quiet
    exact thread_change made trivial fits
  · have made : Change.closed.Made w w' := closed
    exact thread_change made trivial fits

end Events

theorem generations_stable : Stable generations activityStep eventStep undisturbed where
  own := fun old fits allowed taken => ⟨world_step old fits allowed taken,thread_step old fits taken⟩
  other := fun old _ fits apart _ _ free taken => by
    have between := apart_step old fits apart free taken
    exact ⟨thread_change (step_change taken) (clear_step apart free) fits,between,apart_symm between⟩
  eventWorld := fun old taken => event_world old taken
  eventThread := fun _ fits _ taken => event_thread fits taken

theorem initial_generations (Index : Type*) : generations.Hold (initial Index) := by
  refine ⟨⟨?_,?_,?_,?_,?_,?_,?_⟩,fun _ => trivial,?_⟩
  · simp [initial,AoaClient.new]
  · simp [initial,AoaClient.new]
  · simp [initial,AoaClient.new]
  · simp [initial,AoaClient.new]
  · simp [initial,AoaClient.new,queues]
  · simp [initial,AoaClient.new,queues]
  · simp [initial,AoaClient.new]
  · intro i j _ kind requestId queue seen _ _ _ _ call
    cases call

-- Whoever waits when its connection closes is offered the error, and takes it when no
-- response has come before.
theorem woken_lost (made : change.Made w w') (call : Held w kind requestId queue w.connectionGeneration)
    (unanswered : w.mailboxes queue = none) (moved : w'.connectionGeneration ≠ w.connectionGeneration) :
    w'.mailboxes queue = some (.error .connectionLost) := by
  rcases change_steady made with steady | closed
  · exact absurd steady.generation moved
  · have inside := get_queue (call.current rfl)
    simp only [queues] at inside
    rw [closed.mailboxes,AoaClient.wakeAll,if_pos inside,unanswered]
    rfl

section Runs
variable {Index : Type*} [DecidableEq Index] {s next : Phone Index} {move : Move Index Input Event}

theorem move_change (taken : (system Index).step s move = some next) : ∃ change : Change, change.Made s.world next.world := by
  cases move with
  | thread i input =>
      obtain ⟨world',thread',moved,rfl⟩ := thread_parts taken
      exact ⟨_,step_change moved⟩
  | environment event =>
      obtain ⟨world',moved,rfl⟩ := environment_parts taken
      rcases event_change moved with quiet | closed
      · exact ⟨.quiet,quiet⟩
      · exact ⟨.closed,closed⟩

structure GenerationsApart (s : Phone Index) : Prop where
  written : ∀ entry ∈ s.world.written, entry.2 ≤ entry.1.seen
  connected : s.world.state = .connected → s.world.streams = some s.world.connectionGeneration ∧
    s.world.connectionGeneration ∈ s.world.answered
  woken : ∀ i kind requestId queue seen, s.threads i = .waiting kind requestId queue seen →
    seen ≠ s.world.connectionGeneration → (s.world.mailboxes queue).isSome
  lost : ∀ i kind requestId queue move next, s.threads i = .waiting kind requestId queue s.world.connectionGeneration →
    s.world.mailboxes queue = none → (system Index).step s move = some next →
    next.world.connectionGeneration ≠ s.world.connectionGeneration →
    next.world.mailboxes queue = some (.error .connectionLost)

theorem undisturbed_generations (path : Reaches (system Index) undisturbed.Admits (initial Index) s) : GenerationsApart s := by
  have hold := hold_reaches generations_stable (initial_generations Index) path
  have fits : ∀ i, ThreadFits s.world (s.threads i) := hold.thread
  refine ⟨hold.world.written,fun connected => ?_,?_,?_⟩
  · have facts := hold.world.connected connected
    exact ⟨facts.1,facts.2.1⟩
  · intro i kind requestId queue seen waits before
    have call := fits i
    rw [waits] at call
    exact call.2 before
  · intro i kind requestId queue move next waits unanswered taken moved
    have call := fits i
    rw [waits] at call
    obtain ⟨change,made⟩ := move_change taken
    exact woken_lost made call.1 unanswered moved

end Runs

instance (client : AoaClient) (t : Activity) (x : Input) : Decidable (undisturbed.own client t x) :=
  inferInstanceAs (Decidable (_ = true))
instance (client : AoaClient) (t u : Activity) (x : Input) : Decidable (undisturbed.beside client t x u) :=
  inferInstanceAs (Decidable (_ = true))
instance (client : AoaClient) (e : Event) (u : Activity) : Decidable (undisturbed.event client e u) :=
  inferInstanceAs (Decidable True)

def sampleEnvelope : Envelope := ⟨"dtis.mobile-transport.v1",none,some "1",none,none,[]⟩

def connects : List (Move (Fin 3) Input Event) :=
  [.environment (.prepareBootstrap ⟨"session","code",1⟩ (some .opened)),.thread 1 (.start (.reader 2)),.thread 1 .go,
    .thread 1 (.frames [.challenge "challenge" (.accepted sampleEnvelope)]),.thread 1 .go,.thread 1 .go,.thread 1 .go,
    .thread 1 .go]

def reopensBeforePut : List (Move (Fin 3) Input Event) :=
  connects ++ [.thread 0 (.sendRequest "1" sampleEnvelope),.environment (.openAccessory .opened),.thread 0 .go,
    .thread 2 (.start (.writer 4)),.thread 2 .go,.thread 2 .go,.thread 2 .go]

def detachesWhileWaiting : List (Move (Fin 3) Input Event) :=
  connects ++ [.thread 0 (.sendRequest "1" sampleEnvelope),.thread 0 .go,.thread 2 (.start (.writer 2)),.thread 2 .go,
    .thread 2 .go,.thread 2 .go,.environment .detached]

def staleWaiter (s : Phone (Fin 3)) : Bool :=
  match s.threads 0 with
  | .waiting _ _ _ seen => seen ≠ s.world.connectionGeneration
  | _ => false

theorem staleWaiter_parts {s : Phone (Fin 3)} (stale : staleWaiter s = true) : ∃ kind requestId queue seen,
    s.threads 0 = .waiting kind requestId queue seen ∧ seen ≠ s.world.connectionGeneration := by
  unfold staleWaiter at stale
  split at stale
  · rename_i kind requestId queue seen waits
    exact ⟨kind,requestId,queue,seen,waits,of_decide_eq_true stale⟩
  · cases stale

-- The request saw the first connection and is written to the second one.
theorem request_crosses_connections : ¬ ∀ s : Phone (Fin 3),
    Reaches (system (Fin 3)) (fun _ _ => True) (initial (Fin 3)) s → GenerationsApart s := by
  intro all
  obtain ⟨s,path,seen⟩ := checkedRun_exhibits (system (Fin 3)) (fun _ _ => True) (initial (Fin 3)) reopensBeforePut
    (fun s => s.world.written.any fun entry => entry.1.seen < entry.2) (by decide +kernel)
  obtain ⟨entry,inside,later⟩ := List.any_eq_true.mp seen
  have kept := (all s path).written entry inside
  have later := of_decide_eq_true later
  omega

theorem waiter_woken_on_detach : ∃ s : Phone (Fin 3), Reaches (system (Fin 3)) undisturbed.Admits (initial (Fin 3)) s ∧
    s.world.written.length = 1 ∧ (∃ kind requestId queue seen, s.threads 0 = .waiting kind requestId queue seen ∧
      seen ≠ s.world.connectionGeneration ∧ (s.world.mailboxes queue).isSome) ∧ GenerationsApart s := by
  obtain ⟨s,path,seen⟩ := checkedRun_exhibits (system (Fin 3)) undisturbed.Admits (initial (Fin 3)) detachesWhileWaiting
    (fun s => s.world.written.length = 1 && staleWaiter s) (by decide +kernel)
  obtain ⟨written,stale⟩ := Bool.and_eq_true_iff.mp seen
  obtain ⟨kind,requestId,queue,seen,waits,before⟩ := staleWaiter_parts stale
  have apart := undisturbed_generations path
  exact ⟨s,path,of_decide_eq_true written,⟨kind,requestId,queue,seen,waits,before,
    apart.woken 0 kind requestId queue seen waits before⟩,apart⟩

end ImageSearch.ConnectionGenerations
