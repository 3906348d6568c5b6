import ImageSearch.ShareSessions
import Mathlib.Data.List.Count

namespace ImageSearch.SessionQuotas
open Transitions Threads Tables ShareSessions

variable {r r' r'' : Registry} {handler handler' : Handler} {sessionId : String} {session : InstantShareSession}
  {nextState : SessionState} {error : ErrorCode}

inductive Call (r : Registry) : Registry → Prop
  | none : Call r r
  | started (session : InstantShareSession) (fresh : session.sessionId ∉ r.activeSessions.rows.map InstantShareSession.sessionId)
      (numbered : session.serial = r.created) (live : session.state.active = true) (room : r.activeCount < r.maxSessions) :
      Call r {r with
        activeSessions:=r.activeSessions.upsert session id fun _ => rfl
        created:=r.created + 1}
  | counted (sessionId : String) (change : InstantShareSession → InstantShareSession)
      (same : ∀ session, (change session).sessionId = session.sessionId)
      (serials : ∀ session, (change session).serial = session.serial)
      (states : ∀ session, (change session).state = session.state) : Call r (r.replaceSession sessionId change same)
  | moved (session : InstantShareSession) (there : session ∈ r.activeSessions.rows) (nextState : SessionState)
      (allowed : nextState ∈ allowedTransitions session.state) :
      Call r (if nextState.active then r.replaceSession session.sessionId (fun session => {session with state:=nextState}) fun _ => rfl
        else (r.replaceSession session.sessionId (fun session => {session with state:=nextState}) fun _ => rfl).scheduleCleanup
          session)

theorem require_parts (found : r.requireSession sessionId = .ok session) :
    session ∈ r.activeSessions.rows ∧ session.sessionId = sessionId := by
  unfold Registry.requireSession Registry.getSession at found
  split at found
  · rename_i existing here
    cases found
    exact find_mem here
  · cases found

theorem transition_parts {result : Registry × InstantShareSession} (taken : r.transition sessionId nextState = .ok result) :
    ∃ session ∈ r.activeSessions.rows, session.sessionId = sessionId ∧ nextState ∈ allowedTransitions session.state ∧
      result = (if nextState.active then r.replaceSession sessionId (fun session => {session with state:=nextState}) fun _ => rfl
        else (r.replaceSession sessionId (fun session => {session with state:=nextState}) fun _ => rfl).scheduleCleanup session,
        {session with state:=nextState}) := by
  unfold Registry.transition at taken
  cases here : r.requireSession sessionId with
  | error error => simp [here,bind,Except.bind] at taken
  | ok session =>
      obtain ⟨there,same⟩ := require_parts here
      simp only [here,bind,Except.bind] at taken
      split at taken
      · rename_i allowed
        cases taken
        exact ⟨session,there,same,allowed,rfl⟩
      · cases taken

theorem transition_refused (there : session ∈ r.activeSessions.rows) (refused : r.transition session.sessionId nextState = .error error) :
    nextState ∉ allowedTransitions session.state := by
  intro allowed
  unfold Registry.transition Registry.requireSession Registry.getSession at refused
  rw [find_of_mem there] at refused
  simp [allowed,bind,Except.bind,pure,Except.pure] at refused

theorem transition_call {result : Registry × InstantShareSession} (taken : r.transition sessionId nextState = .ok result) :
    Call r result.1 := by
  obtain ⟨session,there,rfl,allowed,rfl⟩ := transition_parts taken
  exact .moved session there nextState allowed

theorem bootstrap_call {config : ConnectionConfig} {result : Registry × InstantShareSession}
    (taken : r.bootstrap config = .ok result) : Call r result.1 := by
  unfold Registry.bootstrap at taken
  split at taken
  · cases taken
    exact .none
  · rename_i absent
    split at taken
    · cases taken
    · rename_i room
      cases taken
      exact .started _ (find_none.mp absent) rfl rfl (Nat.lt_of_not_le room)

theorem batch_call {imageCount : Nat} (taken : r.setBatchMetadata sessionId imageCount = .ok r') : Call r r' := by
  unfold Registry.setBatchMetadata at taken
  cases here : r.requireSession sessionId with
  | error error => simp [here,bind,Except.bind] at taken
  | ok session =>
      simp only [here,bind,Except.bind,pure,Except.pure] at taken
      cases taken
      exact .counted _ _ _ (fun _ => rfl) fun _ => rfl

theorem increment_call (taken : r.incrementReceivedCount sessionId = .ok r') : Call r r' := by
  unfold Registry.incrementReceivedCount at taken
  cases here : r.requireSession sessionId with
  | error error => simp [here,bind,Except.bind] at taken
  | ok session =>
      simp only [here,bind,Except.bind,pure,Except.pure] at taken
      cases taken
      exact .counted _ _ _ (fun _ => rfl) fun _ => rfl

theorem after_call {Result : Type} {result : Except ErrorCode Result} {next : Result → Registry × Handler}
    (calls : ∀ value, result = .ok value → Call r (next value).1) : Call r (afterCall r result next).1 := by
  unfold afterCall
  cases result with
  | ok value => exact calls value rfl
  | error error => exact .none

theorem handler_call (taken : stepHandler r handler = some (r',handler')) : Call r r' := by
  have first : ∀ {pair : Registry × Handler}, pair = (r',handler') → Call r pair.1 → Call r r' := by
    rintro pair rfl call
    exact call
  cases handler with
  | returned | raised | failed | notFailed => cases taken
  | accepting config =>
      apply first (Option.some.inj taken)
      split
      · exact after_call fun value here => bootstrap_call here
      · exact .none
  | revisiting config imageCount =>
      apply first (Option.some.inj taken)
      split
      · exact after_call fun value here => bootstrap_call here
      · exact .none
  | queueing | negotiating | advancing | reviving | handing | finishing | aborting =>
      apply first (Option.some.inj taken)
      exact after_call fun value here => transition_call here
  | handshaking | receiving | rereading | judging | rechecking | delivering =>
      apply first (Option.some.inj taken)
      exact after_call fun value here => .none
  | describing | announcing =>
      apply first (Option.some.inj taken)
      exact after_call fun value here => batch_call here
  | counting =>
      apply first (Option.some.inj taken)
      exact after_call fun value here => increment_call here
  | failing sessionId error =>
      apply first (Option.some.inj taken)
      split
      · exact transition_call ‹_›
      · exact .none
  | retrying sessionId found =>
      apply first (Option.some.inj taken)
      split
      · exact transition_call ‹_›
      · exact .none

-- No more sessions than the limit allows are live, and each session that has ended is waited
-- for by one timer, which was started for it.
structure Managed (r : Registry) : Prop where
  quota : r.activeCount ≤ r.maxSessions
  serials : ∀ session ∈ r.activeSessions.rows, session.serial < r.created
  distinct : (r.activeSessions.rows.map InstantShareSession.serial).Nodup
  timed : ∀ session ∈ r.activeSessions.rows, session.state.active = false →
    r.timers.count ⟨session.sessionId,session.serial⟩ = 1
  started : ∀ timer ∈ r.timers, ∃ session ∈ r.activeSessions.rows, session.sessionId = timer.sessionId ∧
    session.serial = timer.serial ∧ session.state.active = false

section Kept
variable {f : InstantShareSession → InstantShareSession} {timers : List CleanupTimer}

theorem allowed_active (allowed : nextState ∈ allowedTransitions session.state) : session.state.active = true := by
  cases same : session.state <;> simp_all [allowedTransitions,SessionState.active]

theorem session_same {one two : InstantShareSession} (member : one ∈ r.activeSessions.rows)
    (member' : two ∈ r.activeSessions.rows) (same : one.sessionId = two.sessionId) : one = two :=
  List.inj_on_of_nodup_map r.activeSessions.distinct member member' same

theorem serial_same {one two : InstantShareSession} (managed : Managed r) (member : one ∈ r.activeSessions.rows)
    (member' : two ∈ r.activeSessions.rows) (same : one.serial = two.serial) : one = two :=
  List.inj_on_of_nodup_map managed.distinct member member' same

theorem started_managed (managed : Managed r) (fresh : session.sessionId ∉ r.activeSessions.rows.map InstantShareSession.sessionId)
    (numbered : session.serial = r.created) (live : session.state.active = true) (room : r.activeCount < r.maxSessions) :
    Managed {r with
      activeSessions:=r.activeSessions.upsert session id fun _ => rfl
      created:=r.created + 1} := by
  have rows : (r.activeSessions.upsert session id fun _ => rfl).rows = r.activeSessions.rows ++ [session] := upsert_fresh fresh
  refine ⟨?_,?_,?_,?_,?_⟩
  · unfold Registry.activeCount at *
    dsimp only
    rw [rows,List.countP_append,List.countP_singleton,if_pos live]
    exact room
  · dsimp only
    rw [rows]
    intro other member
    rcases List.mem_append.mp member with old | new
    · exact Nat.lt_succ_of_lt (managed.serials other old)
    · rw [List.mem_singleton.mp new,numbered]
      exact Nat.lt_succ_self _
  · dsimp only
    rw [rows,List.map_append,List.map_singleton]
    refine List.Nodup.append managed.distinct (List.nodup_singleton _) ?_
    rw [List.disjoint_singleton]
    intro there
    obtain ⟨other,member,same⟩ := List.mem_map.mp there
    have lower := managed.serials other member
    omega
  · dsimp only
    rw [rows]
    intro other member ended
    rcases List.mem_append.mp member with old | new
    · exact managed.timed other old ended
    · rw [List.mem_singleton.mp new,live] at ended
      cases ended
  · dsimp only
    rw [rows]
    intro timer member
    obtain ⟨other,there,found⟩ := managed.started timer member
    exact ⟨other,List.mem_append_left _ there,found⟩

theorem counted_managed (managed : Managed r) {change : InstantShareSession → InstantShareSession}
    {same : ∀ session, (change session).sessionId = session.sessionId}
    (serials : ∀ session, (change session).serial = session.serial)
    (states : ∀ session, (change session).state = session.state) : Managed (r.replaceSession sessionId change same) := by
  have kept : ∀ session : InstantShareSession,
      (if decide (session.sessionId = sessionId) then change session else session).sessionId = session.sessionId ∧
      (if decide (session.sessionId = sessionId) then change session else session).serial = session.serial ∧
      (if decide (session.sessionId = sessionId) then change session else session).state = session.state := by
    intro session
    split
    · exact ⟨same session,serials session,states session⟩
    · exact ⟨rfl,rfl,rfl⟩
  refine ⟨?_,?_,?_,?_,?_⟩
  · refine le_trans (le_of_eq ?_) managed.quota
    unfold Registry.activeCount Registry.replaceSession Table.modify
    dsimp only
    rw [List.countP_map]
    refine List.countP_congr fun session _ => ?_
    simp only [Function.comp_apply]
    rw [(kept session).2.2]
  · intro session member
    obtain ⟨old,there,rfl⟩ := List.mem_map.mp member
    rw [(kept old).2.1]
    exact managed.serials old there
  · have columns : (r.activeSessions.modify (fun session => session.sessionId = sessionId) change same).rows.map
        InstantShareSession.serial = r.activeSessions.rows.map InstantShareSession.serial :=
      columns_modify InstantShareSession.serial same serials
    unfold Registry.replaceSession
    dsimp only
    rw [columns]
    exact managed.distinct
  · intro session member ended
    obtain ⟨old,there,rfl⟩ := List.mem_map.mp member
    rw [(kept old).2.2] at ended
    rw [(kept old).1,(kept old).2.1]
    exact managed.timed old there ended
  · intro timer member
    obtain ⟨old,there,path,serial,ended⟩ := managed.started timer member
    refine ⟨_,List.mem_map.mpr ⟨old,there,rfl⟩,?_,?_,?_⟩
    · rw [(kept old).1,path]
    · rw [(kept old).2.1,serial]
    · rw [(kept old).2.2,ended]

theorem live_untimed (managed : Managed r) (there : session ∈ r.activeSessions.rows) (live : session.state.active = true) :
    (⟨session.sessionId,session.serial⟩ : CleanupTimer) ∉ r.timers := by
  intro waiting
  obtain ⟨other,member,same,-,ended⟩ := managed.started _ waiting
  rw [session_same member there same,live] at ended
  cases ended

theorem moved_managed (managed : Managed r) (there : session ∈ r.activeSessions.rows)
    (allowed : nextState ∈ allowedTransitions session.state) :
    Managed (if nextState.active then r.replaceSession session.sessionId (fun session => {session with state:=nextState}) fun _ => rfl
      else (r.replaceSession session.sessionId (fun session => {session with state:=nextState}) fun _ => rfl).scheduleCleanup
        session) := by
  have live := allowed_active allowed
  set timers := if nextState.active then r.timers else r.timers ++ [⟨session.sessionId,session.serial⟩] with waiting
  set next := r.replaceSession session.sessionId (fun session => {session with state:=nextState}) fun _ => rfl with replaced
  have whole : (if nextState.active then next else next.scheduleCleanup session) = {next with timers} := by
    rw [waiting]
    split <;> rfl
  rw [whole]
  have rows : ∀ later ∈ next.activeSessions.rows, ∃ old ∈ r.activeSessions.rows, old.sessionId = later.sessionId ∧
      old.serial = later.serial ∧ (old = session ∧ later.state = nextState ∨ old.sessionId ≠ session.sessionId ∧ later.state = old.state) := by
    intro later member
    obtain ⟨old,member',rfl⟩ := List.mem_map.mp member
    by_cases mine : old.sessionId = session.sessionId
    · refine ⟨old,member',by simp [mine],by simp [mine],.inl ⟨session_same member' there mine,by simp [mine]⟩⟩
    · exact ⟨old,member',by simp [mine],by simp [mine],.inr ⟨mine,by simp [mine]⟩⟩
  have untimed := live_untimed managed there live
  refine ⟨?_,?_,?_,?_,?_⟩
  · refine le_trans ?_ managed.quota
    unfold Registry.activeCount
    rw [replaced]
    unfold Registry.replaceSession Table.modify
    dsimp only
    rw [List.countP_map]
    refine List.countP_mono_left fun old member active => ?_
    simp only [Function.comp_apply] at active
    by_cases mine : old.sessionId = session.sessionId
    · rw [session_same member there mine]
      exact live
    · rw [if_neg (by simpa using mine)] at active
      exact active
  · intro later member
    obtain ⟨old,member',-,serial,-⟩ := rows later member
    rw [← serial]
    exact managed.serials old member'
  · have columns : (r.activeSessions.modify (fun other => other.sessionId = session.sessionId)
          (fun session => {session with state:=nextState}) fun _ => rfl).rows.map InstantShareSession.serial =
        r.activeSessions.rows.map InstantShareSession.serial := by
      refine columns_modify InstantShareSession.serial ?_ ?_
      all_goals exact fun _ => rfl
    dsimp only
    rw [replaced]
    unfold Registry.replaceSession
    dsimp only
    rw [columns]
    exact managed.distinct
  · intro later member ended
    obtain ⟨old,member',path,serial,now⟩ := rows later member
    rw [← path,← serial]
    rcases now with ⟨rfl,state⟩ | ⟨other,state⟩
    · rw [state] at ended
      rw [waiting]
      simp [ended,List.count_eq_zero_of_not_mem untimed]
    · rw [state] at ended
      have before := managed.timed old member' ended
      rw [waiting]
      split
      · exact before
      · rw [List.count_append,before,List.count_singleton,if_neg]
        simp [Ne.symm other]
  · intro timer member
    have kept : timer ∈ r.timers → ∃ later ∈ next.activeSessions.rows, later.sessionId = timer.sessionId ∧
        later.serial = timer.serial ∧ later.state.active = false := by
      intro old
      obtain ⟨other,there',path,serial,ended⟩ := managed.started timer old
      have different : other.sessionId ≠ session.sessionId := by
        intro same
        rw [session_same there' there same,live] at ended
        cases ended
      exact ⟨other,List.mem_map.mpr ⟨other,there',by simp [different]⟩,path,serial,ended⟩
    rw [waiting] at member
    split at member
    · exact kept member
    · rename_i ends
      rcases List.mem_append.mp member with old | new
      · exact kept old
      · rw [List.mem_singleton.mp new]
        exact ⟨_,List.mem_map.mpr ⟨session,there,rfl⟩,by simp,by simp,by simpa using ends⟩

theorem cleaned_managed (managed : Managed r) {timer : CleanupTimer} (waiting : timer ∈ r.timers) :
    Managed (r.cleanupSession timer) := by
  obtain ⟨session,there,path,serial,ended⟩ := managed.started timer waiting
  have rows : ∀ later, later ∈ (r.cleanupSession timer).activeSessions.rows ↔
      later ∈ r.activeSessions.rows ∧ later.sessionId ≠ timer.sessionId := by
    intro later
    unfold Registry.cleanupSession
    dsimp only
    rw [mem_delete]
    simp
  refine ⟨?_,?_,?_,?_,?_⟩
  · refine le_trans ?_ managed.quota
    exact List.filter_sublist.countP_le
  · intro later member
    exact managed.serials later ((rows later).mp member).1
  · exact (List.filter_sublist.map _).nodup managed.distinct
  · intro later member finished
    obtain ⟨member',other⟩ := (rows later).mp member
    have before := managed.timed later member' finished
    unfold Registry.cleanupSession
    dsimp only
    rw [List.count_erase_of_ne,before]
    intro same
    exact other (congrArg CleanupTimer.sessionId same)
  · intro other member
    have before : other ∈ r.timers := List.mem_of_mem_erase member
    obtain ⟨later,member',path',serial',finished⟩ := managed.started other before
    refine ⟨later,(rows later).mpr ⟨member',?_⟩,path',serial',finished⟩
    intro same
    have equal : later = session := session_same member' there (same.trans path.symm)
    have timers : other = timer := by
      cases other; cases timer
      simp_all
    have once := managed.timed session there ended
    rw [path,serial] at once
    have gone : timer ∉ r.timers.erase timer := by
      intro still
      have more := List.count_pos_iff.mpr still
      have less := List.count_erase_self (a := timer) (l := r.timers)
      have whole : (⟨timer.sessionId,timer.serial⟩ : CleanupTimer) = timer := rfl
      rw [whole] at once
      omega
    exact gone (timers ▸ member)

theorem call_managed (managed : Managed r) (call : Call r r') : Managed r' := by
  cases call with
  | none => exact managed
  | started session fresh numbered live room => exact started_managed managed fresh numbered live room
  | counted sessionId change same serials states => exact counted_managed managed serials states
  | moved session there nextState allowed => exact moved_managed managed there allowed

end Kept

-- What a later registry has is new, or was there with this id and serial, and if it had ended
-- is as it was.
structure Evolves (r r' : Registry) : Prop where
  limit : r'.maxSessions = r.maxSessions
  created : r.created ≤ r'.created
  kept : ∀ later ∈ r'.activeSessions.rows, r.created ≤ later.serial ∨ ∃ earlier ∈ r.activeSessions.rows,
    earlier.serial = later.serial ∧ earlier.sessionId = later.sessionId ∧
    (earlier.state.active = false → later.state = earlier.state)

theorem evolves_refl : Evolves r r := ⟨rfl,le_rfl,fun later member => .inr ⟨later,member,rfl,rfl,fun _ => rfl⟩⟩

theorem evolves_trans (one : Evolves r r') (two : Evolves r' r'') : Evolves r r'' := by
  refine ⟨two.limit.trans one.limit,one.created.trans two.created,?_⟩
  intro last member
  rcases two.kept last member with fresh | ⟨later,there,serial,path,same⟩
  · exact .inl (one.created.trans fresh)
  · rcases one.kept later there with fresh | ⟨earlier,there',serial',path',same'⟩
    · exact .inl (serial ▸ fresh)
    · refine .inr ⟨earlier,there',serial'.trans serial,path'.trans path,?_⟩
      intro ended
      have still : later.state = earlier.state := same' ended
      rw [← still]
      exact same (still ▸ ended)

theorem call_evolves (call : Call r r') : Evolves r r' := by
  cases call with
  | none => exact evolves_refl
  | started session fresh numbered live room =>
      refine ⟨rfl,Nat.le_succ _,?_⟩
      intro later member
      have rows : (r.activeSessions.upsert session id fun _ => rfl).rows = r.activeSessions.rows ++ [session] := upsert_fresh fresh
      dsimp only at member
      rw [rows] at member
      rcases List.mem_append.mp member with old | new
      · exact .inr ⟨later,old,rfl,rfl,fun _ => rfl⟩
      · rw [List.mem_singleton.mp new]
        exact .inl numbered.ge
  | counted sessionId change same serials states =>
      refine ⟨rfl,le_rfl,?_⟩
      intro later member
      obtain ⟨earlier,there,rfl⟩ := List.mem_map.mp member
      refine .inr ⟨earlier,there,?_,?_,fun _ => ?_⟩
      · split
        · exact (serials earlier).symm
        · rfl
      · split
        · exact (same earlier).symm
        · rfl
      · split
        · exact states earlier
        · rfl
  | moved session there nextState allowed =>
      have rows : ∀ later ∈ (r.replaceSession session.sessionId (fun session => {session with state:=nextState})
          fun _ => rfl).activeSessions.rows, ∃ earlier ∈ r.activeSessions.rows, earlier.serial = later.serial ∧
          earlier.sessionId = later.sessionId ∧ (earlier.state.active = false → later.state = earlier.state) := by
        intro later member
        obtain ⟨earlier,there',rfl⟩ := List.mem_map.mp member
        by_cases mine : earlier.sessionId = session.sessionId
        · refine ⟨earlier,there',by simp [mine],by simp [mine],fun ended => ?_⟩
          rw [session_same there' there mine,allowed_active allowed] at ended
          cases ended
        · exact ⟨earlier,there',by simp [mine],by simp [mine],fun _ => by simp [mine]⟩
      split
      · exact ⟨rfl,le_rfl,fun later member => .inr (rows later member)⟩
      · exact ⟨rfl,le_rfl,fun later member => .inr (rows later member)⟩

theorem cleaned_evolves {timer : CleanupTimer} : Evolves r (r.cleanupSession timer) :=
  ⟨rfl,le_rfl,fun later member => .inr ⟨later,(mem_delete.mp member).1,rfl,rfl,fun _ => rfl⟩⟩

theorem call_stays (call : Call r r') (there : session ∈ r.activeSessions.rows) :
    ∃ later ∈ r'.activeSessions.rows, later.serial = session.serial := by
  cases call with
  | none => exact ⟨session,there,rfl⟩
  | started new fresh numbered live room =>
      have rows : (r.activeSessions.upsert new id fun _ => rfl).rows = r.activeSessions.rows ++ [new] := upsert_fresh fresh
      refine ⟨session,?_,rfl⟩
      dsimp only
      rw [rows]
      exact List.mem_append_left _ there
  | counted sessionId change same serials states =>
      refine ⟨_,List.mem_map.mpr ⟨session,there,rfl⟩,?_⟩
      split
      · exact serials session
      · rfl
  | moved other there' nextState allowed =>
      have later : ∃ later ∈ (r.replaceSession other.sessionId (fun session => {session with state:=nextState})
          fun _ => rfl).activeSessions.rows, later.serial = session.serial := by
        refine ⟨_,List.mem_map.mpr ⟨session,there,rfl⟩,?_⟩
        split <;> rfl
      split
      · exact later
      · exact later

def fireTimer (r : Registry) (timer : CleanupTimer) : Option Registry :=
  if timer ∈ r.timers then some (r.cleanupSession timer) else none

def sessionPool (Index : Type*) [DecidableEq Index] : System (Pool Index Registry Handler) (Move Index Unit CleanupTimer) :=
  pool (fun r handler _ => stepHandler r handler) fireTimer

def Released (r : Registry) : Handler → Prop
  | .retrying sessionId (some serial) => serial < r.created ∧
      ∀ session ∈ r.activeSessions.rows, session.serial = serial → session.sessionId = sessionId
  | .failed (some serial) => serial < r.created ∧
      ∀ session ∈ r.activeSessions.rows, session.serial = serial → session.state.active = false
  | .notFailed found => found = none
  | _ => True

-- The second attempt of fail_session finds the session in a state that may fail.
def mayFail (r : Registry) (sessionId : String) : Bool :=
  (r.getSession sessionId).any fun session => session.state ∈ [.queued,.negotiating,.transferring,.delivering]

def retriesInTime (r : Registry) : Handler → Bool
  | .retrying sessionId (some _) => mayFail r sessionId
  | _ => true

def failsInTime : Condition Registry Handler Unit CleanupTimer where
  own r handler _ := retriesInTime r handler = true

def managed : Assertions Registry Handler where
  world := Managed
  thread := Released

theorem released_evolves (evolves : Evolves r r') (released : Released r handler) : Released r' handler := by
  unfold Released at *
  split
  · obtain ⟨lower,same⟩ := released
    refine ⟨lower.trans_le evolves.created,?_⟩
    intro later member serial
    rcases evolves.kept later member with fresh | ⟨earlier,there,serial',path,-⟩
    · omega
    · rw [← path]
      exact same earlier there (serial'.trans serial)
  · obtain ⟨lower,ended⟩ := released
    refine ⟨lower.trans_le evolves.created,?_⟩
    intro later member serial
    rcases evolves.kept later member with fresh | ⟨earlier,there,serial',-,same⟩
    · omega
    · have finished := ended earlier there (serial'.trans serial)
      rw [same finished]
      exact finished
  · exact released
  · trivial

def Handler.ordinary : Handler → Bool
  | .retrying _ _ | .failed _ | .notFailed _ => false
  | _ => true

theorem ordinary_released (ordinary : Handler.ordinary handler = true) : Released r handler := by
  cases handler with
  | retrying | failed | notFailed => cases ordinary
  | _ => trivial

theorem after_ordinary {Result : Type} {result : Except ErrorCode Result} {next : Result → Registry × Handler}
    (ordinary : ∀ value, Handler.ordinary (next value).2 = true) : Handler.ordinary (afterCall r result next).2 = true := by
  unfold afterCall
  cases result with
  | ok value => exact ordinary value
  | error error => rfl

theorem handler_ordinary (taken : stepHandler r handler = some (r',handler')) :
    Handler.ordinary handler' = true ∨ (∃ sessionId error, handler = .failing sessionId error) ∨
      ∃ sessionId found, handler = .retrying sessionId found := by
  have first : ∀ {pair : Registry × Handler}, pair = (r',handler') → Handler.ordinary pair.2 = true →
      Handler.ordinary handler' = true := by
    rintro pair rfl ordinary
    exact ordinary
  cases handler with
  | returned | raised | failed | notFailed => cases taken
  | failing sessionId error => exact .inr (.inl ⟨_,_,rfl⟩)
  | retrying sessionId found => exact .inr (.inr ⟨_,_,rfl⟩)
  | accepting config | revisiting config imageCount =>
      apply Or.inl
      apply first (Option.some.inj taken)
      split
      · refine after_ordinary fun value => ?_
        dsimp only
        repeat' first | split | rfl | cases imageCount
      · rfl
  | queueing | negotiating | advancing | finishing | aborting | handing | describing | announcing | counting | reviving
  | handshaking | receiving | rereading | judging | rechecking | delivering =>
      apply Or.inl
      apply first (Option.some.inj taken)
      refine after_ordinary fun value => ?_
      dsimp only [Option.elim]
      repeat' first | rfl | split

theorem desired_ends : (desiredTerminalState error).active = false := by
  cases error <;> rfl

theorem live_parts {serial : Nat} (found : liveSerial r sessionId = some serial) :
    ∃ session ∈ r.activeSessions.rows, session.sessionId = sessionId ∧ session.serial = serial ∧ session.state.active = true := by
  obtain ⟨session,here,live⟩ := Option.bind_eq_some_iff.mp found
  obtain ⟨there,same⟩ := find_mem here
  split at live
  · cases live
    exact ⟨session,there,same,rfl,‹_›⟩
  · cases live

theorem ended_by (ends : nextState.active = false) {result : Registry × InstantShareSession}
    (taken : r.transition sessionId nextState = .ok result) : result.1.created = r.created ∧
      ∀ later ∈ result.1.activeSessions.rows, later.sessionId = sessionId → later.state.active = false := by
  obtain ⟨session,there,rfl,allowed,rfl⟩ := transition_parts taken
  rw [if_neg (by simpa using ends)]
  refine ⟨rfl,?_⟩
  intro later member same
  obtain ⟨earlier,there',rfl⟩ := List.mem_map.mp member
  split
  · exact ends
  · rename_i other
    split at same
    · contradiction
    · exact absurd (decide_eq_true same) other

theorem failing_released (kept : Managed r) (taken : stepHandler r (.failing sessionId error) = some (r',handler')) :
    Released r' handler' := by
  have one := Option.some.inj taken
  split at one
  · rename_i result moved
    cases one
    cases found : liveSerial r sessionId with
    | none => trivial
    | some serial =>
        obtain ⟨session,there,same,rfl,-⟩ := live_parts found
        obtain ⟨created,ended⟩ := ended_by desired_ends moved
        refine ⟨created ▸ kept.serials session there,?_⟩
        intro later member serial
        rcases (call_evolves (transition_call moved)).kept later member with fresh | ⟨earlier,there',serial',path,-⟩
        · have lower := kept.serials session there
          omega
        · have equal := serial_same kept there' there (serial'.trans serial)
          exact ended later member (path.symm.trans (equal ▸ same))
  · cases one
    cases found : liveSerial r sessionId with
    | none => trivial
    | some serial =>
        obtain ⟨session,there,same,rfl,-⟩ := live_parts found
        refine ⟨kept.serials session there,?_⟩
        intro other member serial
        rw [serial_same kept member there serial,same]

theorem retrying_released {found : Option Nat} (released : Released r (.retrying sessionId found))
    (inTime : ∀ serial, found = some serial → mayFail r sessionId = true)
    (taken : stepHandler r (.retrying sessionId found) = some (r',handler')) : Released r' handler' := by
  have one := Option.some.inj taken
  split at one
  · rename_i result moved
    cases one
    cases found with
    | none => trivial
    | some serial =>
        obtain ⟨lower,same⟩ := released
        obtain ⟨created,ended⟩ := ended_by (by rfl) moved
        refine ⟨created ▸ lower,?_⟩
        intro later member serial'
        rcases (call_evolves (transition_call moved)).kept later member with fresh | ⟨earlier,there,mine,path,-⟩
        · omega
        · exact ended later member (path.symm.trans (same earlier there (mine.trans serial')))
  · rename_i refused
    cases one
    cases found with
    | none => rfl
    | some serial =>
        obtain ⟨session,here,state⟩ := (Option.any_eq_true ..).mp (inTime serial rfl)
        obtain ⟨there,rfl⟩ := find_mem here
        have not := transition_refused there refused
        simp only [List.mem_cons,List.not_mem_nil,or_false,decide_eq_true_eq] at state
        rcases state with state | state | state | state
        all_goals exact absurd (by rw [state]; decide) not

theorem managed_stable : Stable managed (fun r handler (_ : Unit) => stepHandler r handler) fireTimer failsInTime where
  own kept released inTime taken := by
    refine ⟨call_managed kept (handler_call taken),?_⟩
    rcases handler_ordinary taken with ordinary | ⟨sessionId,error,rfl⟩ | ⟨sessionId,found,rfl⟩
    · exact ordinary_released ordinary
    · exact failing_released kept taken
    · refine retrying_released released (fun serial here => ?_) taken
      subst here
      exact inTime
  other _ _ released _ _ _ _ taken := ⟨released_evolves (call_evolves (handler_call taken)) released,trivial,trivial⟩
  eventWorld kept taken := by
    unfold fireTimer at taken
    split at taken
    · cases taken
      exact cleaned_managed kept ‹_›
    · cases taken
  eventThread _ released _ taken := by
    unfold fireTimer at taken
    split at taken
    · cases taken
      exact released_evolves cleaned_evolves released
    · cases taken

variable {Index : Type*} [DecidableEq Index] {s next : Pool Index Registry Handler}

theorem step_evolves {move : Move Index Unit CleanupTimer} (taken : (sessionPool Index).step s move = some next) :
    Evolves s.world next.world := by
  cases move with
  | thread i input =>
      obtain ⟨world',thread',moved,rfl⟩ := thread_parts taken
      exact call_evolves (handler_call moved)
  | environment timer =>
      obtain ⟨world',fired,rfl⟩ := environment_parts taken
      unfold fireTimer at fired
      split at fired
      · cases fired
        exact cleaned_evolves
      · cases fired

theorem run_evolves {admitted : Pool Index Registry Handler → Move Index Unit CleanupTimer → Prop}
    (path : Reaches (sessionPool Index) admitted s next) : Evolves s.world next.world := by
  induction path with
  | refl => exact evolves_refl
  | tail _ step ih =>
      obtain ⟨_,_,taken⟩ := step
      exact evolves_trans ih (step_evolves taken)

-- What a step takes away has ended, and the step is its own timer.
theorem removed_timed (managed : Managed s.world) {move : Move Index Unit CleanupTimer}
    (taken : (sessionPool Index).step s move = some next) (there : session ∈ s.world.activeSessions.rows)
    (gone : ∀ later ∈ next.world.activeSessions.rows, later.serial ≠ session.serial) :
    session.state.active = false ∧ move = .environment ⟨session.sessionId,session.serial⟩ := by
  cases move with
  | thread i input =>
      obtain ⟨world',thread',moved,rfl⟩ := thread_parts taken
      obtain ⟨later,member,same⟩ := call_stays (handler_call moved) there
      exact absurd same (gone later member)
  | environment timer =>
      obtain ⟨world',fired,rfl⟩ := environment_parts taken
      unfold fireTimer at fired
      split at fired
      · rename_i waiting
        cases fired
        obtain ⟨other,member,path,serial,ended⟩ := managed.started timer waiting
        have mine : session.sessionId = timer.sessionId := by
          by_contra different
          exact gone session (mem_delete.mpr ⟨there,decide_eq_false different⟩) rfl
        obtain rfl := session_same member there (path.trans mine.symm)
        refine ⟨ended,?_⟩
        rw [path,serial]
      · cases fired

def newRegistry (maxSessions : Nat) : Registry := ⟨.empty,maxSessions,[],0⟩

def Handler.starts : Handler → Bool
  | .accepting _ | .handshaking _ | .receiving _ _ | .revisiting _ _ | .delivering _ | .failing _ _ | .aborting _ => true
  | _ => false

structure Starts (maxSessions : Nat) (s : Pool Index Registry Handler) : Prop where
  world : s.world = newRegistry maxSessions
  threads : ∀ i, Handler.starts (s.threads i) = true

omit [DecidableEq Index] in
theorem starts_hold {maxSessions : Nat} (starts : Starts maxSessions s) : managed.Hold s := by
  refine ⟨?_,?_,fun _ _ _ => trivial⟩
  · rw [starts.world]
    refine ⟨Nat.zero_le _,?_,List.nodup_nil,?_,?_⟩
    all_goals exact fun _ member => absurd member List.not_mem_nil
  · intro i
    have first := starts.threads i
    revert first
    cases s.threads i <;> simp [Handler.starts,managed,Released]

-- At most the limit is live; what has ended stays as it is until its one timer takes it away,
-- and it alone; fail_session ends the live session it was called for.
theorem sessions_managed {Index : Type*} [DecidableEq Index] (maxSessions : Nat)
    (start s next : Pool Index Registry Handler) (starts : Starts maxSessions start)
    (path : Reaches (sessionPool Index) failsInTime.Admits start s) (later : Reachable (sessionPool Index) s next) :
    s.world.activeCount ≤ maxSessions ∧ Managed s.world ∧
    (∀ session ∈ s.world.activeSessions.rows, session.state.active = false →
      ∀ after ∈ next.world.activeSessions.rows, after.serial = session.serial →
        after.sessionId = session.sessionId ∧ after.state = session.state) ∧
    (∀ move after, (sessionPool Index).step s move = some after → ∀ session ∈ s.world.activeSessions.rows,
      (∀ left ∈ after.world.activeSessions.rows, left.serial ≠ session.serial) →
        session.state.active = false ∧ move = .environment ⟨session.sessionId,session.serial⟩) ∧
    ∀ i, Released s.world (s.threads i) := by
  have hold := hold_reaches managed_stable (starts_hold starts) path
  have kept : Managed s.world := hold.world
  have limit : s.world.maxSessions = maxSessions := by
    rw [(run_evolves path).limit,starts.world]
    rfl
  refine ⟨limit ▸ kept.quota,kept,?_,fun _ _ taken _ there gone => removed_timed kept taken there gone,hold.thread⟩
  intro session there ended after member same
  have lower := kept.serials session there
  rcases (run_evolves later).kept after member with fresh | ⟨earlier,there',serial,path',stays⟩
  · omega
  · obtain rfl := serial_same kept there' there (serial.trans same)
    exact ⟨path'.symm,stays ended⟩

instance (r : Registry) (handler : Handler) (x : Unit) : Decidable (failsInTime.own r handler x) :=
  inferInstanceAs (Decidable (retriesInTime r handler = true))
instance (r : Registry) (one two : Handler) (x : Unit) : Decidable (failsInTime.beside r one x two) :=
  inferInstanceAs (Decidable True)
instance (r : Registry) (timer : CleanupTimer) (handler : Handler) : Decidable (failsInTime.event r timer handler) :=
  inferInstanceAs (Decidable True)

def onePhone : ConnectionConfig := ⟨"phone",.image,true⟩

def acceptedAndFailed : Pool (Fin 2) Registry Handler :=
  ⟨newRegistry 100,fun i => if i = 0 then .accepting onePhone else .failing "phone" .userAborted⟩

theorem acceptedAndFailed_starts : Starts 100 acceptedAndFailed := ⟨rfl,by decide⟩

-- fail_session comes between the bootstrap and the transition to QUEUED, and raises.
theorem bootstrapped_not_failed : ¬ ∀ s : Pool (Fin 2) Registry Handler,
    Reachable (sessionPool (Fin 2)) acceptedAndFailed s → ∀ i, Released s.world (s.threads i) := by
  intro all
  obtain ⟨s,path,seen⟩ := checkedRun_exhibits (sessionPool (Fin 2)) (fun _ _ => True) acceptedAndFailed
    ([0,1,1].map fun i => .thread i ()) (fun s => s.threads 1 = .notFailed (some 0)) (by decide +kernel)
  have released := all s path 1
  rw [of_decide_eq_true seen] at released
  cases released

-- Aborting is no way out of QUEUED, failing is.
theorem queued_failed : ∃ s next : Pool (Fin 2) Registry Handler, next.world.activeSessions.rows = [] ∧
    s.threads 1 = .failed (some 0) ∧ Reachable (sessionPool (Fin 2)) s next ∧ s.world.activeCount ≤ 100 ∧ Managed s.world ∧
    ∀ i, Released s.world (s.threads i) := by
  obtain ⟨s,path,seen⟩ := checkedRun_exhibits (sessionPool (Fin 2)) failsInTime.Admits acceptedAndFailed
    ([0,0,1,1].map fun i => .thread i ()) (fun s => s.threads 1 = .failed (some 0) &&
      s.world.timers = [⟨"phone",0⟩] && (s.world.cleanupSession ⟨"phone",0⟩).activeSessions.rows = []) (by decide +kernel)
  simp only [Bool.and_eq_true,decide_eq_true_eq] at seen
  obtain ⟨⟨failed,timers⟩,empty⟩ := seen
  have fired : (sessionPool (Fin 2)).step s (.environment ⟨"phone",0⟩) = some {s with world:=s.world.cleanupSession ⟨"phone",0⟩} := by
    simp [sessionPool,pool,fireTimer,timers]
  have later : Reachable (sessionPool (Fin 2)) s {s with world:=s.world.cleanupSession ⟨"phone",0⟩} :=
    reaches_step reaches_refl trivial fired
  obtain ⟨quota,managed,-,-,released⟩ := sessions_managed 100 acceptedAndFailed s _ acceptedAndFailed_starts path later
  exact ⟨s,_,empty,failed,later,quota,managed,released⟩

end ImageSearch.SessionQuotas
