import ImageSearch.RuntimeCalls
import Mathlib.Data.List.Nodup

namespace ImageSearch.AnsweredCalls
open Payload Transitions Threads RuntimeCalls

variable {w w' : Runtime} {t t' u : Activity} {input : Input} {requestID : String} {resumption : Resumption}

def awaited (w : Runtime) : List String := w.pendingResponses.map Prod.fst

-- A connection is accepted when no answer and no stream is left to the one it replaces; a
-- request, a stream's start and a completion are through while their connection is the
-- current one; a chunk or a completion that has waited finds its stream still there; and
-- no completion is sent while another one of its stream is awaited.
def keepsConnection (w : Runtime) : Activity → Input → Bool
  | .idle,.acceptConnection listener =>
    w.listener != some listener || w.pendingResponses.isEmpty && w.activeStreamingRequestIDs.isEmpty
  | .waiting (.sendStreamingBinaryChunk requestID),.ready _ | .waiting (.finishStreamingRequest requestID),.ready _ =>
    requestID ∈ w.activeStreamingRequestIDs
  | .sending .sendRequest _ connection,.completed true | .sending .beginStreamingRequest _ connection,.completed true =>
    w.activeConnection = some connection
  | .sending (.finishStreamingRequest _) requestID connection,.completed true =>
    w.activeConnection = some connection && requestID ∉ awaited w
  | _,_ => true

-- The text a caller will wait for an answer to, from its send on.
def unregistered : Activity → Option (String × Nat)
  | .sending .sendRequest requestID connection | .sending (.finishStreamingRequest _) requestID connection =>
    some (requestID,connection)
  | _ => none

def answerOf (data : Json) : Option (String × RuntimeResponse) :=
  if (desktopAuthChallenge data).isSome then none else parseEnvelopeResponse data

def afterRegistration : Activity → Input → Activity → Bool
  | .idle,.received _ (some data),other =>
    match answerOf data,unregistered other with
    | some (requestID,_),some (other,_) => requestID ≠ other
    | _,_ => true
  | _,_,_ => true

def orderly : Condition Runtime Activity Input Unit where
  own w t input := keepsConnection w t input = true
  beside _ t input u := afterRegistration t input u = true

def continuations (w : Runtime) : List Nat := w.pendingResponses.map Prod.snd
def resumedOnes (w : Runtime) : List Nat := w.resumed.map Prod.fst

structure Sound (w : Runtime) : Prop where
  keys : (awaited w).Nodup
  once : (continuations w ++ resumedOnes w).Nodup
  issued : ∀ k ∈ continuations w ++ resumedOnes w, k < w.nextContinuation
  asked : ∀ requestID ∈ awaited w, requestID ∈ w.sent.map Prod.fst
  streams : ∀ requestID ∈ w.activeStreamingRequestIDs, ∃ connection, (requestID,connection) ∈ w.started ∧
    w.activeConnection = some connection
  framed : ∀ entry ∈ w.framed, entry ∈ w.started
  sent : ∀ entry ∈ w.started, entry.1 ∈ w.sent.map Prod.fst

def Answerable (w : Runtime) (requestID : String) (continuation connection : Nat) : Prop :=
  continuation ∈ resumedOnes w ∨
    (requestID,continuation) ∈ w.pendingResponses ∧ w.activeConnection = some connection

def Fits (w : Runtime) : Activity → Prop
  | .awaiting requestID continuation connection _ =>
    continuation < w.nextContinuation ∧ Answerable w requestID continuation connection
  | .sending .sendRequest requestID _ =>
    requestID ∈ w.sent.map Prod.fst ∧ requestID ∉ w.started.map Prod.fst ∧ requestID ∉ awaited w
  | .sending .beginStreamingRequest requestID connection => (requestID,connection) ∈ w.started
  | .waiting (.finishStreamingRequest requestID) => requestID ∈ w.started.map Prod.fst
  | .sending (.finishStreamingRequest _) requestID _ => requestID ∈ w.started.map Prod.fst
  | _ => True

def Apart : Activity → Activity → Prop
  | .awaiting _ one _ _,.awaiting _ other _ _ => one ≠ other
  | .sending .sendRequest one _,.sending .sendRequest other _ => one ≠ other
  | _,_ => True

-- What a job holds after its own step: a new continuation, or the id of a new request.
def Fresh (w : Runtime) : Activity → Prop
  | .awaiting _ continuation _ _ => continuation = w.nextContinuation
  | .sending .sendRequest requestID _ => requestID ∉ w.sent.map Prod.fst
  | _ => True

-- What a step does to the continuations and the records of the others; `asking` is the
-- request that may have registered in it.
structure Advances (asking : Option String) (w w' : Runtime) : Prop where
  issued : w.nextContinuation ≤ w'.nextContinuation
  resumed : ∀ k ∈ resumedOnes w, k ∈ resumedOnes w'
  pending : ∀ entry ∈ w.pendingResponses, entry.2 ∈ resumedOnes w' ∨
    entry ∈ w'.pendingResponses ∧ w'.activeConnection = w.activeConnection
  awaited : ∀ requestID ∈ awaited w', requestID ∈ awaited w ∨ asking = some requestID
  sent : ∀ entry ∈ w.sent, entry ∈ w'.sent
  started : ∀ entry ∈ w.started, entry ∈ w'.started
  fresh : ∀ entry ∈ w'.started, entry ∈ w.started ∨ entry.1 ∉ w.sent.map Prod.fst

def Moves (asking : Option String) (w w' : Runtime) : Prop := Sound w → Sound w' ∧ Advances asking w w'

variable {asking : Option String}

theorem advances_answerable {continuation connection : Nat} (advances : Advances asking w w')
    (old : Answerable w requestID continuation connection) : Answerable w' requestID continuation connection := by
  rcases old with resumed | ⟨pending,active⟩
  · exact .inl (advances.resumed _ resumed)
  · rcases advances.pending _ pending with resumed | ⟨pending,same⟩
    · exact .inl resumed
    · exact .inr ⟨pending,same.trans active⟩

section Dictionary
variable {entries : List (String × Nat)} {continuation : Nat}

theorem lookup_mem (found : entries.lookup requestID = some continuation) : (requestID,continuation) ∈ entries := by
  induction entries with
  | nil => cases found
  | cons entry rest ih =>
    obtain ⟨key,value⟩ := entry
    by_cases same : requestID = key
    · subst same
      simp only [List.lookup_cons_self,Option.some.injEq] at found
      rw [found]
      exact List.mem_cons_self ..
    · rw [List.lookup_cons,beq_eq_false_iff_ne.mpr same] at found
      exact List.mem_cons_of_mem _ (ih found)

theorem lookup_unique (distinct : (entries.map Prod.fst).Nodup) (there : (requestID,continuation) ∈ entries) :
    entries.lookup requestID = some continuation := by
  induction entries with
  | nil => cases there
  | cons entry rest ih =>
    obtain ⟨key,value⟩ := entry
    rw [List.map_cons,List.nodup_cons] at distinct
    rcases List.mem_cons.mp there with same | later
    · cases same
      exact List.lookup_cons_self
    · have other : requestID ≠ key := by
        intro same
        apply distinct.1
        exact List.mem_map.mpr ⟨(requestID,continuation),later,same⟩
      rw [List.lookup_cons,beq_eq_false_iff_ne.mpr other]
      exact ih distinct.2 later

theorem filter_perm (distinct : (entries.map Prod.fst).Nodup) (found : entries.lookup requestID = some continuation) :
    entries.Perm ((requestID,continuation) :: entries.filter fun entry => entry.1 ≠ requestID) := by
  have there := lookup_mem found
  apply (List.perm_ext_iff_of_nodup (List.Nodup.of_map _ distinct) ?_).mpr
  · intro entry
    rw [List.mem_cons,List.mem_filter]
    constructor
    · intro present
      by_cases same : entry.1 = requestID
      · left
        obtain ⟨key,value⟩ := entry
        cases same
        have again := lookup_unique distinct present
        rw [found] at again
        cases again
        rfl
      · exact .inr ⟨present,by simpa using same⟩
    · intro one
      rcases one with rfl | ⟨present,-⟩
      · exact there
      · exact present
  · refine List.nodup_cons.mpr ⟨?_,(List.Nodup.of_map _ distinct).filter _⟩
    simp

end Dictionary

theorem advances_trans {w'' : Runtime} (one : Advances none w w') (two : Advances asking w' w'') :
    Advances asking w w'' := by
  refine ⟨one.issued.trans two.issued,fun k there => two.resumed k (one.resumed k there),fun entry there => ?_,
    fun id there => ?_,fun entry there => two.sent entry (one.sent entry there),
    fun entry there => two.started entry (one.started entry there),fun entry there => ?_⟩
  · rcases one.pending entry there with resumed | ⟨pending,same⟩
    · exact .inl (two.resumed _ resumed)
    · rcases two.pending entry pending with resumed | ⟨pending,again⟩
      · exact .inl resumed
      · exact .inr ⟨pending,again.trans same⟩
  · rcases two.awaited id there with before | asked
    · rcases one.awaited id before with first | none_
      · exact .inl first
      · cases none_
    · exact .inr asked
  · rcases two.fresh entry there with before | new
    · exact one.fresh entry before
    · refine .inr fun old => new ?_
      obtain ⟨first,present,same⟩ := List.mem_map.mp old
      exact List.mem_map.mpr ⟨first,one.sent first present,same⟩

theorem moves_trans {w'' : Runtime} (one : Moves none w w') (two : Moves asking w' w'') : Moves asking w w'' := by
  intro sound
  obtain ⟨middle,first⟩ := one sound
  obtain ⟨last,second⟩ := two middle
  exact ⟨last,advances_trans first second⟩

structure Plain (w w' : Runtime) : Prop where
  pending : w'.pendingResponses = w.pendingResponses
  resumed : w'.resumed = w.resumed
  next : w'.nextContinuation = w.nextContinuation
  active : w'.activeConnection = w.activeConnection
  streams : ∀ requestID ∈ w'.activeStreamingRequestIDs, requestID ∈ w.activeStreamingRequestIDs
  sent : w'.sent = w.sent
  started : w'.started = w.started
  framed : w'.framed = w.framed

theorem moves_plain (plain : Plain w w') : Moves asking w w' := by
  intro sound
  obtain ⟨pending,resumed,next,active,streams,sent,started,framed⟩ := plain
  have same : awaited w' = awaited w := by unfold awaited; rw [pending]
  have ones : resumedOnes w' = resumedOnes w := by unfold resumedOnes; rw [resumed]
  have held : continuations w' = continuations w := by unfold continuations; rw [pending]
  refine ⟨⟨?_,?_,?_,?_,fun id there => ?_,?_,?_⟩,
    ⟨Nat.le_of_eq next.symm,?_,fun entry there => .inr ⟨?_,active⟩,?_,?_,?_,?_⟩⟩
  · rw [same]; exact sound.keys
  · rw [held,ones]; exact sound.once
  · rw [held,ones,next]; exact sound.issued
  · rw [same,sent]; exact sound.asked
  · rw [started,active]; exact sound.streams id (streams id there)
  · rw [framed,started]; exact sound.framed
  · rw [started,sent]; exact sound.sent
  · rw [ones]; exact fun _ there => there
  · rw [pending]; exact there
  · rw [same]; exact fun _ there => .inl there
  · rw [sent]; exact fun _ there => there
  · rw [started]; exact fun _ there => there
  · rw [started]; exact fun _ there => .inl there

theorem moves_fail (w : Runtime) (error : Resumption) : Moves asking w (w.failAllPendingResponses error) := by
  intro sound
  have same : resumedOnes (w.failAllPendingResponses error) = continuations w ++ resumedOnes w := by
    simp [resumedOnes,continuations,Runtime.failAllPendingResponses,Function.comp_def]
  refine ⟨⟨List.nodup_nil,?_,?_,fun _ there => (nomatch there),sound.streams,sound.framed,sound.sent⟩,
    ⟨Nat.le_refl _,fun k there => ?_,fun entry there => .inl ?_,fun _ there => (nomatch there),fun _ there => there,
      fun _ there => there,fun _ there => .inl there⟩⟩
  · rw [same]; exact sound.once
  · rw [same]; exact sound.issued
  · rw [same]; exact List.mem_append_right _ there
  · rw [same]; exact List.mem_append_left _ (List.mem_map_of_mem there)

-- After failAllPendingResponses nothing depends on the connection any more.
theorem moves_change (none_ : w.pendingResponses = []) (connection : Option Nat) :
    Moves asking w {w with activeConnection:=connection,activeStreamingRequestIDs:=[]} := by
  intro sound
  refine ⟨⟨sound.keys,sound.once,sound.issued,sound.asked,fun _ there => (nomatch there),sound.framed,sound.sent⟩,
    ⟨Nat.le_refl _,fun _ there => there,fun entry there => ?_,fun _ there => .inl there,fun _ there => there,
      fun _ there => there,fun _ there => .inl there⟩⟩
  rw [none_] at there
  cases there

theorem moves_lose (w : Runtime) (error : Resumption) : Moves asking w (w.loseConnection error) := by
  have failed : Moves none w (w.failAllPendingResponses error) := moves_fail w error
  have changed : Moves none (w.failAllPendingResponses error)
      {w.failAllPendingResponses error with activeConnection:=none,activeStreamingRequestIDs:=[]} := moves_change rfl none
  exact moves_trans failed (moves_trans changed (moves_plain ⟨rfl,rfl,rfl,rfl,fun _ there => there,rfl,rfl,rfl⟩))

theorem resume_none (missing : w.pendingResponses.lookup requestID = none) : w.resume requestID resumption = w := by
  unfold Runtime.resume
  rw [missing]

theorem resume_some {continuation : Nat} (found : w.pendingResponses.lookup requestID = some continuation) :
    w.resume requestID resumption = {w with
      pendingResponses:=w.pendingResponses.filter fun entry => entry.1 ≠ requestID
      resumed:=(continuation,resumption) :: w.resumed} := by
  unfold Runtime.resume
  rw [found]

theorem moves_resume (w : Runtime) (requestID : String) (resumption : Resumption) :
    Moves asking w (w.resume requestID resumption) := by
  cases found : w.pendingResponses.lookup requestID with
  | none => rw [resume_none found]; exact moves_plain ⟨rfl,rfl,rfl,rfl,fun _ there => there,rfl,rfl,rfl⟩
  | some continuation =>
    rw [resume_some found]
    intro sound
    have perm := (filter_perm sound.keys found).map Prod.snd
    have whole : (continuations w ++ resumedOnes w).Perm
        ((w.pendingResponses.filter fun entry => entry.1 ≠ requestID).map Prod.snd ++ continuation :: resumedOnes w) :=
      (perm.append_right _).trans List.perm_middle.symm
    have fewer : ∀ entry ∈ w.pendingResponses.filter fun entry => entry.1 ≠ requestID, entry ∈ w.pendingResponses :=
      fun entry there => (List.mem_filter.mp there).1
    have keys : ∀ id ∈ (w.pendingResponses.filter fun entry => entry.1 ≠ requestID).map Prod.fst, id ∈ awaited w := by
      intro id there
      obtain ⟨entry,present,same⟩ := List.mem_map.mp there
      exact List.mem_map.mpr ⟨entry,fewer entry present,same⟩
    refine ⟨⟨?_,whole.nodup_iff.mp sound.once,fun k there => sound.issued k (whole.mem_iff.mpr there),
      fun id there => sound.asked id (keys id there),sound.streams,sound.framed,sound.sent⟩,
      ⟨Nat.le_refl _,fun k there => List.mem_cons_of_mem _ there,fun entry there => ?_,fun id there => .inl (keys id there),
        fun _ there => there,fun _ there => there,fun _ there => .inl there⟩⟩
    · exact (List.filter_sublist.map Prod.fst).nodup sound.keys
    · by_cases same : entry.1 = requestID
      · left
        obtain ⟨key,value⟩ := entry
        cases same
        rw [lookup_unique sound.keys there] at found
        cases found
        exact List.mem_cons_self ..
      · exact .inr ⟨List.mem_filter.mpr ⟨there,by simpa using same⟩,rfl⟩

theorem register_filter (fresh : requestID ∉ awaited w) :
    (w.pendingResponses.filter fun entry => entry.1 ≠ requestID) = w.pendingResponses := by
  rw [List.filter_eq_self]
  intro entry there
  have other : entry.1 ≠ requestID := by
    intro same
    exact fresh (List.mem_map.mpr ⟨entry,there,same⟩)
  simpa using other

theorem moves_register (fresh : requestID ∉ awaited w) (sent : requestID ∈ w.sent.map Prod.fst) :
    Moves (some requestID) w (w.register requestID) := by
  intro sound
  unfold Runtime.register
  rw [register_filter fresh]
  have new : w.nextContinuation ∉ continuations w ++ resumedOnes w := fun there => Nat.lt_irrefl _ (sound.issued _ there)
  refine ⟨⟨List.nodup_cons.mpr ⟨fresh,sound.keys⟩,List.nodup_cons.mpr ⟨new,sound.once⟩,fun k there => ?_,fun id there => ?_,
    sound.streams,sound.framed,sound.sent⟩,
    ⟨Nat.le_succ _,fun _ there => there,fun _ there => .inr ⟨List.mem_cons_of_mem _ there,rfl⟩,fun id there => ?_,
      fun _ there => there,fun _ there => there,fun _ there => .inl there⟩⟩
  · rcases List.mem_cons.mp there with rfl | there
    · exact Nat.lt_succ_self _
    · exact Nat.lt_succ_of_lt (sound.issued k there)
  · rcases List.mem_cons.mp there with same | there
    · cases same; exact sent
    · exact sound.asked id there
  · rcases List.mem_cons.mp there with same | there
    · cases same; exact .inr rfl
    · exact .inl there

section Steps
variable {connection listener : Nat}

theorem moves_same (asking : Option String) (w : Runtime) : Moves asking w w :=
  moves_plain ⟨rfl,rfl,rfl,rfl,fun _ there => there,rfl,rfl,rfl⟩

theorem moves_reset (w : Runtime) : Moves asking w w.resetRuntimeState := by
  have lost : Moves none w (w.loseConnection .connectionUnavailable) := moves_lose w _
  exact moves_trans lost (moves_plain ⟨rfl,rfl,rfl,rfl,fun _ there => there,rfl,rfl,rfl⟩)

theorem moves_listen (w : Runtime) (binds : Bool) : Moves asking w (w.startListener binds) := by
  unfold Runtime.startListener
  split
  · exact moves_plain ⟨rfl,rfl,rfl,rfl,fun _ there => there,rfl,rfl,rfl⟩
  · exact moves_same asking w

theorem moves_prepare (w : Runtime) (bootstrap : Bootstrap) (forceRestart recent binds : Bool) :
    Moves asking w (w.prepareBootstrap bootstrap forceRestart recent binds) := by
  unfold Runtime.prepareBootstrap
  split
  · exact moves_same asking w
  · dsimp only
    split
    · exact moves_same asking w
    · split
      · exact moves_same asking w
      · have reset : Moves none w w.resetRuntimeState := moves_reset w
        have noted : Moves none w.resetRuntimeState {w.resetRuntimeState with
          forcedRestart:=w.forcedRestart || forceRestart,bootstrap:=some bootstrap} :=
          moves_plain ⟨rfl,rfl,rfl,rfl,fun _ there => there,rfl,rfl,rfl⟩
        exact moves_trans reset (moves_trans noted (moves_listen _ binds))

theorem moves_listener (w : Runtime) (listener : Nat) (failed : Bool) :
    Moves asking w (w.handleListenerState listener failed) := by
  unfold Runtime.handleListenerState
  have stopped : ∀ {asking}, Moves asking w {w with listener:=none} :=
    moves_plain ⟨rfl,rfl,rfl,rfl,fun _ there => there,rfl,rfl,rfl⟩
  split
  · exact moves_same asking w
  · split
    · exact moves_trans stopped (moves_fail _ _)
    · exact stopped

theorem moves_accept (kept : (w.listener != some listener ||
      w.pendingResponses.isEmpty && w.activeStreamingRequestIDs.isEmpty) = true) :
    Moves asking w (w.acceptConnection listener) := by
  unfold Runtime.acceptConnection
  split
  · exact moves_same asking w
  · rename_i current
    have quiet : w.pendingResponses = [] ∧ w.activeStreamingRequestIDs = [] := by
      simpa [not_not.mp current] using kept
    have changed : Moves none w {w with activeConnection:=some w.nextConnection,activeStreamingRequestIDs:=[]} :=
      moves_change quiet.1 _
    refine moves_trans changed (moves_plain ⟨rfl,rfl,rfl,rfl,fun requestID there => ?_,rfl,rfl,rfl⟩)
    rwa [quiet.2] at there

theorem moves_connection (w : Runtime) (state : ConnectionState) (connection : Nat) :
    Moves asking w (w.handleConnectionState state connection) := by
  unfold Runtime.handleConnectionState
  split
  · exact moves_same asking w
  · cases state
    · exact moves_plain ⟨rfl,rfl,rfl,rfl,fun _ there => there,rfl,rfl,rfl⟩
    · exact moves_lose w _
    · exact moves_lose w _
    · exact moves_same asking w

theorem moves_deliver (w : Runtime) (data : Json) : Moves asking w (w.deliver data) := by
  unfold Runtime.deliver
  split
  · exact moves_same asking w
  · exact moves_resume w _ _

theorem moves_received (w : Runtime) (connection : Nat) (data : Option Json) :
    Moves asking w (w.handleReceivedMessage connection data).1 := by
  unfold Runtime.handleReceivedMessage
  split
  · exact moves_same asking w
  · cases data with
    | none => exact moves_same asking w
    | some data =>
      dsimp only
      split
      · exact moves_deliver w data
      · split
        · exact moves_plain ⟨rfl,rfl,rfl,rfl,fun _ there => there,rfl,rfl,rfl⟩
        · have closed : Moves none w {w with
            handling:=connection :: w.handling,isConnectionAuthenticated:=false,activeStreamingRequestIDs:=[]} :=
            moves_plain ⟨rfl,rfl,rfl,rfl,fun _ there => (nomatch there),rfl,rfl,rfl⟩
          exact moves_trans closed (moves_fail _ _)

theorem moves_answered (w : Runtime) (connection : Nat) (data : Json) (success : Bool) :
    Moves asking w (w.answered connection data success) := by
  unfold Runtime.answered
  dsimp only
  split
  · exact moves_plain ⟨rfl,rfl,rfl,rfl,fun _ there => there,rfl,rfl,rfl⟩
  · have closed : Moves none w {w with
      handling:=w.handling.erase connection,isConnectionAuthenticated:=false,activeStreamingRequestIDs:=[]} :=
      moves_plain ⟨rfl,rfl,rfl,rfl,fun _ there => (nomatch there),rfl,rfl,rfl⟩
    exact moves_trans closed (moves_deliver _ data)

theorem moves_send {sent started framed : List (String × Nat)}
    (asked : ∀ entry ∈ w.sent, entry ∈ sent) (begun : ∀ entry ∈ w.started, entry ∈ started)
    (fresh : ∀ entry ∈ started, entry ∈ w.started ∨ entry.1 ∉ w.sent.map Prod.fst)
    (recorded : ∀ entry ∈ started, entry ∈ w.started ∨ entry ∈ sent)
    (streamed : ∀ entry ∈ framed, entry ∈ w.framed ∨ entry ∈ w.started) :
    Moves asking w {w with sent:=sent,started:=started,framed:=framed} := by
  intro sound
  have kept : ∀ id ∈ w.sent.map Prod.fst, id ∈ sent.map Prod.fst := by
    intro id there
    obtain ⟨entry,present,same⟩ := List.mem_map.mp there
    exact List.mem_map.mpr ⟨entry,asked entry present,same⟩
  refine ⟨⟨sound.keys,sound.once,sound.issued,fun id there => kept id (sound.asked id there),fun id there => ?_,
    fun entry there => ?_,fun entry there => ?_⟩,⟨Nat.le_refl _,fun _ there => there,fun _ there => .inr ⟨there,rfl⟩,
      fun _ there => .inl there,asked,begun,fresh⟩⟩
  · obtain ⟨connection,first,active⟩ := sound.streams id there
    exact ⟨connection,begun _ first,active⟩
  · rcases streamed entry there with before | start
    · exact begun _ (sound.framed entry before)
    · exact begun _ start
  · rcases recorded entry there with before | new
    · exact kept _ (sound.sent entry before)
    · exact List.mem_map_of_mem new

theorem ready_connection (ready : w.readyConnection = some connection) : w.activeConnection = some connection := by
  unfold Runtime.readyConnection at ready
  split at ready
  · exact ready
  · cases ready

theorem started_here (sound : Sound w) (ready : w.readyConnection = some connection)
    (open_ : requestID ∈ w.activeStreamingRequestIDs) : (requestID,connection) ∈ w.started := by
  obtain ⟨other,begun,active⟩ := sound.streams requestID open_
  rw [ready_connection ready] at active
  cases active
  exact begun

theorem sent_off {call : Call} {uuid : String} (fits : Fits w (.waiting call)) (sound : Sound w)
    (kept : keepsConnection w (.waiting call) (.ready uuid) = true) (ready : w.readyConnection = some connection)
    (taken : w.send call uuid connection = some (w',t')) : Moves asking w w' ∧ Fits w' t' ∧ Fresh w t' := by
  unfold Runtime.send at taken
  cases call with
  | sendRequest =>
    dsimp only at taken
    split at taken
    · cases taken
    · rename_i fresh
      cases taken
      refine ⟨moves_send (fun _ there => List.mem_cons_of_mem _ there) (fun _ there => there) (fun _ there => .inl there)
        (fun _ there => .inl there) fun _ there => .inl there,⟨List.mem_cons_self ..,fun there => fresh ?_,
          fun there => fresh (sound.asked uuid there)⟩,fresh⟩
      obtain ⟨entry,begun,same⟩ := List.mem_map.mp there
      rw [← same]
      exact sound.sent entry begun
  | beginStreamingRequest =>
    dsimp only at taken
    split at taken
    · cases taken
    · rename_i fresh
      cases taken
      refine ⟨moves_send (fun _ there => List.mem_cons_of_mem _ there) (fun _ there => List.mem_cons_of_mem _ there)
        (fun entry there => ?_) (fun entry there => ?_) fun _ there => .inl there,List.mem_cons_self ..,trivial⟩
      · rcases List.mem_cons.mp there with same | before
        · cases same; exact .inr fresh
        · exact .inl before
      · rcases List.mem_cons.mp there with same | before
        · cases same; exact .inr (List.mem_cons_self ..)
        · exact .inl before
  | sendStreamingBinaryChunk requestID =>
    cases taken
    have here := started_here sound ready (of_decide_eq_true kept)
    refine ⟨moves_send (fun _ there => there) (fun _ there => there) (fun _ there => .inl there)
      (fun _ there => .inl there) fun entry there => ?_,trivial,trivial⟩
    rcases List.mem_cons.mp there with same | before
    · cases same; exact .inr here
    · exact .inl before
  | finishStreamingRequest requestID =>
    cases taken
    have here := started_here sound ready (of_decide_eq_true kept)
    refine ⟨moves_send (fun _ there => List.mem_cons_of_mem _ there) (fun _ there => there) (fun _ there => .inl there)
      (fun _ there => .inl there) fun entry there => ?_,fits,trivial⟩
    rcases List.mem_cons.mp there with same | before
    · cases same; exact .inr here
    · exact .inl before

theorem awaiting_after {call : Call} (fits : Fits w (.sending call requestID connection)) (sound : Sound w)
    (kept : keepsConnection w (.sending call requestID connection) (.completed true) = true) :
    Moves ((unregistered (.sending call requestID connection)).map Prod.fst) w (w.sentOff call requestID connection).1 ∧
      Fits (w.sentOff call requestID connection).1 (w.sentOff call requestID connection).2 ∧
      Fresh w (w.sentOff call requestID connection).2 := by
  have waits : w.activeConnection = some connection → Fits (w.register requestID)
      (.awaiting requestID w.nextContinuation connection false) := fun active =>
    ⟨Nat.lt_succ_self _,.inr ⟨List.mem_cons_self ..,active⟩⟩
  cases call with
  | sendRequest =>
    obtain ⟨sent,-,fresh⟩ := fits
    exact ⟨moves_register fresh sent,waits (of_decide_eq_true kept),rfl⟩
  | beginStreamingRequest =>
    refine ⟨fun _ => ⟨⟨sound.keys,sound.once,sound.issued,sound.asked,fun id there => ?_,sound.framed,sound.sent⟩,
      ⟨Nat.le_refl _,fun _ there => there,fun _ there => .inr ⟨there,rfl⟩,fun _ there => .inl there,fun _ there => there,
        fun _ there => there,fun _ there => .inl there⟩⟩,trivial,trivial⟩
    rcases List.mem_insert_iff.mp there with same | before
    · cases same; exact ⟨connection,fits,of_decide_eq_true kept⟩
    · exact sound.streams id before
  | sendStreamingBinaryChunk _ => exact ⟨moves_same _ w,trivial,trivial⟩
  | finishStreamingRequest _ =>
    obtain ⟨active,fresh⟩ := (Bool.and_eq_true _ _).mp kept
    obtain ⟨entry,begun,same⟩ := List.mem_map.mp fits
    have sent : requestID ∈ w.sent.map Prod.fst := by rw [← same]; exact sound.sent entry begun
    exact ⟨moves_register (by simpa using fresh) sent,waits (of_decide_eq_true active),rfl⟩

theorem moves_forget (w : Runtime) (requestID : String) :
    Moves asking w {w with activeStreamingRequestIDs:=w.activeStreamingRequestIDs.erase requestID} :=
  moves_plain ⟨rfl,rfl,rfl,rfl,fun _ there => List.mem_of_mem_erase there,rfl,rfl,rfl⟩

theorem received_quiet (w : Runtime) (connection : Nat) (data : Option Json) :
    (w.handleReceivedMessage connection data).2 = .idle ∨
      ∃ data', (w.handleReceivedMessage connection data).2 = .answering connection data' := by
  unfold Runtime.handleReceivedMessage
  split
  · exact .inl rfl
  · cases data with
    | none => exact .inl rfl
    | some data =>
      dsimp only
      split
      · exact .inl rfl
      · split
        · exact .inr ⟨data,rfl⟩
        · exact .inr ⟨data,rfl⟩

theorem step_moves (sound : Sound w) (fits : Fits w t) (kept : keepsConnection w t input = true)
    (taken : stepActivity w t input = some (w',t')) :
    (Sound w' ∧ Advances ((unregistered t).map Prod.fst) w w') ∧ Fits w' t' ∧ Fresh w t' := by
  suffices done : Moves ((unregistered t).map Prod.fst) w w' ∧ Fits w' t' ∧ Fresh w t' from ⟨done.1 sound,done.2⟩
  unfold stepActivity at taken
  split at taken
  · rename_i call
    cases taken
    refine ⟨moves_same _ w,?_⟩
    split
    · cases call with
      | finishStreamingRequest requestID =>
        rename_i enters
        obtain ⟨connection,begun,-⟩ := sound.streams requestID (of_decide_eq_true enters)
        exact ⟨List.mem_map_of_mem begun,trivial⟩
      | sendRequest => exact ⟨trivial,trivial⟩
      | beginStreamingRequest => exact ⟨trivial,trivial⟩
      | sendStreamingBinaryChunk _ => exact ⟨trivial,trivial⟩
    · exact ⟨trivial,trivial⟩
  · cases taken; exact ⟨moves_forget w _,trivial,trivial⟩
  · cases taken; exact ⟨moves_prepare w _ _ _ _,trivial,trivial⟩
  · cases taken; exact ⟨moves_reset w,trivial,trivial⟩
  · cases taken; exact ⟨moves_listener w _ _,trivial,trivial⟩
  · cases taken; exact ⟨moves_accept kept,trivial,trivial⟩
  · cases taken; exact ⟨moves_connection w _ _,trivial,trivial⟩
  · split at taken
    · cases taken
    · rename_i connection data _
      have moved : Moves ((unregistered .idle).map Prod.fst) w (w.handleReceivedMessage connection data).1 :=
        moves_received w connection data
      have calm : Fits (w.handleReceivedMessage connection data).1 (w.handleReceivedMessage connection data).2 ∧
          Fresh w (w.handleReceivedMessage connection data).2 := by
        rcases received_quiet w connection data with idle | ⟨_,answers⟩
        · rw [idle]; exact ⟨trivial,trivial⟩
        · rw [answers]; exact ⟨trivial,trivial⟩
      simp only [Option.some.injEq] at taken
      rw [taken] at moved calm
      exact ⟨moved,calm⟩
  · split at taken
    · cases taken
    · cases taken
      split
      · exact ⟨moves_lose w _,trivial,trivial⟩
      · exact ⟨moves_same _ w,trivial,trivial⟩
  · cases taken; exact ⟨moves_resume w _ _,trivial,trivial⟩
  · obtain ⟨connection,ready,sending⟩ := Option.bind_eq_some_iff.mp taken
    exact sent_off fits sound kept ready sending
  · cases taken; exact ⟨moves_same _ w,trivial,trivial⟩
  · rename_i success
    cases success
    · cases taken
      exact ⟨moves_same _ w,trivial,trivial⟩
    · have done := awaiting_after fits sound kept
      simp only [if_true,Option.some.injEq] at taken
      rw [taken] at done
      exact done
  · split at taken
    · cases taken
      split
      · exact ⟨moves_forget w _,trivial,trivial⟩
      · exact ⟨moves_same _ w,trivial,trivial⟩
    · cases taken
  · cases taken; exact ⟨moves_answered w _ _ _,trivial,trivial⟩
  · cases taken

theorem fits_beside (advances : Advances ((unregistered t).map Prod.fst) w w') (mover : Fits w t) (old : Fits w u)
    (apart : Apart t u) : Fits w' u := by
  have begun : ∀ requestID ∈ w.started.map Prod.fst, requestID ∈ w'.started.map Prod.fst := by
    intro requestID there
    obtain ⟨entry,present,same⟩ := List.mem_map.mp there
    exact List.mem_map.mpr ⟨entry,advances.started entry present,same⟩
  cases u with
  | idle => trivial
  | answering _ _ => trivial
  | awaiting requestID continuation connection streaming =>
    exact ⟨Nat.lt_of_lt_of_le old.1 advances.issued,advances_answerable advances old.2⟩
  | waiting call =>
    cases call with
    | finishStreamingRequest requestID => exact begun requestID old
    | sendRequest => trivial
    | beginStreamingRequest => trivial
    | sendStreamingBinaryChunk _ => trivial
  | sending call requestID connection =>
    cases call with
    | sendStreamingBinaryChunk _ => trivial
    | beginStreamingRequest => exact advances.started _ old
    | finishStreamingRequest _ => exact begun requestID old
    | sendRequest =>
      obtain ⟨sent,unstarted,quiet⟩ := old
      refine ⟨?_,fun there => ?_,fun there => ?_⟩
      · obtain ⟨entry,present,same⟩ := List.mem_map.mp sent
        exact List.mem_map.mpr ⟨entry,advances.sent entry present,same⟩
      · obtain ⟨entry,present,same⟩ := List.mem_map.mp there
        rcases advances.fresh entry present with before | new
        · exact unstarted (List.mem_map.mpr ⟨entry,before,same⟩)
        · rw [same] at new
          exact new sent
      · rcases advances.awaited requestID there with before | asked
        · exact quiet before
        · -- The one that registered is another request, or the completion of a stream.
          obtain ⟨⟨other,_⟩,moved,same⟩ := Option.map_eq_some_iff.mp asked
          cases same
          unfold unregistered at moved
          split at moved
          · cases moved
            exact apart rfl
          · cases moved
            exact unstarted mover
          · cases moved

theorem apart_symm (apart : Apart t u) : Apart u t := by
  unfold Apart at apart ⊢
  split at apart
  · exact Ne.symm apart
  · exact Ne.symm apart
  · rename_i first second
    split
    · exact absurd rfl (first _ _ _ _ _ _ _ _ rfl)
    · exact absurd rfl (second _ _ _ _ rfl)
    · trivial

theorem fresh_apart (fresh : Fresh w t') (old : Fits w u) : Apart t' u := by
  unfold Apart
  split
  · exact fun same => Nat.lt_irrefl _ (Nat.lt_of_lt_of_eq old.1 (same ▸ fresh).symm)
  · rename_i one _ other _
    intro same
    subst same
    exact fresh old.1
  · trivial

end Steps

section Runs
variable {Index : Type} {s next : Pool Index Runtime Activity}

def sureties : Assertions Runtime Activity where
  world := Sound
  thread := Fits
  pair := Apart

theorem stable : @Stable _ _ Input Unit sureties stepActivity (fun _ _ => none) orderly where
  own world fits kept taken := by
    obtain ⟨⟨sound',-⟩,fits',-⟩ := step_moves world fits kept taken
    exact ⟨sound',fits'⟩
  other world mover old apart _ kept _ taken := by
    obtain ⟨⟨-,advances⟩,-,fresh⟩ := step_moves world mover kept taken
    have new := fresh_apart fresh old
    exact ⟨fits_beside advances mover old apart,new,apart_symm new⟩
  eventWorld _ taken := nomatch taken
  eventThread _ _ _ taken := nomatch taken

theorem launched_holds : sureties.Hold (launched : Pool Index Runtime Activity) where
  world := ⟨List.nodup_nil,List.nodup_nil,fun _ there => (nomatch there),fun _ there => (nomatch there),
    fun _ there => (nomatch there),fun _ there => (nomatch there),fun _ there => (nomatch there)⟩
  thread _ := trivial
  pair _ _ _ := trivial

def Unanswered (w : Runtime) (t : Activity) (requestID : String) (connection : Nat) : Prop :=
  unregistered t = some (requestID,connection) ∨
    ∃ continuation streaming, t = .awaiting requestID continuation connection streaming ∧ continuation ∉ resumedOnes w

theorem resume_pending {continuation : Nat} (sound : Sound w) (there : (requestID,continuation) ∈ w.pendingResponses) :
    (w.resume requestID resumption).resumed = (continuation,resumption) :: w.resumed := by
  rw [resume_some (lookup_unique sound.keys there)]

theorem resumed_once {continuation connection : Nat} (sound : Sound w)
    (answerable : Answerable w requestID continuation connection) :
    (resumedOnes w).count continuation = 1 ∨ (resumedOnes w).count continuation = 0 ∧
      (requestID,continuation) ∈ w.pendingResponses ∧ w.activeConnection = some connection := by
  obtain ⟨-,ones,apart⟩ := List.nodup_append.mp sound.once
  rcases answerable with resumed | ⟨pending,active⟩
  · exact .inl (List.count_eq_one_of_mem ones resumed)
  · have waits : continuation ∈ continuations w := List.mem_map_of_mem pending
    have missing : continuation ∉ resumedOnes w := fun there => apart _ waits _ there rfl
    exact .inr ⟨List.count_eq_zero_of_not_mem missing,pending,active⟩

theorem unanswered_pending {continuation connection : Nat}
    (answerable : Answerable w requestID continuation connection) (missing : continuation ∉ resumedOnes w) :
    (requestID,continuation) ∈ w.pendingResponses := by
  rcases answerable with resumed | ⟨pending,-⟩
  · exact absurd resumed missing
  · exact pending

theorem received_answer {connection : Nat} {data : Json} {response : RuntimeResponse}
    (active : w.activeConnection = some connection) (answer : answerOf data = some (requestID,response)) :
    (w.handleReceivedMessage connection (some data)).1 = w.resume requestID (.returning response) := by
  unfold answerOf at answer
  split at answer
  · cases answer
  · rename_i other
    have plain : desktopAuthChallenge data = none := by simpa using other
    unfold Runtime.handleReceivedMessage Runtime.deliver
    rw [if_neg (not_not.mpr active)]
    dsimp only
    rw [plain,answer]

theorem received_parts {connection : Nat} {data : Option Json}
    (taken : stepActivity w t (.received connection data) = some (w',t')) :
    t = .idle ∧ w.handleReceivedMessage connection data = (w',t') := by
  cases t with
  | idle =>
    simp only [stepActivity] at taken
    split at taken
    · cases taken
    · exact ⟨rfl,by simpa using taken⟩
  | waiting _ => cases taken
  | sending _ _ _ => cases taken
  | awaiting _ _ _ _ => cases taken
  | answering _ _ => cases taken

theorem timeout_parts (taken : stepActivity w t (.timeoutPendingResponse requestID) = some (w',t')) :
    w' = w.resume requestID .responseTimedOut := by
  cases t with
  | idle => cases taken; rfl
  | waiting _ => cases taken
  | sending _ _ _ => cases taken
  | awaiting _ _ _ _ => cases taken
  | answering _ _ => cases taken

variable [DecidableEq Index]

theorem calls_answered (reached : Reaches runtimeCalls orderly.Admits launched s) :
    (∀ i requestID continuation connection streaming,
      s.threads i = .awaiting requestID continuation connection streaming →
        (resumedOnes s.world).count continuation = 1 ∨ (resumedOnes s.world).count continuation = 0 ∧
          (requestID,continuation) ∈ s.world.pendingResponses ∧ s.world.activeConnection = some connection) ∧
    (∀ i j, i ≠ j → Apart (s.threads i) (s.threads j)) ∧
    (∀ entry ∈ s.world.framed, entry ∈ s.world.started) ∧
    (∀ i j connection data requestID response next, s.world.activeConnection = some connection →
      Unanswered s.world (s.threads j) requestID connection → answerOf data = some (requestID,response) →
      orderly.Admits s (.thread i (.received connection (some data))) →
      runtimeCalls.step s (.thread i (.received connection (some data))) = some next →
        ∃ continuation streaming, s.threads j = .awaiting requestID continuation connection streaming ∧
          next.world.resumed = (continuation,.returning response) :: s.world.resumed) ∧
    ∀ i j requestID continuation connection streaming next,
      s.threads j = .awaiting requestID continuation connection streaming → continuation ∉ resumedOnes s.world →
      runtimeCalls.step s (.thread i (.timeoutPendingResponse requestID)) = some next →
        next.world.resumed = (continuation,.responseTimedOut) :: s.world.resumed := by
  have holds : sureties.Hold s := hold_reaches stable launched_holds reached
  have sound : Sound s.world := holds.world
  have fits : ∀ i, Fits s.world (s.threads i) := holds.thread
  refine ⟨fun i requestID continuation connection streaming at_ => ?_,holds.pair,sound.framed,
    fun i j connection data requestID response next active unanswered answer allowed taken => ?_,
    fun i j requestID continuation connection streaming next at_ missing taken => ?_⟩
  · have mine := fits i
    rw [at_] at mine
    exact resumed_once sound mine.2
  · obtain ⟨world',thread',moved,rfl⟩ := thread_parts taken
    obtain ⟨idle,handled⟩ := received_parts moved
    rcases unanswered with early | ⟨continuation,streaming,at_,missing⟩
    · -- The condition keeps the answer back until the caller has registered.
      have other : j ≠ i := by
        intro same
        subst same
        rw [idle] at early
        cases early
      have later := allowed.2 j other
      rw [idle] at later
      simp [orderly,afterRegistration,answer,early] at later
    · have mine := fits j
      rw [at_] at mine
      refine ⟨continuation,streaming,at_,?_⟩
      have delivered := received_answer active answer
      rw [handled] at delivered
      change world'.resumed = _
      rw [show world' = s.world.resume requestID (.returning response) from delivered]
      exact resume_pending sound (unanswered_pending mine.2 missing)
  · obtain ⟨world',thread',moved,rfl⟩ := thread_parts taken
    have mine := fits j
    rw [at_] at mine
    change world'.resumed = _
    rw [timeout_parts moved]
    exact resume_pending sound (unanswered_pending mine.2 missing)

instance (w : Runtime) (t : Activity) (input : Input) : Decidable (orderly.own w t input) :=
  inferInstanceAs (Decidable (keepsConnection w t input = true))

instance (w : Runtime) (t : Activity) (input : Input) (other : Activity) : Decidable (orderly.beside w t input other) :=
  inferInstanceAs (Decidable (afterRegistration t input other = true))

instance (w : Runtime) (event : Unit) (other : Activity) : Decidable (orderly.event w event other) :=
  inferInstanceAs (Decidable True)

def challenge : Json := .object [("schema",.string transportSchema),("operation",.string authChallengeOperation),
  ("request_id",.string "challenge"),("body",.object [("sid",.string "session"),("rand",.string "rand")])]

def answer : Json := .object [("schema",.string transportSchema),("request_id",.string "request"),("status_code",.int 200)]

def connects : List (Move (Fin 2) Input Unit) :=
  [.prepareBootstrap ⟨"session","passcode",5000⟩ false false true,.acceptConnection 0,.connectionState .ready 0,
    .received 0 (some challenge),.completed true].map (.thread 1)

def sends : List (Move (Fin 2) Input Unit) := [.call .sendRequest,.ready "request"].map (.thread 0)

def awaits (continuation : Nat) : Activity → Bool
  | .awaiting "request" k 0 false => k = continuation
  | _ => false

theorem awaits_shape {continuation : Nat} (at_ : awaits continuation t = true) :
    t = .awaiting "request" continuation 0 false := by
  unfold awaits at at_
  split at at_
  · rw [of_decide_eq_true at_]
  · cases at_

def inTime (s : Pool (Fin 2) Runtime Activity) : Bool :=
  awaits 0 (s.threads 0) && decide (s.world.activeConnection = some 0) && s.world.resumed.isEmpty &&
    decide (orderly.Admits s (.thread 1 (.received 0 (some answer)))) &&
      (runtimeCalls.step s (.thread 1 (.received 0 (some answer)))).isSome

theorem request_answered : ∃ s next : Pool (Fin 2) Runtime Activity,
    runtimeCalls.step s (.thread 1 (.received 0 (some answer))) = some next ∧
      ∃ continuation streaming, s.threads 0 = .awaiting "request" continuation 0 streaming ∧
        next.world.resumed = (continuation,.returning ⟨200,[]⟩) :: s.world.resumed := by
  obtain ⟨s,path,seen⟩ := checkedRun_exhibits (@runtimeCalls (Fin 2) _) orderly.Admits launched
    (connects ++ sends ++ [.thread 0 (.completed true)]) inTime (by decide +kernel)
  simp only [inTime,Bool.and_eq_true,decide_eq_true_eq,List.isEmpty_iff] at seen
  obtain ⟨⟨⟨⟨waits,active⟩,quiet⟩,allowed⟩,taken⟩ := seen
  obtain ⟨next,taken⟩ := Option.isSome_iff_exists.mp taken
  have unanswered : Unanswered s.world (s.threads 0) "request" 0 :=
    .inr ⟨0,false,awaits_shape waits,by simp [resumedOnes,quiet]⟩
  obtain ⟨-,-,-,answered,-⟩ := calls_answered path
  exact ⟨s,next,taken,answered 1 0 0 answer "request" ⟨200,[]⟩ next active unanswered rfl allowed taken⟩

def early (s : Pool (Fin 2) Runtime Activity) : Bool :=
  decide (unregistered (s.threads 0) = some ("request",0)) && decide (s.world.activeConnection = some 0) &&
    (runtimeCalls.step s (.thread 1 (.received 0 (some answer)))).any fun next => next.world.resumed.isEmpty

theorem answer_lost : ∃ s next : Pool (Fin 2) Runtime Activity, Reachable runtimeCalls launched s ∧
    s.world.activeConnection = some 0 ∧ Unanswered s.world (s.threads 0) "request" 0 ∧
      answerOf answer = some ("request",⟨200,[]⟩) ∧
      runtimeCalls.step s (.thread 1 (.received 0 (some answer))) = some next ∧ next.world.resumed = [] := by
  obtain ⟨s,path,seen⟩ := checkedRun_exhibits (@runtimeCalls (Fin 2) _) (fun _ _ => True) launched
    (connects ++ sends) early (by decide +kernel)
  simp only [early,Bool.and_eq_true,decide_eq_true_eq] at seen
  obtain ⟨⟨sending,active⟩,handled⟩ := seen
  obtain ⟨next,taken,nobody⟩ := (Option.any_eq_true _ _).mp handled
  exact ⟨s,next,path,active,.inl sending,rfl,taken,List.isEmpty_iff.mp nobody⟩

end Runs

end ImageSearch.AnsweredCalls
