import ImageSearch.SignallingRooms

namespace ImageSearch.RelaySeats
open Payload SignallingRooms

variable {s s' : Relay} {ws id : Nat} {socket : Socket} {timer : Timer}

-- Sockets and timers belong to the rooms they were made for, an open socket sits in its place,
-- and a room in the map has somebody in it or a timer to come.
structure Seats (s : Relay) : Prop where
  sockets : ∀ ws socket, s.sockets ws = some socket →
    ws < s.allocated ∧ socket.room < s.allocated ∧ (s.objects socket.room).sid = socket.sid
  rooms : ∀ sid room, s.rooms sid = some room → room < s.allocated ∧ (s.objects room).sid = sid
  slots : ∀ room role ws, (s.objects room).slot role = some ws →
    ∃ socket, s.sockets ws = some socket ∧ socket.room = room ∧ socket.role = role ∧ socket.readyState ≠ .closed
  timers : ∀ id timer, s.timers id = some timer →
    id < s.allocated ∧ timer.room < s.allocated ∧ (s.objects timer.room).sid = timer.sid
  armed : ∀ room role id, (s.objects room).reconnectTimer role = some id →
    id < s.allocated ∧ ∀ timer, s.timers id = some timer → timer.room = room
  seated : ∀ ws socket, s.sockets ws = some socket → socket.readyState = .opened →
    s.rooms socket.sid = some socket.room ∧ (s.objects socket.room).slot socket.role = some ws
  kept : ∀ sid room, s.rooms sid = some room →
    (∃ role, (s.objects room).slot role ≠ none) ∨ ∃ id timer, s.timers id = some timer ∧ timer.room = room

theorem empty_seats : Seats emptyRelay := by
  refine ⟨?_,?_,?_,?_,?_,?_,?_⟩
  · intro ws socket none
    cases none
  · intro sid room none
    cases none
  · intro room role ws none
    cases none
  · intro id timer none
    cases none
  · intro room role id none
    cases none
  · intro ws socket none
    cases none
  · intro sid room none
    cases none

structure Alike (s s' : Relay) : Prop where
  rooms : s'.rooms = s.rooms
  timers : s'.timers = s.timers
  allocated : s'.allocated = s.allocated
  sid : ∀ room, (s'.objects room).sid = (s.objects room).sid
  slot : ∀ room, (s'.objects room).slot = (s.objects room).slot
  reconnectTimer : ∀ room, (s'.objects room).reconnectTimer = (s.objects room).reconnectTimer
  forth : ∀ ws socket, s.sockets ws = some socket → ∃ socket', s'.sockets ws = some socket' ∧
    socket'.sid = socket.sid ∧ socket'.role = socket.role ∧ socket'.room = socket.room ∧ socket'.readyState = socket.readyState
  back : ∀ ws socket', s'.sockets ws = some socket' → ∃ socket, s.sockets ws = some socket ∧
    socket'.sid = socket.sid ∧ socket'.role = socket.role ∧ socket'.room = socket.room ∧ socket'.readyState = socket.readyState

theorem alike_seats (seats : Seats s) (alike : Alike s s') : Seats s' := by
  refine ⟨?_,?_,?_,?_,?_,?_,?_⟩
  · intro ws socket' here
    obtain ⟨socket,there,sid,-,room,-⟩ := alike.back ws socket' here
    rw [alike.allocated,alike.sid,sid,room]
    exact seats.sockets ws socket there
  · intro sid room here
    rw [alike.allocated,alike.sid]
    exact seats.rooms sid room (alike.rooms ▸ here)
  · intro room role ws here
    rw [alike.slot] at here
    obtain ⟨socket,there,inRoom,inRole,alive⟩ := seats.slots room role ws here
    obtain ⟨socket',here',-,sameRole,sameRoom,sameState⟩ := alike.forth ws socket there
    exact ⟨socket',here',sameRoom.trans inRoom,sameRole.trans inRole,by rwa [sameState]⟩
  · intro id timer here
    rw [alike.allocated,alike.sid]
    exact seats.timers id timer (alike.timers ▸ here)
  · intro room role id here
    rw [alike.reconnectTimer] at here
    rw [alike.allocated,alike.timers]
    exact seats.armed room role id here
  · intro ws socket' here opened
    obtain ⟨socket,there,sid,role,room,state⟩ := alike.back ws socket' here
    rw [alike.rooms,alike.slot,sid,room,role]
    exact seats.seated ws socket there (state ▸ opened)
  · intro sid room here
    rw [alike.slot,alike.timers]
    exact seats.kept sid room (alike.rooms ▸ here)

theorem alike_same (rooms : s'.rooms = s.rooms) (timers : s'.timers = s.timers) (allocated : s'.allocated = s.allocated)
    (sockets : s'.sockets = s.sockets) (objects : ∀ room, (s'.objects room).sid = (s.objects room).sid ∧
      (s'.objects room).slot = (s.objects room).slot ∧ (s'.objects room).reconnectTimer = (s.objects room).reconnectTimer) :
    Alike s s' := by
  refine ⟨rooms,timers,allocated,fun room => (objects room).1,fun room => (objects room).2.1,fun room => (objects room).2.2,?_,?_⟩
  · intro ws socket here
    exact ⟨socket,sockets ▸ here,rfl,rfl,rfl,rfl⟩
  · intro ws socket here
    exact ⟨socket,sockets ▸ here,rfl,rfl,rfl,rfl⟩

theorem send_alike (text : Text) : Alike s (s.send ws text) :=
  alike_same send_rooms send_timers send_allocated send_sockets fun room => by simp

theorem join_alike (here : s.sockets ws = some socket) : Alike s (join s ws socket) := by
  unfold join
  dsimp only
  split
  · exact send_alike _
  · rw [flush_state]
    refine ⟨send_rooms,send_timers,send_allocated,?_,?_,?_,?_,?_⟩
    · simp [Relay.setSocket]
    · simp [Relay.setSocket]
    · simp [Relay.setSocket]
    · intro other socket' there
      by_cases same : other = ws
      · subst other
        rw [here] at there
        cases there
        exact ⟨{socket with joinFlushed:=true},by simp [Relay.setSocket],rfl,rfl,rfl,rfl⟩
      · exact ⟨socket',by simp [Relay.setSocket,Function.update_of_ne same,there],rfl,rfl,rfl,rfl⟩
    · intro other socket' there
      by_cases same : other = ws
      · subst other
        simp only [Relay.setSocket,Function.update_self,Option.some.injEq] at there
        subst there
        exact ⟨socket,here,rfl,rfl,rfl,rfl⟩
      · simp only [Relay.setSocket,Function.update_of_ne same,send_sockets] at there
        exact ⟨socket',there,rfl,rfl,rfl,rfl⟩

theorem signal_alike (raw : String) : Alike s (relaySignal s socket raw) := by
  unfold relaySignal
  dsimp only
  split
  · refine alike_same send_rooms send_timers send_allocated send_sockets fun room => ?_
    rw [send_objects]
    exact ⟨rfl,rfl,rfl⟩
  · refine alike_same rfl rfl rfl rfl fun room => ?_
    unfold Relay.setObject
    dsimp only
    by_cases same : room = socket.room
    · subst room
      rw [Function.update_self]
      exact ⟨rfl,rfl,rfl⟩
    · rw [Function.update_of_ne same]
      exact ⟨rfl,rfl,rfl⟩

theorem alike_refl : Alike s s := alike_same rfl rfl rfl rfl fun _ => ⟨rfl,rfl,rfl⟩

theorem receive_alike (here : s.sockets ws = some socket) (msg : Json) (raw : String) : Alike s (receive s ws socket msg raw) := by
  unfold receive
  split
  · exact join_alike here
  · split
    · exact signal_alike raw
    · split
      · unfold relayAnswer
        split
        · exact send_alike _
        · exact alike_refl
      · exact alike_refl

section Admission
variable {sid : String} {role : Role}

theorem clear_some {timers : Nat → Option Timer} {cleared : Option Nat} (here : clearTimeout timers cleared id = some timer) :
    timers id = some timer ∧ cleared ≠ some id := by
  cases cleared with
  | none => exact ⟨here,fun none => by cases none⟩
  | some other =>
      dsimp only [clearTimeout,Option.elim_some] at here
      by_cases same : id = other
      · subst other
        rw [Function.update_self] at here
        cases here
      · rw [Function.update_of_ne same] at here
        exact ⟨here,fun equal => same (Option.some.inj equal).symm⟩

theorem clear_keeps {timers : Nat → Option Timer} {cleared : Option Nat} (here : timers id = some timer) (other : cleared ≠ some id) :
    clearTimeout timers cleared id = some timer := by
  cases cleared with
  | none => exact here
  | some cleared =>
      dsimp only [clearTimeout,Option.elim_some]
      rwa [Function.update_of_ne fun same => other (congrArg some same.symm)]

-- The room that a socket is admitted to: the one in the map or a new one.
structure Chosen (s : Relay) (sid : String) (room : Nat) (object : Room) : Prop where
  named : object.sid = sid
  bound : room ≤ s.allocated
  same : room < s.allocated → s.objects room = object ∧ s.rooms sid = some room
  only : ∀ other, s.rooms sid = some other → other = room
  slots : ∀ role ws, object.slot role = some ws →
    ∃ socket, s.sockets ws = some socket ∧ socket.room = room ∧ socket.role = role ∧ socket.readyState ≠ .closed
  armed : ∀ role id, object.reconnectTimer role = some id → id < s.allocated ∧ ∀ timer, s.timers id = some timer → timer.room = room

theorem admit_chosen (seats : Seats s) : Chosen s sid ((s.rooms sid).getD s.allocated) ((s.rooms sid).elim {sid} s.objects) := by
  cases mapped : s.rooms sid with
  | none =>
      refine ⟨rfl,Nat.le_refl _,fun below => absurd below (Nat.lt_irrefl _),?_,?_,?_⟩
      · intro other here
        rw [mapped] at here
        cases here
      · intro role ws none
        cases none
      · intro role id none
        cases none
  | some room =>
      obtain ⟨below,named⟩ := seats.rooms sid room mapped
      refine ⟨named,Nat.le_of_lt below,fun _ => ⟨rfl,mapped⟩,?_,seats.slots room,seats.armed room⟩
      intro other here
      rw [mapped] at here
      exact (Option.some.inj here).symm

def seat (s : Relay) (sid : String) (role : Role) (room : Nat) (object : Room) : Relay := {s with
  rooms:=Function.update s.rooms sid (some room)
  objects:=Function.update s.objects room {object with
    slot:=Function.update object.slot role (some s.allocated)
    reconnectTimer:=Function.update object.reconnectTimer role none}
  sockets:=Function.update s.sockets s.allocated (some ⟨sid,role,room,.opened,false⟩)
  timers:=clearTimeout s.timers (object.reconnectTimer role)
  allocated:=s.allocated + 1}

variable {room : Nat} {object : Room}

theorem seat_other {other : Nat} (different : other ≠ room) : (seat s sid role room object).objects other = s.objects other :=
  Function.update_of_ne different _ _

theorem seat_here : (seat s sid role room object).objects room = {object with
    slot:=Function.update object.slot role (some s.allocated)
    reconnectTimer:=Function.update object.reconnectTimer role none} := Function.update_self ..

theorem seat_named (chosen : Chosen s sid room object) {other : Nat} (below : other < s.allocated) :
    ((seat s sid role room object).objects other).sid = (s.objects other).sid := by
  by_cases same : other = room
  · subst other
    rw [seat_here,(chosen.same below).1]
  · rw [seat_other same]

theorem seat_sockets {socket : Socket} (here : (seat s sid role room object).sockets ws = some socket) :
    ws = s.allocated ∧ socket = ⟨sid,role,room,.opened,false⟩ ∨ ws ≠ s.allocated ∧ s.sockets ws = some socket := by
  by_cases same : ws = s.allocated
  · subst ws
    unfold seat at here
    dsimp only at here
    rw [Function.update_self] at here
    exact .inl ⟨rfl,(Option.some.inj here).symm⟩
  · exact .inr ⟨same,(Function.update_of_ne same _ _).symm.trans here⟩

theorem seat_old (seats : Seats s) {socket : Socket} (here : s.sockets ws = some socket) :
    (seat s sid role room object).sockets ws = some socket := by
  have different : ws ≠ s.allocated := Nat.ne_of_lt (seats.sockets ws socket here).1
  exact (Function.update_of_ne different _ _).trans here

theorem seat_seats (seats : Seats s) (chosen : Chosen s sid room object) (free : (object.slot role).any s.isOpen = false) :
    Seats (seat s sid role room object) := by
  have bound : room < s.allocated + 1 := Nat.lt_succ_of_le chosen.bound
  refine ⟨?_,?_,?_,?_,?_,?_,?_⟩
  · intro ws socket here
    rcases seat_sockets here with ⟨rfl,rfl⟩ | ⟨-,here⟩
    · refine ⟨Nat.lt_succ_self _,bound,?_⟩
      rw [seat_here]
      exact chosen.named
    · obtain ⟨ws_below,room_below,named⟩ := seats.sockets ws socket here
      refine ⟨Nat.lt_succ_of_lt ws_below,Nat.lt_succ_of_lt room_below,?_⟩
      rw [seat_named chosen room_below,named]
  · intro name other here
    by_cases same : name = sid
    · subst name
      cases (Function.update_self ..).symm.trans here
      refine ⟨bound,?_⟩
      rw [seat_here]
      exact chosen.named
    · obtain ⟨below,named⟩ := seats.rooms name other ((Function.update_of_ne same _ _).symm.trans here)
      refine ⟨Nat.lt_succ_of_lt below,?_⟩
      rw [seat_named chosen below,named]
  · intro other other_role ws here
    by_cases same : other = room
    · subst other
      rw [seat_here] at here
      dsimp only at here
      by_cases same_role : other_role = role
      · subst other_role
        rw [Function.update_self] at here
        cases here
        refine ⟨⟨sid,role,room,.opened,false⟩,Function.update_self ..,rfl,rfl,?_⟩
        intro closed
        cases closed
      · rw [Function.update_of_ne same_role] at here
        obtain ⟨socket,there,facts⟩ := chosen.slots other_role ws here
        exact ⟨socket,seat_old seats there,facts⟩
    · rw [seat_other same] at here
      obtain ⟨socket,there,facts⟩ := seats.slots other other_role ws here
      exact ⟨socket,seat_old seats there,facts⟩
  · intro id timer here
    obtain ⟨id_below,room_below,named⟩ := seats.timers id timer (clear_some here).1
    refine ⟨Nat.lt_succ_of_lt id_below,Nat.lt_succ_of_lt room_below,?_⟩
    rw [seat_named chosen room_below,named]
  · intro other other_role id here
    by_cases same : other = room
    · subst other
      rw [seat_here] at here
      dsimp only at here
      by_cases same_role : other_role = role
      · subst other_role
        rw [Function.update_self] at here
        cases here
      · rw [Function.update_of_ne same_role] at here
        obtain ⟨below,owned⟩ := chosen.armed other_role id here
        exact ⟨Nat.lt_succ_of_lt below,fun timer pending => owned timer (clear_some pending).1⟩
    · rw [seat_other same] at here
      obtain ⟨below,owned⟩ := seats.armed other other_role id here
      exact ⟨Nat.lt_succ_of_lt below,fun timer pending => owned timer (clear_some pending).1⟩
  · intro ws socket here opened
    rcases seat_sockets here with ⟨rfl,rfl⟩ | ⟨-,here⟩
    · refine ⟨Function.update_self ..,?_⟩
      rw [seat_here]
      exact Function.update_self ..
    · obtain ⟨mapped,slot⟩ := seats.seated ws socket here opened
      have below := (seats.sockets ws socket here).2.1
      constructor
      · by_cases same : socket.sid = sid
        · rw [same] at mapped ⊢
          rw [chosen.only _ mapped]
          exact Function.update_self ..
        · exact (Function.update_of_ne same _ _).trans mapped
      · by_cases same : socket.room = room
        · rw [same] at below slot ⊢
          rw [(chosen.same below).1] at slot
          rw [seat_here]
          dsimp only
          have different : socket.role ≠ role := by
            intro same_role
            rw [same_role] at slot
            rw [slot,Option.any_some,Bool.eq_false_iff] at free
            exact free (open_parts.mpr ⟨socket,here,opened⟩)
          rwa [Function.update_of_ne different]
        · rwa [seat_other same]
  · intro name other here
    by_cases same : name = sid
    · subst name
      cases (Function.update_self ..).symm.trans here
      refine .inl ⟨role,?_⟩
      rw [seat_here]
      dsimp only
      rw [Function.update_self]
      exact Option.some_ne_none _
    · replace here := (Function.update_of_ne same _ _).symm.trans here
      obtain ⟨below,named⟩ := seats.rooms name other here
      have different : other ≠ room := by
        rintro rfl
        rw [(chosen.same below).1,chosen.named] at named
        exact same named.symm
      rw [seat_other different]
      refine (seats.kept name other here).imp id ?_
      rintro ⟨id,timer,pending,mine⟩
      refine ⟨id,timer,clear_keeps pending ?_,mine⟩
      intro cleared
      exact different (mine.symm.trans ((chosen.armed role id cleared).2 timer pending))

theorem admit_cases (s : Relay) (sid : String) (role : Role) :
    takeSeat s sid role = s ∨ (((s.rooms sid).elim {sid} s.objects).slot role).any s.isOpen = false ∧
      takeSeat s sid role = seat s sid role ((s.rooms sid).getD s.allocated) ((s.rooms sid).elim {sid} s.objects) := by
  unfold takeSeat
  dsimp only
  split
  · exact .inl rfl
  · rename_i free
    exact .inr ⟨Bool.eq_false_iff.mpr free,rfl⟩

theorem connect_cases (s : Relay) (given givenRole : Option String) :
    connect s given givenRole = s ∨ ∃ sid role, connect s given givenRole = takeSeat s sid role := by
  unfold connect
  split
  · split
    · exact .inl rfl
    · exact .inr ⟨_,_,rfl⟩
  · exact .inl rfl

theorem connect_seats (seats : Seats s) (given givenRole : Option String) : Seats (connect s given givenRole) := by
  rcases connect_cases s given givenRole with same | ⟨sid,role,admitted⟩
  · rwa [same]
  · rw [admitted]
    rcases admit_cases s sid role with same | ⟨free,seated⟩
    · rwa [same]
    · rw [seated]
      exact seat_seats seats (admit_chosen seats) free

end Admission

theorem closing_seats (seats : Seats s) (here : s.sockets ws = some socket) :
    Seats (s.setSocket ws {socket with readyState:=.closing}) := by
  have parts : ∀ other socket', (s.setSocket ws {socket with readyState:=.closing}).sockets other = some socket' →
      other = ws ∧ socket' = {socket with readyState:=.closing} ∨ other ≠ ws ∧ s.sockets other = some socket' := by
    intro other socket' there
    unfold Relay.setSocket at there
    dsimp only at there
    by_cases same : other = ws
    · subst other
      rw [Function.update_self] at there
      exact .inl ⟨rfl,(Option.some.inj there).symm⟩
    · rw [Function.update_of_ne same] at there
      exact .inr ⟨same,there⟩
  refine ⟨?_,seats.rooms,?_,seats.timers,seats.armed,?_,seats.kept⟩
  · intro other socket' there
    rcases parts other socket' there with ⟨rfl,rfl⟩ | ⟨-,there⟩
    · exact seats.sockets other socket here
    · exact seats.sockets other socket' there
  · intro room role other slot
    obtain ⟨socket',there,inRoom,inRole,alive⟩ := seats.slots room role other slot
    unfold Relay.setSocket
    dsimp only
    by_cases same : other = ws
    · subst other
      rw [here] at there
      cases there
      rw [Function.update_self]
      exact ⟨_,rfl,inRoom,inRole,fun closed => by cases closed⟩
    · rw [Function.update_of_ne same]
      exact ⟨socket',there,inRoom,inRole,alive⟩
  · intro other socket' there opened'
    rcases parts other socket' there with ⟨rfl,rfl⟩ | ⟨-,there⟩
    · cases opened'
    · exact seats.seated other socket' there opened'

theorem close_object {room : Nat} (different : room ≠ socket.room) : (onClose s ws socket).objects room = s.objects room :=
  Function.update_of_ne different _ _

theorem close_here : (onClose s ws socket).objects socket.room = {s.objects socket.room with
    slot:=Function.update (s.objects socket.room).slot socket.role none
    reconnectTimer:=Function.update (s.objects socket.room).reconnectTimer socket.role (some s.allocated)} := Function.update_self ..

theorem close_named (room : Nat) : ((onClose s ws socket).objects room).sid = (s.objects room).sid := by
  by_cases same : room = socket.room
  · subst room
    rw [close_here]
  · rw [close_object same]

theorem close_sockets {other : Nat} {socket' : Socket} (there : (onClose s ws socket).sockets other = some socket') :
    other = ws ∧ socket' = {socket with readyState:=.closed} ∨ other ≠ ws ∧ s.sockets other = some socket' := by
  unfold onClose at there
  dsimp only at there
  by_cases same : other = ws
  · subst other
    rw [Function.update_self] at there
    exact .inl ⟨rfl,(Option.some.inj there).symm⟩
  · rw [Function.update_of_ne same] at there
    exact .inr ⟨same,there⟩

theorem close_timers (there : (onClose s ws socket).timers id = some timer) :
    id = s.allocated ∧ timer = ⟨socket.room,socket.sid,socket.role⟩ ∨ id ≠ s.allocated ∧ s.timers id = some timer := by
  unfold onClose at there
  dsimp only at there
  by_cases same : id = s.allocated
  · subst id
    rw [Function.update_self] at there
    exact .inl ⟨rfl,(Option.some.inj there).symm⟩
  · rw [Function.update_of_ne same] at there
    exact .inr ⟨same,there⟩

theorem close_seats (seats : Seats s) (here : s.sockets ws = some socket)
    (place : ((s.objects socket.room).slot socket.role).all (fun other => other = ws || !s.isOpen other) = true) :
    Seats (onClose s ws socket) := by
  obtain ⟨ws_below,room_below,named⟩ := seats.sockets ws socket here
  refine ⟨?_,?_,?_,?_,?_,?_,?_⟩
  · intro other socket' there
    rw [close_named]
    rcases close_sockets there with ⟨rfl,rfl⟩ | ⟨-,there⟩
    · exact ⟨Nat.lt_succ_of_lt ws_below,Nat.lt_succ_of_lt room_below,named⟩
    · obtain ⟨one,two,three⟩ := seats.sockets other socket' there
      exact ⟨Nat.lt_succ_of_lt one,Nat.lt_succ_of_lt two,three⟩
  · intro sid room mapped
    rw [close_named]
    obtain ⟨below,same⟩ := seats.rooms sid room mapped
    exact ⟨Nat.lt_succ_of_lt below,same⟩
  · intro room role other slot
    have before : (s.objects room).slot role = some other ∧ ¬(room = socket.room ∧ role = socket.role) := by
      by_cases same : room = socket.room
      · subst room
        rw [close_here] at slot
        dsimp only at slot
        by_cases same_role : role = socket.role
        · subst role
          rw [Function.update_self] at slot
          cases slot
        · rw [Function.update_of_ne same_role] at slot
          exact ⟨slot,fun both => same_role both.2⟩
      · rw [close_object same] at slot
        exact ⟨slot,fun both => same both.1⟩
    obtain ⟨socket',there,inRoom,inRole,alive⟩ := seats.slots room role other before.1
    have different : other ≠ ws := by
      rintro rfl
      rw [here] at there
      cases there
      exact before.2 ⟨inRoom.symm,inRole.symm⟩
    exact ⟨socket',(Function.update_of_ne different _ _).trans there,inRoom,inRole,alive⟩
  · intro id timer pending
    rw [close_named]
    rcases close_timers pending with ⟨rfl,rfl⟩ | ⟨-,pending⟩
    · exact ⟨Nat.lt_succ_self _,Nat.lt_succ_of_lt room_below,named⟩
    · obtain ⟨one,two,three⟩ := seats.timers id timer pending
      exact ⟨Nat.lt_succ_of_lt one,Nat.lt_succ_of_lt two,three⟩
  · intro room role id armed
    have before : (s.objects room).reconnectTimer role = some id ∨ room = socket.room ∧ id = s.allocated := by
      by_cases same : room = socket.room
      · subst room
        rw [close_here] at armed
        dsimp only at armed
        by_cases same_role : role = socket.role
        · subst role
          rw [Function.update_self] at armed
          exact .inr ⟨rfl,(Option.some.inj armed).symm⟩
        · rw [Function.update_of_ne same_role] at armed
          exact .inl armed
      · rw [close_object same] at armed
        exact .inl armed
    rcases before with armed | ⟨rfl,rfl⟩
    · obtain ⟨below,owned⟩ := seats.armed room role id armed
      refine ⟨Nat.lt_succ_of_lt below,fun timer pending => ?_⟩
      rcases close_timers pending with ⟨same,-⟩ | ⟨-,pending⟩
      · exact absurd same (Nat.ne_of_lt below)
      · exact owned timer pending
    · refine ⟨Nat.lt_succ_self _,fun timer pending => ?_⟩
      rcases close_timers pending with ⟨-,rfl⟩ | ⟨different,-⟩
      · rfl
      · exact absurd rfl different
  · intro other socket' there opened
    rcases close_sockets there with ⟨rfl,rfl⟩ | ⟨different,there⟩
    · cases opened
    · obtain ⟨mapped,slot⟩ := seats.seated other socket' there opened
      refine ⟨mapped,?_⟩
      by_cases same : socket'.room = socket.room
      · rw [same] at slot ⊢
        rw [close_here]
        dsimp only
        have role : socket'.role ≠ socket.role := by
          intro same_role
          rw [same_role] at slot
          have isOpen : s.isOpen other = true := open_parts.mpr ⟨socket',there,opened⟩
          rw [slot] at place
          simp [different,isOpen] at place
        rwa [Function.update_of_ne role]
      · rwa [close_object same]
  · intro sid room mapped
    by_cases same : room = socket.room
    · exact .inr ⟨s.allocated,_,Function.update_self ..,same.symm⟩
    · rw [close_object same]
      refine (seats.kept sid room mapped).imp id ?_
      rintro ⟨id,timer,pending,mine⟩
      have old : id ≠ s.allocated := Nat.ne_of_lt (seats.timers id timer pending).1
      exact ⟨id,timer,(Function.update_of_ne old _ _).trans pending,mine⟩

theorem peer_state (room : Room) (role : Role) : ∃ extra, peerLeft s room role = {s with sends:=s.sends ++ extra} ∧ delivered extra = [] := by
  unfold peerLeft
  split
  · cases room.slot role.other with
    | none => exact ⟨[],by simp,rfl⟩
    | some peer =>
        dsimp only [Option.elim_some]
        unfold Relay.send
        split
        · exact ⟨_,rfl,rfl⟩
        · exact ⟨[],by simp,rfl⟩
  · exact ⟨[],by simp,rfl⟩

theorem timeout_state (s : Relay) (id : Nat) (timer : Timer) : ∃ extra, delivered extra = [] ∧
    onTimeout s id timer = {s with
      timers:=Function.update s.timers id none
      sends:=s.sends ++ extra
      rooms:=if (s.objects timer.room).isEmpty then Function.update s.rooms timer.sid none else s.rooms
      objects:=Function.update s.objects timer.room {s.objects timer.room with
        reconnectTimer:=Function.update (s.objects timer.room).reconnectTimer timer.role none
        buffer:=if (s.objects timer.room).isEmpty then [] else (s.objects timer.room).buffer}} := by
  obtain ⟨extra,state,silent⟩ := @peer_state {s with timers:=Function.update s.timers id none} (s.objects timer.room) timer.role
  refine ⟨extra,silent,?_⟩
  unfold onTimeout
  dsimp only
  rw [state]
  cases (s.objects timer.room).isEmpty <;> rfl

theorem seat_open (seats : Seats s) (here : s.sockets ws = some socket) (opened : socket.readyState = .opened) :
    ∃ room, s.rooms socket.sid = some room ∧ s.seatsOpen room = true := by
  obtain ⟨mapped,slot⟩ := seats.seated ws socket here opened
  refine ⟨socket.room,mapped,?_⟩
  have isOpen := open_parts.mpr ⟨socket,here,opened⟩
  unfold Relay.seatsOpen
  cases role : socket.role with
  | pc =>
      rw [role] at slot
      rw [slot,Option.any_some,isOpen,Bool.true_or]
  | browser =>
      rw [role] at slot
      rw [slot,Option.any_some,isOpen,Bool.or_true]

theorem timeout_seats (seats : Seats s) (pending : s.timers id = some timer)
    (spares : (!(s.objects timer.room).isEmpty || (s.rooms timer.sid).all fun room => !s.seatsOpen room) = true) :
    Seats (onTimeout s id timer) := by
  obtain ⟨extra,-,state⟩ := timeout_state s id timer
  rw [state]
  have same : ∀ room, (Function.update s.objects timer.room {s.objects timer.room with
      reconnectTimer:=Function.update (s.objects timer.room).reconnectTimer timer.role none
      buffer:=if (s.objects timer.room).isEmpty then [] else (s.objects timer.room).buffer} room).sid = (s.objects room).sid ∧
    (Function.update s.objects timer.room {s.objects timer.room with
      reconnectTimer:=Function.update (s.objects timer.room).reconnectTimer timer.role none
      buffer:=if (s.objects timer.room).isEmpty then [] else (s.objects timer.room).buffer} room).slot = (s.objects room).slot := by
    intro room
    by_cases here : room = timer.room
    · subst room
      rw [Function.update_self]
      exact ⟨rfl,rfl⟩
    · rw [Function.update_of_ne here]
      exact ⟨rfl,rfl⟩
  have left : ∀ other left, Function.update s.timers id none other = some left → other ≠ id ∧ s.timers other = some left := by
    intro other left there
    by_cases here : other = id
    · subst other
      rw [Function.update_self] at there
      cases there
    · rw [Function.update_of_ne here] at there
      exact ⟨here,there⟩
  have mapped : ∀ sid room, (if (s.objects timer.room).isEmpty then Function.update s.rooms timer.sid none else s.rooms) sid = some room →
      s.rooms sid = some room ∧ ((s.objects timer.room).isEmpty = true → sid ≠ timer.sid) := by
    intro sid room there
    split at there
    · by_cases here : sid = timer.sid
      · subst sid
        rw [Function.update_self] at there
        cases there
      · rw [Function.update_of_ne here] at there
        exact ⟨there,fun _ => here⟩
    · rename_i full
      exact ⟨there,fun empty => absurd empty full⟩
  refine ⟨?_,?_,?_,?_,?_,?_,?_⟩ <;> dsimp only
  · intro ws socket there
    rw [(same socket.room).1]
    exact seats.sockets ws socket there
  · intro sid room there
    rw [(same room).1]
    exact seats.rooms sid room (mapped sid room there).1
  · intro room role ws slot
    rw [(same room).2] at slot
    exact seats.slots room role ws slot
  · intro other timer' there
    rw [(same timer'.room).1]
    exact seats.timers other timer' (left other timer' there).2
  · intro room role other armed
    have before : (s.objects room).reconnectTimer role = some other := by
      by_cases here : room = timer.room
      · subst room
        rw [Function.update_self] at armed
        dsimp only at armed
        by_cases same_role : role = timer.role
        · subst role
          rw [Function.update_self] at armed
          cases armed
        · rwa [Function.update_of_ne same_role] at armed
      · rwa [Function.update_of_ne here] at armed
    obtain ⟨below,owned⟩ := seats.armed room role other before
    exact ⟨below,fun timer' there => owned timer' (left other timer' there).2⟩
  · intro ws socket there opened
    obtain ⟨place,slot⟩ := seats.seated ws socket there opened
    rw [(same socket.room).2]
    refine ⟨?_,slot⟩
    split
    · rename_i empty
      have different : socket.sid ≠ timer.sid := by
        intro named
        obtain ⟨room,here,taken⟩ := seat_open seats there opened
        rw [empty,← named,here] at spares
        simp [taken] at spares
      rwa [Function.update_of_ne different]
    · exact place
  · intro sid room there
    rw [(same room).2]
    obtain ⟨here,other⟩ := mapped sid room there
    rcases seats.kept sid room here with seated | ⟨id',timer',pending',mine⟩
    · exact .inl seated
    · by_cases last : id' = id
      · subst id'
        rw [pending] at pending'
        cases pending'
        left
        have sid_same : sid = timer.sid := by
          rw [← (seats.rooms sid room here).2,← (seats.timers id timer pending).2.2,mine]
        have full : (s.objects timer.room).isEmpty = false := by
          by_contra empty
          exact other (by simpa using empty) sid_same
        rw [← mine]
        unfold Room.isEmpty at full
        rw [Bool.and_eq_false_iff] at full
        rcases full with pc | browser
        · exact ⟨.pc,fun none => by simp [none] at pc⟩
        · exact ⟨.browser,fun none => by simp [none] at browser⟩
      · exact .inr ⟨id',timer',(Function.update_of_ne last _ _).trans pending',mine⟩

variable {parse : String → Option Json} {event : Event}

theorem message_parts {raw : String} (taken : step parse s (.message ws raw) = some s') :
    ∃ socket, s.sockets ws = some socket ∧ socket.readyState ≠ .closed ∧
      (s' = s ∨ ∃ msg, parse raw = some msg ∧ s' = receive s ws socket msg raw) := by
  obtain ⟨socket,here,taken⟩ := Option.bind_eq_some_iff.mp taken
  split at taken
  · cases taken
  · rename_i alive
    refine ⟨socket,here,alive,?_⟩
    unfold onMessage at taken
    split at taken
    · exact .inl (Option.some.inj taken).symm
    · cases taken
    · rename_i msg _ parsed
      exact .inr ⟨msg,parsed,(Option.some.inj taken).symm⟩

theorem step_seats (seats : Seats s) (allowed : orderly parse s event = true) (taken : step parse s event = some s') : Seats s' := by
  cases event with
  | connection sid role =>
      cases taken
      exact connect_seats seats sid role
  | message ws raw =>
      obtain ⟨socket,here,-,rfl | ⟨msg,-,rfl⟩⟩ := message_parts taken
      · exact seats
      · exact alike_seats seats (receive_alike here msg raw)
  | closing ws =>
      obtain ⟨socket,here,taken⟩ := Option.bind_eq_some_iff.mp taken
      split at taken
      · cases taken
        exact closing_seats seats here
      · cases taken
  | closed ws =>
      obtain ⟨socket,here,taken⟩ := Option.bind_eq_some_iff.mp taken
      split at taken
      · cases taken
      · cases taken
        refine close_seats seats here ?_
        simpa [orderly,here] using allowed
  | timeout id =>
      obtain ⟨timer,pending,rfl⟩ := Option.map_eq_some_iff.mp taken
      refine timeout_seats seats pending ?_
      simpa [orderly,pending] using allowed

end ImageSearch.RelaySeats
