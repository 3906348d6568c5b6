import ImageSearch.RelaySeats

namespace ImageSearch.RelayedSignals
open Payload Transitions SignallingRooms RelaySeats

variable {s s' : Relay} {ws id : Nat} {socket : Socket} {timer : Timer} {message : Message} {raw : String}

-- What is sent goes to the other side of the sid, once and in order; the rest waits in its room
-- until a socket of the other side joins, or goes with the room.
structure Signals (s : Relay) : Prop where
  numbered : ∀ message ∈ s.signals,
    message.number < s.signals.length ∧ message.room < s.allocated ∧ (s.objects message.room).sid = message.sid
  buffered : ∀ room, ∀ message ∈ (s.objects room).buffer, message ∈ s.signals ∧ message.room = room
  sorted : ∀ room, (s.objects room).buffer.Pairwise fun one two => one.number < two.number
  addressed : ∀ ws message, (ws,.signal message) ∈ s.sends → message ∈ s.signals ∧
    ∃ socket, s.sockets ws = some socket ∧ socket.sid = message.sid ∧ socket.role = message.role.other
  ordered : (delivered s.sends).Pairwise fun one two => one.sid = two.sid → one.role = two.role → one.number < two.number
  reached : ∀ message ∈ s.signals, message ∈ delivered s.sends ∨ s.rooms message.sid ≠ some message.room ∨
    message ∈ (s.objects message.room).buffer ∧ ∀ ws socket, s.sockets ws = some socket → socket.readyState = .opened →
      socket.sid = message.sid → socket.role = message.role.other → socket.joinFlushed = false

structure Hushed (s s' : Relay) : Prop where
  signals : s'.signals = s.signals
  sends : ∃ extra, s'.sends = s.sends ++ extra ∧ delivered extra = []
  allocated : s.allocated ≤ s'.allocated
  named : ∀ room, room < s.allocated → (s'.objects room).sid = (s.objects room).sid
  buffer : ∀ room, (s'.objects room).buffer = (s.objects room).buffer ∨
    (s'.objects room).buffer = [] ∧ ∀ sid, s'.rooms sid = some room → s.allocated ≤ room
  rooms : ∀ sid room, s'.rooms sid = some room → s.rooms sid = some room ∨ s.allocated ≤ room
  forth : ∀ ws socket, s.sockets ws = some socket → ∃ socket', s'.sockets ws = some socket' ∧
    socket'.sid = socket.sid ∧ socket'.role = socket.role
  back : ∀ ws socket', s'.sockets ws = some socket' → socket'.readyState = .opened → socket'.joinFlushed = true →
    ∃ socket, s.sockets ws = some socket ∧ socket.readyState = .opened ∧ socket.joinFlushed = true ∧
      socket.sid = socket'.sid ∧ socket.role = socket'.role

theorem hushed_signals (signals : Signals s) (hushed : Hushed s s') : Signals s' := by
  obtain ⟨extra,sends,silent⟩ := hushed.sends
  have same : delivered s'.sends = delivered s.sends := by
    rw [sends,delivered_append,silent,List.append_nil]
  refine ⟨?_,?_,?_,?_,?_,?_⟩
  · intro message member
    rw [hushed.signals] at member ⊢
    obtain ⟨number,below,named⟩ := signals.numbered message member
    exact ⟨number,Nat.lt_of_lt_of_le below hushed.allocated,(hushed.named _ below).trans named⟩
  · intro room message member
    rw [hushed.signals]
    rcases hushed.buffer room with buffer | ⟨empty,-⟩
    · exact signals.buffered room message (buffer ▸ member)
    · rw [empty] at member
      cases member
  · intro room
    rcases hushed.buffer room with buffer | ⟨empty,-⟩
    · rw [buffer]
      exact signals.sorted room
    · rw [empty]
      exact .nil
  · intro ws message member
    have sent : (ws,Text.signal message) ∈ s.sends := by
      rw [sends] at member
      rcases List.mem_append.mp member with before | extra_member
      · exact before
      · have shown : message ∈ delivered extra := mem_delivered.mpr ⟨ws,extra_member⟩
        rw [silent] at shown
        cases shown
    obtain ⟨known,socket,here,sid,role⟩ := signals.addressed ws message sent
    obtain ⟨socket',there,sid',role'⟩ := hushed.forth ws socket here
    exact ⟨hushed.signals ▸ known,socket',there,sid'.trans sid,role'.trans role⟩
  · rw [same]
    exact signals.ordered
  · intro message member
    rw [hushed.signals] at member
    rw [same]
    rcases signals.reached message member with done | gone | ⟨waits,unjoined⟩
    · exact .inl done
    · right
      left
      intro mapped
      rcases hushed.rooms _ _ mapped with before | new
      · exact gone before
      · exact absurd (signals.numbered message member).2.1 (Nat.not_lt.mpr new)
    · right
      rcases hushed.buffer message.room with buffer | ⟨-,removed⟩
      · right
        refine ⟨buffer ▸ waits,?_⟩
        intro ws socket' there opened sid role
        by_contra joined
        rw [Bool.not_eq_false] at joined
        obtain ⟨socket,here,opened',joined',sid',role'⟩ := hushed.back ws socket' there opened joined
        rw [unjoined ws socket here opened' (sid'.trans sid) (role'.trans role)] at joined'
        cases joined'
      · left
        intro mapped
        exact absurd (signals.numbered message member).2.1 (Nat.not_lt.mpr (removed _ mapped))

theorem hushed_refl : Hushed s s where
  signals := rfl
  sends := ⟨[],by simp,rfl⟩
  allocated := Nat.le_refl _
  named _ _ := rfl
  buffer _ := .inl rfl
  rooms _ _ := .inl
  forth _ socket here := ⟨socket,here,rfl,rfl⟩
  back _ socket there opened joined := ⟨socket,there,opened,joined,rfl,rfl⟩

theorem hushed_send {text : Text} (silent : delivered [(ws,text)] = []) : Hushed s (s.send ws text) where
  signals := send_signals
  sends := by
    refine ⟨_,send_sends,?_⟩
    split
    · exact silent
    · rfl
  allocated := Nat.le_of_eq send_allocated.symm
  named _ _ := by rw [send_objects]
  buffer _ := .inl (by rw [send_objects])
  rooms _ _ mapped := .inl (by rwa [send_rooms] at mapped)
  forth _ socket here := ⟨socket,by rwa [send_sockets],rfl,rfl⟩
  back _ socket there opened joined := ⟨socket,by rwa [send_sockets] at there,opened,joined,rfl,rfl⟩

theorem hushed_seat {sid : String} {role : Role} {room : Nat} {object : Room} (seats : Seats s) (chosen : Chosen s sid room object)
    (buffer : object.buffer = [] ∨ room < s.allocated) : Hushed s (seat s sid role room object) where
  signals := rfl
  sends := ⟨[],by simp [seat],rfl⟩
  allocated := Nat.le_succ _
  named _ below := seat_named chosen below
  buffer other := by
    by_cases here : other = room
    · subst other
      rw [seat_here]
      by_cases old : room < s.allocated
      · left
        rw [(chosen.same old).1]
      · right
        exact ⟨buffer.resolve_right old,fun _ _ => Nat.not_lt.mp old⟩
    · rw [seat_other here]
      exact .inl rfl
  rooms name other mapped := by
    by_cases same : name = sid
    · subst name
      cases (Function.update_self ..).symm.trans mapped
      by_cases old : room < s.allocated
      · exact .inl (chosen.same old).2
      · exact .inr (Nat.not_lt.mp old)
    · exact .inl ((Function.update_of_ne same _ _).symm.trans mapped)
  forth _ socket here := ⟨socket,seat_old seats here,rfl,rfl⟩
  back ws socket there opened joined := by
    rcases seat_sockets there with ⟨-,rfl⟩ | ⟨-,there⟩
    · cases joined
    · exact ⟨socket,there,opened,joined,rfl,rfl⟩

theorem hushed_connect (seats : Seats s) (given givenRole : Option String) : Hushed s (connect s given givenRole) := by
  rcases connect_cases s given givenRole with same | ⟨sid,role,admitted⟩
  · rw [same]
    exact hushed_refl
  · rw [admitted]
    rcases admit_cases s sid role with same | ⟨-,seated⟩
    · rw [same]
      exact hushed_refl
    · rw [seated]
      refine hushed_seat seats (admit_chosen seats) ?_
      cases mapped : s.rooms sid with
      | none => exact .inl rfl
      | some room => exact .inr (seats.rooms sid room mapped).1

theorem hushed_socket (here : s.sockets ws = some socket) {changed : Socket} (sid : changed.sid = socket.sid) (role : changed.role = socket.role)
    (joins : changed.readyState = .opened → changed.joinFlushed = true → socket.readyState = .opened ∧ socket.joinFlushed = true) :
    Hushed s (s.setSocket ws changed) where
  signals := rfl
  sends := ⟨[],by simp [Relay.setSocket],rfl⟩
  allocated := Nat.le_refl _
  named _ _ := rfl
  buffer _ := .inl rfl
  rooms _ _ := .inl
  forth other socket' there := by
    unfold Relay.setSocket
    dsimp only
    by_cases same : other = ws
    · subst other
      rw [here] at there
      cases there
      exact ⟨_,Function.update_self ..,sid,role⟩
    · exact ⟨socket',(Function.update_of_ne same _ _).trans there,rfl,rfl⟩
  back other socket' there opened joined := by
    unfold Relay.setSocket at there
    dsimp only at there
    by_cases same : other = ws
    · subst other
      rw [Function.update_self] at there
      cases there
      obtain ⟨before,joinedBefore⟩ := joins opened joined
      exact ⟨socket,here,before,joinedBefore,sid.symm,role.symm⟩
    · rw [Function.update_of_ne same] at there
      exact ⟨socket',there,opened,joined,rfl,rfl⟩

theorem hushed_state (here : s.sockets ws = some socket) (state : ReadyState) (unopened : state ≠ .opened) :
    Hushed s (s.setSocket ws {socket with readyState:=state}) :=
  hushed_socket here rfl rfl fun opened _ => absurd opened unopened

theorem hushed_close (here : s.sockets ws = some socket) : Hushed s (onClose s ws socket) where
  signals := rfl
  sends := ⟨[],by simp [onClose],rfl⟩
  allocated := Nat.le_succ _
  named room _ := close_named room
  buffer room := by
    left
    by_cases same : room = socket.room
    · subst room
      rw [close_here]
    · rw [close_object same]
  rooms _ _ := .inl
  forth := (hushed_state here .closed (by decide)).forth
  back := (hushed_state here .closed (by decide)).back

theorem hushed_timeout (seats : Seats s) (pending : s.timers id = some timer) : Hushed s (onTimeout s id timer) := by
  obtain ⟨extra,silent,state⟩ := timeout_state s id timer
  rw [state]
  refine ⟨rfl,⟨extra,rfl,silent⟩,Nat.le_refl _,?_,?_,?_,fun _ socket here => ⟨socket,here,rfl,rfl⟩,
    fun _ socket there opened joined => ⟨socket,there,opened,joined,rfl,rfl⟩⟩ <;> dsimp only
  · intro room _
    by_cases here : room = timer.room
    · subst room
      rw [Function.update_self]
    · rw [Function.update_of_ne here]
  · intro room
    by_cases here : room = timer.room
    · subst room
      rw [Function.update_self]
      cases empty : (s.objects timer.room).isEmpty with
      | false => exact .inl rfl
      | true =>
          refine .inr ⟨rfl,?_⟩
          intro sid mapped
          rw [if_pos rfl] at mapped
          by_cases same : sid = timer.sid
          · subst sid
            rw [Function.update_self] at mapped
            cases mapped
          · rw [Function.update_of_ne same] at mapped
            have named := (seats.rooms sid timer.room mapped).2
            rw [(seats.timers id timer pending).2.2] at named
            exact absurd named.symm same
    · rw [Function.update_of_ne here]
      exact .inl rfl
  · intro sid room mapped
    split at mapped
    · by_cases same : sid = timer.sid
      · subst sid
        rw [Function.update_self] at mapped
        cases mapped
      · rw [Function.update_of_ne same] at mapped
        exact .inl mapped
    · exact .inl mapped

theorem known_sent (signals : Signals s) (seats : Seats s) (here : s.sockets ws = some socket) :
    ∀ message ∈ s.signals ++ [sent s socket raw], message.number < (s.signals ++ [sent s socket raw]).length ∧
      message.room < s.allocated ∧ (s.objects message.room).sid = message.sid := by
  intro message member
  rw [List.length_append,List.length_singleton]
  rcases List.mem_append.mp member with old | new
  · obtain ⟨number,rest⟩ := signals.numbered message old
    exact ⟨Nat.lt_succ_of_lt number,rest⟩
  · rw [List.mem_singleton.mp new]
    exact ⟨Nat.lt_succ_self _,(seats.sockets ws socket here).2⟩

theorem forward_signals (signals : Signals s) (seats : Seats s) (here : s.sockets ws = some socket) {target : Nat}
    (place : (s.objects socket.room).slot socket.role.other = some target) :
    Signals {s with signals:=s.signals ++ [sent s socket raw], sends:=s.sends ++ [(target,.signal (sent s socket raw))]} := by
  have later : ∀ message ∈ delivered s.sends, message.number < s.signals.length := by
    intro message member
    obtain ⟨ws,member⟩ := mem_delivered.mp member
    exact (signals.numbered message (signals.addressed ws message member).1).1
  refine ⟨known_sent signals seats here,?_,signals.sorted,?_,?_,?_⟩ <;> dsimp only
  · intro room message member
    obtain ⟨known,inRoom⟩ := signals.buffered room message member
    exact ⟨List.mem_append_left _ known,inRoom⟩
  · intro other message member
    rcases List.mem_append.mp member with old | new
    · obtain ⟨known,reader⟩ := signals.addressed other message old
      exact ⟨List.mem_append_left _ known,reader⟩
    · cases List.mem_singleton.mp new
      refine ⟨List.mem_append_right _ List.mem_cons_self,?_⟩
      obtain ⟨reader,there,inRoom,inRole,-⟩ := seats.slots _ _ target place
      refine ⟨reader,there,?_,inRole⟩
      rw [← (seats.sockets target reader there).2.2,inRoom]
      exact (seats.sockets ws socket here).2.2
  · rw [delivered_append,List.pairwise_append]
    refine ⟨signals.ordered,List.pairwise_singleton ..,?_⟩
    intro message member new found _ _
    cases List.mem_singleton.mp found
    exact later message member
  · intro message member
    rw [delivered_append]
    rcases List.mem_append.mp member with old | new
    · exact (signals.reached message old).imp (List.mem_append_left _) id
    · rw [List.mem_singleton.mp new]
      exact .inl (List.mem_append_right _ List.mem_cons_self)

theorem buffer_signals (signals : Signals s) (seats : Seats s) (here : s.sockets ws = some socket)
    (away : ∀ target, (s.objects socket.room).slot socket.role.other = some target → s.isOpen target = false) :
    Signals ({s with signals:=s.signals ++ [sent s socket raw]}.setObject socket.room {s.objects socket.room with
      buffer:=(s.objects socket.room).buffer ++ [sent s socket raw]}) := by
  have same : ∀ room, (Function.update s.objects socket.room {s.objects socket.room with
      buffer:=(s.objects socket.room).buffer ++ [sent s socket raw]} room).sid = (s.objects room).sid := by
    intro room
    by_cases inRoom : room = socket.room
    · subst room
      rw [Function.update_self]
    · rw [Function.update_of_ne inRoom]
  have grown : ∀ room, ∀ message ∈ (s.objects room).buffer, message ∈ (Function.update s.objects socket.room {s.objects socket.room with
      buffer:=(s.objects socket.room).buffer ++ [sent s socket raw]} room).buffer := by
    intro room message member
    by_cases inRoom : room = socket.room
    · subst room
      rw [Function.update_self]
      exact List.mem_append_left _ member
    · rwa [Function.update_of_ne inRoom]
  refine ⟨?_,?_,?_,?_,signals.ordered,?_⟩ <;> unfold Relay.setObject <;> dsimp only
  · intro message member
    rw [same]
    exact known_sent signals seats here message member
  · intro room message member
    by_cases inRoom : room = socket.room
    · subst room
      rw [Function.update_self] at member
      rcases List.mem_append.mp member with old | new
      · obtain ⟨known,there⟩ := signals.buffered _ message old
        exact ⟨List.mem_append_left _ known,there⟩
      · rw [List.mem_singleton.mp new]
        exact ⟨List.mem_append_right _ List.mem_cons_self,rfl⟩
    · rw [Function.update_of_ne inRoom] at member
      obtain ⟨known,there⟩ := signals.buffered room message member
      exact ⟨List.mem_append_left _ known,there⟩
  · intro room
    by_cases inRoom : room = socket.room
    · subst room
      rw [Function.update_self]
      refine List.pairwise_append.mpr ⟨signals.sorted _,List.pairwise_singleton ..,?_⟩
      intro message member new found
      cases List.mem_singleton.mp found
      exact (signals.numbered message (signals.buffered _ message member).1).1
    · rw [Function.update_of_ne inRoom]
      exact signals.sorted room
  · intro other message member
    obtain ⟨known,reader⟩ := signals.addressed other message member
    exact ⟨List.mem_append_left _ known,reader⟩
  · intro message member
    rcases List.mem_append.mp member with old | new
    · refine (signals.reached message old).imp id fun rest => rest.imp id ?_
      rintro ⟨waits,unjoined⟩
      exact ⟨grown _ _ waits,unjoined⟩
    · rw [List.mem_singleton.mp new]
      by_cases mapped : s.rooms socket.sid = some socket.room
      · right
        right
        refine ⟨?_,?_⟩
        · unfold sent
          dsimp only
          rw [Function.update_self]
          exact List.mem_append_right _ List.mem_cons_self
        · intro other reader there opened sid role
          obtain ⟨place,slot⟩ := seats.seated other reader there opened
          change reader.sid = socket.sid at sid
          change reader.role = socket.role.other at role
          rw [sid,mapped] at place
          rw [role,← Option.some.inj place] at slot
          have closed := away other slot
          rw [open_parts.mpr ⟨reader,there,opened⟩] at closed
          cases closed
      · exact .inr (.inl mapped)

theorem signal_signals (signals : Signals s) (seats : Seats s) (here : s.sockets ws = some socket) :
    Signals (relaySignal s socket raw) := by
  unfold relaySignal
  dsimp only
  split
  · rename_i target found
    obtain ⟨place,isOpen⟩ := Option.filter_eq_some_iff.mp found
    replace isOpen : s.isOpen target = true := isOpen
    have forwarded := @forward_signals s ws socket raw signals seats here target place
    unfold Relay.send
    rwa [if_pos (show ({s with signals:=s.signals ++ [sent s socket raw]} : Relay).isOpen target = true from isOpen)]
  · rename_i away
    refine buffer_signals signals seats here ?_
    intro target place
    rw [place,Option.filter_some] at away
    by_contra isOpen
    rw [Bool.not_eq_false] at isOpen
    rw [if_pos (show ({s with signals:=s.signals ++ [sent s socket raw]} : Relay).isOpen target = true from isOpen)] at away
    cases away

theorem flush_inTurn (opened : s.isOpen ws = true) (fresh : socket.joinFlushed = false) (allowed : flushesInTurn s ws socket = true) :
    ∀ message ∈ (s.objects socket.room).buffer, message.role = socket.role.other ∧ ∀ earlier ∈ delivered s.sends,
      earlier.sid = message.sid → earlier.role = message.role → earlier.number < message.number := by
  unfold flushesInTurn at allowed
  rw [opened,fresh,Bool.not_true,Bool.false_or,Bool.false_or,List.all_eq_true] at allowed
  intro message member
  have turn := allowed message member
  rw [Bool.and_eq_true,decide_eq_true_eq,List.all_eq_true] at turn
  refine ⟨turn.1,?_⟩
  intro earlier found sid role
  simpa [sid,role] using turn.2 earlier found

theorem delivered_flush (messages : List Message) : delivered (messages.map fun message => (ws,.signal message)) = messages := by
  induction messages with
  | nil => rfl
  | cons message rest ih => exact congrArg (message :: ·) ih

theorem flush_signals (signals : Signals s) (seats : Seats s) (here : s.sockets ws = some socket) (opened : s.isOpen ws = true)
    (fresh : socket.joinFlushed = false) (allowed : flushesInTurn s ws socket = true) :
    Signals {s.setSocket ws {socket with joinFlushed:=true} with
      sends:=s.sends ++ (s.objects socket.room).buffer.map fun message => (ws,.signal message)} := by
  have turn := flush_inTurn opened fresh allowed
  obtain ⟨socket',there',state⟩ := open_parts.mp opened
  rw [here] at there'
  cases there'
  have forth : ∀ other reader, s.sockets other = some reader → ∃ reader', Function.update s.sockets ws (some {socket with joinFlushed:=true}) other = some reader' ∧
      reader'.sid = reader.sid ∧ reader'.role = reader.role := by
    intro other reader there
    by_cases same : other = ws
    · subst other
      rw [here] at there
      cases there
      rw [Function.update_self]
      exact ⟨_,rfl,rfl,rfl⟩
    · rw [Function.update_of_ne same]
      exact ⟨reader,there,rfl,rfl⟩
  refine ⟨signals.numbered,signals.buffered,signals.sorted,?_,?_,?_⟩ <;> dsimp only [Relay.setSocket]
  · intro other message member
    rcases List.mem_append.mp member with old | new
    · obtain ⟨known,reader,there,sid,role⟩ := signals.addressed other message old
      obtain ⟨reader',there',sid',role'⟩ := forth other reader there
      exact ⟨known,reader',there',sid'.trans sid,role'.trans role⟩
    · obtain ⟨message,waits,found⟩ := List.mem_map.mp new
      cases found
      obtain ⟨known,inRoom⟩ := signals.buffered _ message waits
      obtain ⟨reader',there',sid',role'⟩ := forth ws socket here
      refine ⟨known,reader',there',?_,?_⟩
      · rw [sid',← (signals.numbered message known).2.2,inRoom,(seats.sockets ws socket here).2.2]
      · rw [role',(turn message waits).1,other_other]
  · rw [delivered_append,delivered_flush,List.pairwise_append]
    refine ⟨signals.ordered,(signals.sorted socket.room).imp fun less _ _ => less,?_⟩
    intro earlier found message waits
    exact (turn message waits).2 earlier found
  · intro message known
    rw [delivered_append,delivered_flush]
    rcases signals.reached message known with done | gone | ⟨waits,unjoined⟩
    · exact .inl (List.mem_append_left _ done)
    · exact .inr (.inl gone)
    · by_cases mapped : s.rooms message.sid = some message.room
      · by_cases inRoom : message.room = socket.room
        · rw [inRoom] at waits
          exact .inl (List.mem_append_right _ waits)
        · right
          right
          refine ⟨waits,?_⟩
          intro other reader there opened' sid role
          by_cases same : other = ws
          · subst other
            rw [Function.update_self] at there
            cases there
            have place := (seats.seated ws socket here state).1
            rw [show socket.sid = message.sid from sid,mapped] at place
            exact absurd (Option.some.inj place) inRoom
          · rw [Function.update_of_ne same] at there
            exact unjoined other reader there opened' sid role
      · exact .inr (.inl mapped)

theorem greeting_turn (role : Role) : flushesInTurn (s.send ws (.joined role)) ws socket = flushesInTurn s ws socket := by
  have silent : delivered (if s.isOpen ws = true then [(ws,Text.joined role)] else []) = [] := by
    split <;> rfl
  unfold flushesInTurn
  rw [send_open,send_objects,send_sends,delivered_append,silent,List.append_nil]

theorem join_signals (signals : Signals s) (seats : Seats s) (here : s.sockets ws = some socket) (allowed : flushesInTurn s ws socket = true) :
    Signals (join s ws socket) := by
  unfold join
  dsimp only
  have greeted : Signals (s.send ws (.joined socket.role)) := hushed_signals signals (hushed_send rfl)
  have there : (s.send ws (.joined socket.role)).sockets ws = some socket := by rwa [send_sockets]
  split
  · exact greeted
  · rename_i fresh
    rw [Bool.not_eq_true] at fresh
    rw [flush_state]
    have opening : ((s.send ws (.joined socket.role)).setSocket ws {socket with joinFlushed:=true}).isOpen ws =
        (s.send ws (.joined socket.role)).isOpen ws := by
      simp [Relay.isOpen,Relay.setSocket,here]
    cases opened : (s.send ws (.joined socket.role)).isOpen ws with
    | false =>
        rw [opening,opened,if_neg (by decide),List.append_nil]
        refine hushed_signals greeted (hushed_socket there rfl rfl ?_)
        intro state _
        rw [Bool.eq_false_iff] at opened
        exact absurd (open_parts.mpr ⟨socket,there,state⟩) opened
    | true =>
        rw [opening,opened,if_pos rfl]
        refine flush_signals greeted (alike_seats seats (send_alike _)) there opened fresh ?_
        rwa [greeting_turn]

theorem answer_hushed : Hushed s (relayAnswer s socket raw) := by
  unfold relayAnswer
  split
  · exact hushed_send rfl
  · exact hushed_refl

theorem receive_signals (signals : Signals s) (seats : Seats s) (here : s.sockets ws = some socket) {msg : Json}
    (allowed : messageType msg = some "join" → flushesInTurn s ws socket = true) : Signals (receive s ws socket msg raw) := by
  unfold receive
  split
  · rename_i joins
    exact join_signals signals seats here (allowed joins)
  · split
    · exact signal_signals signals seats here
    · split
      · exact hushed_signals signals answer_hushed
      · exact signals

variable {parse : String → Option Json} {event : Event}

theorem step_signals (signals : Signals s) (seats : Seats s) (allowed : orderly parse s event = true)
    (taken : step parse s event = some s') : Signals s' := by
  cases event with
  | connection sid role =>
      cases taken
      exact hushed_signals signals (hushed_connect seats sid role)
  | message ws raw =>
      obtain ⟨socket,here,-,rfl | ⟨msg,parsed,rfl⟩⟩ := message_parts taken
      · exact signals
      · refine receive_signals signals seats here fun joins => ?_
        simpa [orderly,here,parsed,joins] using allowed
  | closing ws =>
      obtain ⟨socket,here,taken⟩ := Option.bind_eq_some_iff.mp taken
      split at taken
      · cases taken
        exact hushed_signals signals (hushed_state here .closing (by decide))
      · cases taken
  | closed ws =>
      obtain ⟨socket,here,taken⟩ := Option.bind_eq_some_iff.mp taken
      split at taken
      · cases taken
      · cases taken
        exact hushed_signals signals (hushed_close here)
  | timeout id =>
      obtain ⟨timer,pending,rfl⟩ := Option.map_eq_some_iff.mp taken
      exact hushed_signals signals (hushed_timeout seats pending)

theorem empty_signals : Signals emptyRelay := by
  refine ⟨?_,?_,fun _ => .nil,?_,.nil,?_⟩
  · intro message member
    cases member
  · intro room message member
    cases member
  · intro ws message member
    cases member
  · intro message member
    cases member

theorem run_signals (path : Reaches (relay parse) (fun s event => orderly parse s event = true) emptyRelay s) : Seats s ∧ Signals s := by
  induction path with
  | refl => exact ⟨empty_seats,empty_signals⟩
  | tail _ step ih =>
      obtain ⟨event,allowed,taken⟩ := step
      exact ⟨step_seats ih.1 allowed taken,step_signals ih.2 ih.1 allowed taken⟩

-- An open socket sits in its place in the room of its sid; what is delivered goes to the other
-- side of the sid, once and in the order it came in; while its room is in the map, it waits there
-- or is delivered, and is delivered if a socket of the other side has joined; and a room that all
-- sockets have left has a timer to come.
theorem signals_relayed (path : Reaches (relay parse) (fun s event => orderly parse s event = true) emptyRelay s) :
    (∀ ws socket, s.sockets ws = some socket → socket.readyState = .opened →
      s.rooms socket.sid = some socket.room ∧ (s.objects socket.room).slot socket.role = some ws) ∧
    (∀ ws message, (ws,.signal message) ∈ s.sends → message ∈ s.signals ∧
      ∃ socket, s.sockets ws = some socket ∧ socket.sid = message.sid ∧ socket.role = message.role.other) ∧
    ((delivered s.sends).Pairwise fun one two => one.sid = two.sid → one.role = two.role → one.number < two.number) ∧
    (∀ message ∈ s.signals, s.rooms message.sid = some message.room →
      (message ∈ delivered s.sends ∨ message ∈ (s.objects message.room).buffer) ∧
      ∀ ws socket, s.sockets ws = some socket → socket.readyState = .opened → socket.sid = message.sid →
        socket.role = message.role.other → socket.joinFlushed = true → message ∈ delivered s.sends) ∧
    ∀ sid room, s.rooms sid = some room →
      (∀ ws socket, s.sockets ws = some socket → socket.room = room → socket.readyState = .closed) →
      ∃ id timer, s.timers id = some timer ∧ timer.room = room := by
  obtain ⟨seats,signals⟩ := run_signals path
  refine ⟨seats.seated,signals.addressed,signals.ordered,?_,?_⟩
  · intro message known mapped
    rcases signals.reached message known with done | gone | ⟨waits,unjoined⟩
    · exact ⟨.inl done,fun _ _ _ _ _ _ _ => done⟩
    · exact absurd mapped gone
    · refine ⟨.inr waits,?_⟩
      intro ws socket here opened sid role joined
      rw [unjoined ws socket here opened sid role] at joined
      cases joined
  · intro sid room mapped left
    rcases seats.kept sid room mapped with ⟨role,seated⟩ | pending
    · obtain ⟨ws,slot⟩ := Option.ne_none_iff_exists'.mp seated
      obtain ⟨socket,here,inRoom,-,alive⟩ := seats.slots room role ws slot
      exact absurd (left ws socket here inRoom) alive
    · exact pending

def joinText : String := "\x7b\"type\":\"join\"\x7d"
def offerText : String := "\x7b\"type\":\"offer\",\"sdp\":\"v=0\"\x7d"

def parseTexts (raw : String) : Option Json :=
  if raw = joinText then some (.object [("type",.string "join")])
  else if raw = offerText then some (.object [("type",.string "offer"),("sdp",.string "v=0")])
  else none

def offered : List Event := [.connection (some "s1") (some "pc"),.message 0 joinText,.message 0 offerText,
  .connection (some "s1") (some "browser"),.message 1 joinText]

def offer : Message := ⟨0,"s1",.pc,0,offerText⟩

-- The browser reloads the page and is sent the offer again.
theorem offer_twice : ∃ s, Reachable (relay parseTexts) emptyRelay s ∧ (1,.signal offer) ∈ s.sends ∧ (3,.signal offer) ∈ s.sends := by
  obtain ⟨s,path,seen⟩ := checkedRun_exhibits (relay parseTexts) (fun _ _ => True) emptyRelay
    (offered ++ [.closed 1,.connection (some "s1") (some "browser"),.message 3 joinText])
    (fun s => (1,Text.signal offer) ∈ s.sends && (3,Text.signal offer) ∈ s.sends) (by decide +kernel)
  simp only [Bool.and_eq_true,decide_eq_true_eq] at seen
  exact ⟨s,path,seen⟩

theorem offer_relayed : ∃ s, Reaches (relay parseTexts) (fun s event => orderly parseTexts s event = true) emptyRelay s ∧
    offer ∈ delivered s.sends := by
  obtain ⟨s,path,seen⟩ := checkedRun_exhibits (relay parseTexts) (fun s event => orderly parseTexts s event = true) emptyRelay offered
    (fun s => offer ∈ s.signals && s.rooms "s1" = some 0 && s.sockets 1 = some ⟨"s1",.browser,0,.opened,true⟩) (by decide +kernel)
  simp only [Bool.and_eq_true,decide_eq_true_eq] at seen
  obtain ⟨⟨known,mapped⟩,browser⟩ := seen
  have reached := ((signals_relayed path).2.2.2.1 offer known mapped).2
  exact ⟨s,path,reached 1 _ browser rfl rfl rfl rfl⟩

end ImageSearch.RelayedSignals
