import ImageSearch.Payload
import ImageSearch.Transitions

namespace ImageSearch.SignallingRooms
open Payload Transitions

inductive Role where
  | pc | browser
  deriving DecidableEq, Repr

def Role.other : Role → Role
  | .pc => .browser
  | .browser => .pc

inductive ReadyState where
  | opened | closing | closed
  deriving DecidableEq, Repr

-- An admitted socket, with what its handlers have captured. A refused one has no handlers.
structure Socket where
  sid : String
  role : Role
  room : Nat
  readyState : ReadyState := .opened
  joinFlushed : Bool := false
  deriving DecidableEq, Repr

-- An offer or a candidate. The relay handles `raw`; the rest says which one it is.
structure Message where
  number : Nat
  sid : String
  role : Role
  room : Nat
  raw : String
  deriving DecidableEq, Repr

inductive Text where
  | joined (role : Role)
  | peerLeft
  | signal (message : Message)
  | answer (raw : String)
  deriving DecidableEq, Repr

-- The fields pc and browser, and the two reconnect timers, by role. `sid` is the key the
-- room was made for.
structure Room where
  sid : String := ""
  slot : Role → Option Nat := fun _ => none
  reconnectTimer : Role → Option Nat := fun _ => none
  buffer : List Message := []

structure Timer where
  room : Nat
  sid : String
  role : Role
  deriving DecidableEq, Repr

-- A room that is no longer in the map lives on in the handlers of its sockets. Sockets, rooms
-- and timers are numbered as they are made, a room by the socket it is made for. `sends` is
-- everything sent, `signals` every offer and candidate that came in.
structure Relay where
  rooms : String → Option Nat
  objects : Nat → Room
  sockets : Nat → Option Socket
  timers : Nat → Option Timer
  allocated : Nat
  sends : List (Nat × Text)
  signals : List Message

def emptyRelay : Relay := ⟨fun _ => none,fun _ => {},fun _ => none,fun _ => none,0,[],[]⟩

def Relay.isOpen (s : Relay) (ws : Nat) : Bool := (s.sockets ws).any fun socket => socket.readyState = .opened

def Relay.setObject (s : Relay) (room : Nat) (object : Room) : Relay := {s with objects:=Function.update s.objects room object}

def Relay.setSocket (s : Relay) (ws : Nat) (socket : Socket) : Relay := {s with sockets:=Function.update s.sockets ws (some socket)}

-- ws.send on a socket that is not open does nothing.
def Relay.send (s : Relay) (ws : Nat) (text : Text) : Relay :=
  if s.isOpen ws then {s with sends:=s.sends ++ [(ws,text)]} else s

def parseRole (role : String) : Option Role :=
  if role = "pc" then some .pc else if role = "browser" then some .browser else none

def clearTimeout (timers : Nat → Option Timer) (timer : Option Nat) : Nat → Option Timer :=
  timer.elim timers fun timer => Function.update timers timer none

def takeSeat (s : Relay) (sid : String) (role : Role) : Relay :=
  let room := (s.rooms sid).getD s.allocated
  let object := (s.rooms sid).elim {sid} s.objects
  if (object.slot role).any s.isOpen then s
  else {s with
    rooms:=Function.update s.rooms sid (some room)
    objects:=Function.update s.objects room {object with
      slot:=Function.update object.slot role (some s.allocated)
      reconnectTimer:=Function.update object.reconnectTimer role none}
    sockets:=Function.update s.sockets s.allocated (some ⟨sid,role,room,.opened,false⟩)
    timers:=clearTimeout s.timers (object.reconnectTimer role)
    allocated:=s.allocated + 1}

def connect (s : Relay) (sid role : Option String) : Relay :=
  match sid,role.bind parseRole with
  | some sid,some role => if sid = "" then s else takeSeat s sid role
  | _,_ => s

def flush (s : Relay) (ws : Nat) : List Message → Relay
  | [] => s
  | message :: rest => flush (s.send ws (.signal message)) ws rest

def join (s : Relay) (ws : Nat) (socket : Socket) : Relay :=
  let s := s.send ws (.joined socket.role)
  if socket.joinFlushed then s
  else flush (s.setSocket ws {socket with joinFlushed:=true}) ws (s.objects socket.room).buffer

def sent (s : Relay) (socket : Socket) (raw : String) : Message :=
  ⟨s.signals.length,socket.sid,socket.role,socket.room,raw⟩

def relaySignal (s : Relay) (socket : Socket) (raw : String) : Relay :=
  let message := sent s socket raw
  let room := s.objects socket.room
  let s := {s with signals:=s.signals ++ [message]}
  match (room.slot socket.role.other).filter s.isOpen with
  | some target => s.send target (.signal message)
  | none => s.setObject socket.room {room with buffer:=room.buffer ++ [message]}

def relayAnswer (s : Relay) (socket : Socket) (raw : String) : Relay :=
  match ((s.objects socket.room).slot .pc).filter s.isOpen with
  | some target => s.send target (.answer raw)
  | none => s

def messageType : Json → Option String
  | .object fields =>
    match fields.lookup "type" with
    | some (.string type) => some type
    | _ => none
  | _ => none

def receive (s : Relay) (ws : Nat) (socket : Socket) (msg : Json) (raw : String) : Relay :=
  if messageType msg = some "join" then join s ws socket
  else if messageType msg = some "offer" ∨ messageType msg = some "candidate" then relaySignal s socket raw
  else if messageType msg = some "answer" then relayAnswer s socket raw
  else s

-- `parse` is JSON.parse, none where it throws. A null has no type: the handler throws and
-- the process ends.
def onMessage (parse : String → Option Json) (s : Relay) (ws : Nat) (socket : Socket) (raw : String) : Option Relay :=
  match parse raw with
  | none => some s
  | some .null => none
  | some msg => some (receive s ws socket msg raw)

def onClose (s : Relay) (ws : Nat) (socket : Socket) : Relay :=
  let room := s.objects socket.room
  {s with
    objects:=Function.update s.objects socket.room {room with
      slot:=Function.update room.slot socket.role none
      reconnectTimer:=Function.update room.reconnectTimer socket.role (some s.allocated)}
    sockets:=Function.update s.sockets ws (some {socket with readyState:=.closed})
    timers:=Function.update s.timers s.allocated (some ⟨socket.room,socket.sid,socket.role⟩)
    allocated:=s.allocated + 1}

def Room.isEmpty (room : Room) : Bool := (room.slot .pc).isNone && (room.slot .browser).isNone

def peerLeft (s : Relay) (room : Room) (role : Role) : Relay :=
  if (room.slot role).isNone then (room.slot role.other).elim s fun peer => s.send peer .peerLeft else s

def onTimeout (s : Relay) (id : Nat) (timer : Timer) : Relay :=
  let room := s.objects timer.room
  let fired := {room with reconnectTimer:=Function.update room.reconnectTimer timer.role none}
  let s := peerLeft {s with timers:=Function.update s.timers id none} room timer.role
  if room.isEmpty then {s.setObject timer.room {fired with buffer:=[]} with rooms:=Function.update s.rooms timer.sid none}
  else s.setObject timer.room fired

-- A socket stops being open some time before its close event.
inductive Event where
  | connection (sid role : Option String)
  | message (ws : Nat) (raw : String)
  | closing (ws : Nat)
  | closed (ws : Nat)
  | timeout (timer : Nat)
  deriving DecidableEq, Repr

def step (parse : String → Option Json) (s : Relay) : Event → Option Relay
  | .connection sid role => some (connect s sid role)
  | .message ws raw => (s.sockets ws).bind fun socket =>
      if socket.readyState = .closed then none else onMessage parse s ws socket raw
  | .closing ws => (s.sockets ws).bind fun socket =>
      if socket.readyState = .opened then some (s.setSocket ws {socket with readyState:=.closing}) else none
  | .closed ws => (s.sockets ws).bind fun socket =>
      if socket.readyState = .closed then none else some (onClose s ws socket)
  | .timeout id => (s.timers id).map fun timer => onTimeout s id timer

def relay (parse : String → Option Json) : System Relay Event where
  step := step parse

def delivered (sends : List (Nat × Text)) : List Message :=
  sends.filterMap fun send => match send.2 with
    | .signal message => some message
    | _ => none

def Relay.seatsOpen (s : Relay) (room : Nat) : Bool :=
  ((s.objects room).slot .pc).any s.isOpen || ((s.objects room).slot .browser).any s.isOpen

-- What a first join of an open socket sends is the other side's, and later than what has been
-- delivered of it.
def flushesInTurn (s : Relay) (ws : Nat) (socket : Socket) : Bool :=
  socket.joinFlushed || !s.isOpen ws || (s.objects socket.room).buffer.all fun message =>
    message.role = socket.role.other && (delivered s.sends).all fun earlier =>
      !(earlier.sid = message.sid && earlier.role = message.role) || earlier.number < message.number

-- A close event takes no other open socket's place, and a timer removes no room of an open socket.
def orderly (parse : String → Option Json) (s : Relay) : Event → Bool
  | .message ws raw => (s.sockets ws).all fun socket =>
      (parse raw).bind messageType ≠ some "join" || flushesInTurn s ws socket
  | .closed ws => (s.sockets ws).all fun socket =>
      ((s.objects socket.room).slot socket.role).all fun other => other = ws || !s.isOpen other
  | .timeout id => (s.timers id).all fun timer =>
      !(s.objects timer.room).isEmpty || (s.rooms timer.sid).all fun room => !s.seatsOpen room
  | _ => true

section Frames
variable {s : Relay} {ws : Nat} {text : Text}

@[simp] theorem send_rooms : (s.send ws text).rooms = s.rooms := by unfold Relay.send; split <;> rfl
@[simp] theorem send_objects : (s.send ws text).objects = s.objects := by unfold Relay.send; split <;> rfl
@[simp] theorem send_sockets : (s.send ws text).sockets = s.sockets := by unfold Relay.send; split <;> rfl
@[simp] theorem send_timers : (s.send ws text).timers = s.timers := by unfold Relay.send; split <;> rfl
@[simp] theorem send_allocated : (s.send ws text).allocated = s.allocated := by unfold Relay.send; split <;> rfl
@[simp] theorem send_signals : (s.send ws text).signals = s.signals := by unfold Relay.send; split <;> rfl
@[simp] theorem send_open (other : Nat) : (s.send ws text).isOpen other = s.isOpen other := by simp [Relay.isOpen]

theorem send_sends : (s.send ws text).sends = s.sends ++ if s.isOpen ws then [(ws,text)] else [] := by
  unfold Relay.send
  split <;> simp

theorem flush_state (messages : List Message) : flush s ws messages =
    {s with sends:=s.sends ++ if s.isOpen ws then messages.map fun message => (ws,.signal message) else []} := by
  induction messages generalizing s with
  | nil => simp [flush]
  | cons message rest ih =>
      unfold flush
      rw [ih,send_open,send_sends]
      cases s.isOpen ws <;> simp

theorem open_parts : s.isOpen ws = true ↔ ∃ socket, s.sockets ws = some socket ∧ socket.readyState = .opened := by
  simp [Relay.isOpen,Option.any_eq_true]

theorem delivered_append (one two : List (Nat × Text)) : delivered (one ++ two) = delivered one ++ delivered two :=
  List.filterMap_append

theorem mem_delivered {sends : List (Nat × Text)} {message : Message} :
    message ∈ delivered sends ↔ ∃ ws, (ws,.signal message) ∈ sends := by
  simp only [delivered,List.mem_filterMap]
  constructor
  · rintro ⟨⟨ws,text⟩,member,found⟩
    cases text with
    | signal other =>
        cases found
        exact ⟨ws,member⟩
    | joined role => cases found
    | peerLeft => cases found
    | answer raw => cases found
  · rintro ⟨ws,member⟩
    exact ⟨(ws,.signal message),member,rfl⟩

theorem other_other (role : Role) : role.other.other = role := by cases role <;> rfl

end Frames

end ImageSearch.SignallingRooms
