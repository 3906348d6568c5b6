import ImageSearch.ServedTransfers
import ImageSearch.ShareSessions

namespace ImageSearch.SessionIds
open Payload Transitions Threads TrustSessions SharedStashes
open ShareSessions (SessionState)

def maxCounter : Nat := 0xFF

-- The counter that next_session_id leaves, and hex(counter)[2:].
def nextCounter (current : Nat) : Nat := if maxCounter < current + 1 then 1 else current + 1

def hexId (counter : Nat) : String := String.ofList (Nat.toDigits 16 counter)

-- The desktop's registries. `transfers` is the state of the session that a MOBILE_TO_PC trust
-- session is for, by the trust session; a peer runs until its loop has ended. Ghost: the trust
-- sessions and the peers that were in use when another was put under their id.
structure Receiver where
  counter : Nat := 0
  registry : Registry := {}
  stashes : String → Option StashEntry := fun _ => none
  transfers : Nat → SessionState := fun _ => .bootstrapped
  sessionIds : String → Option String := fun _ => none
  peers : String → Option Nat := fun _ => none
  running : Nat → Bool := fun _ => false
  started : Nat := 0
  replaced : List Nat := []
  dropped : List Nat := []

-- Its stash is neither claimed nor expired, or its mobile-to-PC session is not terminal.
def sessionInUse (w : Receiver) (i : Nat) (session : TrustSession) : Bool :=
  match session.flowType with
  | .pcToMobile => (session.stashId.bind w.stashes).any fun entry => !entry.claimed && !entry.expired
  | .mobileToPc => (w.transfers i).active

def usedBy (w : Receiver) (sessionId : String) : Option Nat :=
  (w.registry.sessions sessionId).filter fun i => (w.registry.objects i).any (sessionInUse w i)

def runningPeer (w : Receiver) (sessionId : String) : Option Nat := (w.peers sessionId).filter w.running

structure Trigger where
  stashId : String
  files : List FileEntry
  optCode : String
  createdAt : Nat
  nonce : Bytes
  deriving DecidableEq, Repr

def Trigger.entry (trigger : Trigger) : StashEntry :=
  {files:=trigger.files,optCode:=trigger.optCode,createdAt:=trigger.createdAt,expiresAt:=trigger.createdAt + optCodeTtlSeconds}

-- _process_trigger, cut at its locks: the stash, the id, the trust session, the id of the
-- stash, and _on_stash_created, which looks that up and puts the peer into its table.
inductive TriggerStage where
  | stashing
  | numbering
  | creating (sessionId : String)
  | noting (sessionId : String)
  | announcing (sessionId : String)
  | registering (sessionId : String)
  | returned
  deriving DecidableEq, Repr

inductive Actor where
  | trust (t : TrustRequest)
  | trigger (trigger : Trigger) (stage : TriggerStage)
  deriving DecidableEq, Repr

def creates : Actor → Option String
  | .trust (.handshake sessionId _ .creating) => some sessionId
  | .trigger _ (.creating sessionId) => some sessionId
  | _ => none

def registers : Actor → Option String
  | .trigger _ (.creating sessionId) | .trigger _ (.noting sessionId) | .trigger _ (.announcing sessionId)
  | .trigger _ (.registering sessionId) => some sessionId
  | _ => none

def Receiver.replacing (w : Receiver) (sessionId : Option String) : Receiver :=
  {w with replaced:=w.replaced ++ (sessionId.bind (usedBy w)).toList}

variable (code : Outlying)

def stepTrigger (w : Receiver) (trigger : Trigger) (stage : TriggerStage) : Option (Receiver × TriggerStage) :=
  match stage with
  | .stashing =>
      if (w.stashes trigger.stashId).isSome then none
      else some ({w with stashes:=Function.update w.stashes trigger.stashId (some trigger.entry)},.numbering)
  | .numbering => some ({w with counter:=nextCounter w.counter},.creating (hexId (nextCounter w.counter)))
  | .creating sessionId => some ({w with
      registry:=triggerSession w.registry ⟨sessionId,trigger.optCode,trigger.stashId,trigger.nonce⟩},.noting sessionId)
  | .noting sessionId => some ({w with sessionIds:=Function.update w.sessionIds trigger.stashId (some sessionId)},.announcing sessionId)
  | .announcing _ => some (w,(w.sessionIds trigger.stashId).elim .returned .registering)
  | .registering sessionId => some ({w with
      peers:=Function.update w.peers sessionId (some w.started)
      running:=Function.update w.running w.started true
      started:=w.started + 1
      dropped:=w.dropped ++ (runningPeer w sessionId).toList},.returned)
  | .returned => none

def stepActor (w : Receiver) (actor : Actor) (outside : Outside) : Option (Receiver × Actor) :=
  match actor with
  | .trust t => (stepTrust code w.registry t outside).map fun next =>
      ({w.replacing (creates actor) with registry:=next.1},.trust next.2)
  | .trigger trigger stage => (stepTrigger (w.replacing (creates actor)) trigger stage).map fun next =>
      (next.1,.trigger trigger next.2)

-- What retrievals, cancel_stash and the timer do to a stash, the handlers of a mobile-to-PC
-- session to its state, and the end of a peer's loop.
inductive Progress where
  | claimed (stashId : String)
  | invalidated (stashId : String)
  | expired (stashId : String)
  | transferred (session : Nat) (state : SessionState)
  | peerDone (peer : Nat)
  deriving DecidableEq, Repr

def Receiver.changeStash (w : Receiver) (stashId : String) (change : StashEntry → StashEntry) : Receiver :=
  {w with stashes:=Function.update w.stashes stashId ((w.stashes stashId).map change)}

def progress (w : Receiver) : Progress → Option Receiver
  | .claimed stashId => some (w.changeStash stashId StashEntry.claim)
  | .invalidated stashId => some (w.changeStash stashId StashEntry.invalidate)
  | .expired stashId => some (w.changeStash stashId fun entry => {entry with expired:=true})
  | .transferred session state => some {w with transfers:=Function.update w.transfers session state}
  | .peerDone peer => some {w with running:=Function.update w.running peer false}

def receiverPool (Index : Type*) [DecidableEq Index] : System (Pool Index Receiver Actor) (Move Index Outside Progress) :=
  pool (stepActor code) progress

-- The generator gives a number that nothing in use is under, neither a session nor a peer.
def numberFree (w : Receiver) : Actor → Bool
  | .trigger _ .numbering => (usedBy w (hexId (nextCounter w.counter))).isNone && (runningPeer w (hexId (nextCounter w.counter))).isNone
  | _ => true

-- Nobody else is on the way to create a session, or to register a peer, under an id that is
-- given to a trigger or that a handshake does not find.
def idAlone (w : Receiver) (actor other : Actor) : Bool :=
  match actor with
  | .trigger _ .numbering => creates other ≠ some (hexId (nextCounter w.counter)) && registers other ≠ some (hexId (nextCounter w.counter))
  | .trust (.handshake sessionId _ .arrived) => (w.registry.sessions sessionId).isSome || creates other ≠ some sessionId
  | _ => true

-- A finished transfer is not taken up again while its session is about to be replaced.
def notRevived (w : Receiver) (event : Progress) (other : Actor) : Bool :=
  match event with
  | .transferred session state => !state.active || (creates other).all fun sessionId => w.registry.sessions sessionId ≠ some session
  | _ => true

def idsFree : Condition Receiver Actor Outside Progress where
  own w actor _ := numberFree w actor = true
  beside w actor _ other := idAlone w actor other = true
  event w event other := notRevived w event other = true

end ImageSearch.SessionIds
