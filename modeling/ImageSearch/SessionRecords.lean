import ImageSearch.ExclusiveClaims

namespace ImageSearch.SessionRecords
open Transitions Threads Payload PairingService PairingThreads PairingSections ExclusiveClaims

variable {desktop : DesktopIdentity} {service next : Service} {t u : Claim} {sessionId deviceUuid : String}
  {Index : Type*} [DecidableEq Index] {start s last : Pool Index Service Claim}

def stateFields : List String := ["schema","session_id","device_uuid"]

def withDevice (payload : Fields) (deviceUuid : String) : Fields :=
  match Payload.get payload "device_uuid" with
  | .null => (payload.filter fun field => field.1 ≠ "device_uuid") ++ [("device_uuid",.string deviceUuid)]
  | _ => payload

def handlePairingStateRequest (service : Service) (request : Fields) : PairingAnswer :=
  match stateFields.find? fun fieldName => strip (fieldText request fieldName) = "" with
  | some fieldName => refusal 400 ("The pairing state request is missing the required field '" ++ fieldName ++ "'.")
      .pendingPairing
  | none =>
    if fieldText request "schema" ≠ pairingProtocolSchema then
      refusal 400 "The pairing state request schema version is unsupported." .pendingPairing
    else
    match service.pairingStateBySessionId (strip (fieldText request "session_id")) with
    | none => refusal 404 "Desktop could not find this pairing session state." .pairingStopped
    | some record =>
      if record.deviceUuid.any fun deviceUuid => deviceUuid ≠ strip (fieldText request "device_uuid") then
        refusal 403 "Desktop rejected this pairing state request." .pairingStopped
      else ⟨200,withDevice record.payload (strip (fieldText request "device_uuid"))⟩

-- Result, record and payload of an active session tell one story.
theorem consistent_reaches {admitted : Pool Index Service Claim → Move Index Input Event → Prop}
    (consistent : Consistent s.world) (path : Reaches (pairingPool Index desktop) admitted s last) : Consistent last.world := by
  have preserved : ∀ s move next, Consistent s.world → admitted s move →
      (pairingPool Index desktop).step s move = some next → Consistent next.world := by
    intro s move next old _ taken
    cases move with
    | thread i input =>
        obtain ⟨world',thread',moved,rfl⟩ := thread_parts taken
        exact consistent_writes old (claim_writes moved)
    | environment event =>
        obtain ⟨world',moved,rfl⟩ := environment_parts taken
        exact consistent_event old moved
  have kept := reaches_preserves preserved consistent path
  exact kept

structure StateCoherent (service : Service) (session : MobilePairingSessionDraft) (record : PairingStateRecord) : Prop where
  recorded : service.pairingStateBySessionId session.sessionId = some record
  coherent : Coherent session.sessionId service.pairingResult record
  stated : Payload.get record.payload "backup_state" = .string record.state.value

theorem pairing_state_coherent (fresh : Fresh s) (path : Reachable (pairingPool Index desktop) s last)
    (session : MobilePairingSessionDraft) (active : last.world.activeSession = some session) :
    ∃ record, StateCoherent last.world session record := by
  have start : Consistent s.world := by
    obtain ⟨store,constructed⟩ := fresh.constructed
    rw [constructed]
    exact consistent_constructed
  obtain ⟨-,record,recorded,coherent⟩ := (consistent_reaches start path).session session active
  exact ⟨record,recorded,coherent,record.stated⟩

def mismatchedRun (Index : Type*) (i : Index) : List (Move Index Input Event) :=
  [.environment (.start (sampleDraft "session-1" "code-1") (some ⟨1,"/backups/Phone","phone-0"⟩)),
    .thread i (.request .resume),.thread i (.request .resume)]

def onePhone : Pool Unit Service Claim := samplePool fun _ => sampleClaim "session-1" "code-1" "phone-1"

theorem onePhone_fresh : Fresh onePhone := ⟨⟨noRows,rfl⟩,fun _ => ⟨rfl,rfl⟩⟩

theorem mismatched_coherent : ∃ last record, Reachable (pairingPool Unit sampleIdentity) onePhone last ∧
    last.world.pairingResult.state = .mismatched ∧
    StateCoherent last.world (sampleDraft "session-1" "code-1") record := by
  obtain ⟨last,path,seen⟩ := checkedRun_exhibits (pairingPool Unit sampleIdentity) (fun _ _ => True) onePhone
    (mismatchedRun Unit ()) (fun last => last.world.pairingResult.state = .mismatched &&
      last.world.activeSession = some (sampleDraft "session-1" "code-1")) (by decide +kernel)
  simp only [Bool.and_eq_true,decide_eq_true_eq] at seen
  obtain ⟨record,coherent⟩ := pairing_state_coherent onePhone_fresh path _ seen.2
  exact ⟨last,record,path,seen.1,coherent⟩

def Bound (service : Service) (sessionId deviceUuid : String) : Prop :=
  ∃ record, service.pairingStateBySessionId sessionId = some record ∧ record.deviceUuid = some deviceUuid

def closesUnbound (service : Service) : Event → Bool
  | .close => service.activeSession.isNone || service.pairingResult.state = .accepted ||
      service.pairingResult.deviceUuid.isNone
  | _ => true

def shutsDown : Event → Bool
  | .shutdown => true
  | _ => false

def keepsBinding (closes : Service → Event → Bool) (s : Pool Index Service Claim) (move : Move Index Input Event) : Prop :=
  flagKept.Admits s move ∧ match move with
    | .thread _ _ => True
    | .environment event => closes s.world event = true

def bindingKept : Pool Index Service Claim → Move Index Input Event → Prop := keepsBinding closesUnbound

def bindingHeld : Pool Index Service Claim → Move Index Input Event → Prop :=
  keepsBinding fun service event => closesUnbound service event && !shutsDown event

structure BindingKept (service later : Service) : Prop where
  bound : ∀ sessionId deviceUuid, Bound service sessionId deviceUuid → Bound later sessionId deviceUuid
  answers : ∀ sessionId deviceUuid request, Bound service sessionId deviceUuid →
    strip (fieldText request "session_id") = sessionId → (handlePairingStateRequest later request).statusCode = 200 →
    strip (fieldText request "device_uuid") = deviceUuid

theorem state_answered {request : Fields} (bound : Bound service sessionId deviceUuid)
    (named : strip (fieldText request "session_id") = sessionId)
    (answered : (handlePairingStateRequest service request).statusCode = 200) :
    strip (fieldText request "device_uuid") = deviceUuid := by
  obtain ⟨record,recorded,device⟩ := bound
  unfold handlePairingStateRequest at answered
  rw [named,recorded] at answered
  by_contra different
  have foreign : (record.deviceUuid.any fun deviceUuid => deviceUuid ≠ strip (fieldText request "device_uuid")) = true := by
    simp [device,Ne.symm different]
  dsimp only at answered
  split at answered
  · cases answered
  · split at answered
    · cases answered
    · cases answered

def Recorded (service : Service) : Prop :=
  ∀ sessionId record, service.pairingStateBySessionId sessionId = some record → sessionId ∈ service.issued

theorem recorded_update {records : String → Option PairingStateRecord} {record : PairingStateRecord} {issued : List String}
    {other : String} (recorded : ∀ sessionId record, records sessionId = some record → sessionId ∈ issued) (mine : other ∈ issued)
    (sessionId : String) (record' : PairingStateRecord)
    (present : Function.update records other (some record) sessionId = some record') : sessionId ∈ issued := by
  by_cases same : sessionId = other
  · exact same ▸ mine
  · rw [Function.update_of_ne same] at present
    exact recorded sessionId record' present

theorem recorded_writes (consistent : Consistent service) (recorded : Recorded service) (writes : Writes service next) :
    Recorded next := by
  unfold Recorded
  rw [writes.issued]
  rcases writes.settled with ⟨-,records⟩ | ⟨session,record,here,-,records⟩
  · rw [records]
    exact recorded
  · rw [records]
    exact recorded_update recorded (consistent.session session here).1

theorem recorded_event {event : Event} (consistent : Consistent service) (recorded : Recorded service)
    (moved : stepEvent service event = some next) : Recorded next := by
  cases event with
  | start session context =>
      obtain ⟨-,rfl⟩ := started_event moved
      refine recorded_update (fun sessionId record present => ?_) List.mem_cons_self
      exact List.mem_cons_of_mem _ (recorded sessionId record present)
  | refresh token =>
      obtain ⟨_,-,-,rfl⟩ := refreshed_event moved
      exact recorded
  | close =>
      cases moved
      unfold closeActiveSession
      dsimp only
      split
      · rename_i session here
        split
        · exact recorded
        · exact recorded_update recorded (consistent.session session here).1
      · exact recorded
  | shutdown =>
      cases moved
      intro sessionId record present
      cases present
  | tables store =>
      cases moved
      exact recorded

-- An active session is bound as its result is, and a result that binds is settled.
theorem bound_result {session : MobilePairingSessionDraft} (consistent : Consistent service)
    (here : service.activeSession = some session) (bound : Bound service session.sessionId deviceUuid) :
    service.pairingResult.deviceUuid = some deviceUuid ∧ unsettled service.pairingResult.state = false := by
  obtain ⟨record,recorded,device⟩ := bound
  obtain ⟨-,record',recorded',coherent⟩ := consistent.session session here
  cases recorded.symm.trans recorded'
  refine ⟨coherent.device.trans device,?_⟩
  have agrees := coherent.agrees
  cases state : service.pairingResult.state <;> rw [state] at agrees <;> first | rfl | skip
  · rw [coherent.unbound (.inl agrees)] at device
    cases device
  · cases agrees
  · rw [coherent.unbound (.inr agrees)] at device
    cases device

theorem bound_moved {input : Input} {after : Service × Claim} (consistent : Consistent service) (single : Single service t)
    (own : flagKept.own service t input) (moved : stepClaim desktop service t input = some after)
    (bound : Bound service sessionId deviceUuid) : Bound after.1 sessionId deviceUuid := by
  rcases (claim_writes moved).settled with ⟨-,records⟩ | ⟨session,record,here,coherent,records⟩
  · obtain ⟨record,recorded,device⟩ := bound
    exact ⟨record,by rw [records]; exact recorded,device⟩
  · by_cases same : sessionId = session.sessionId
    · subst same
      obtain ⟨device,settled⟩ := bound_result consistent here bound
      refine ⟨record,by rw [records,Function.update_self],coherent.device.symm.trans ?_⟩
      rcases (claim_leaves consistent own moved).result with kept | ⟨other,active,works | ⟨resolves,resolved⟩⟩ | ⟨fresh,-⟩
      · rw [kept]
        exact device
      · cases (single.fresh other works active).symm.trans settled
      · rw [resolved,← ((single.resolver other resolves).2.2 active).2]
        exact device
      · cases fresh.symm.trans settled
    · obtain ⟨record',recorded,device⟩ := bound
      exact ⟨record',by rw [records,Function.update_of_ne same]; exact recorded,device⟩

theorem bound_event {event : Event} (consistent : Consistent service) (recorded : Recorded service)
    (kept : (closesUnbound service event && !shutsDown event) = true) (moved : stepEvent service event = some next)
    (bound : Bound service sessionId deviceUuid) : Bound next sessionId deviceUuid := by
  simp only [Bool.and_eq_true] at kept
  cases event with
  | start session context =>
      obtain ⟨fresh,rfl⟩ := started_event moved
      obtain ⟨record,present,device⟩ := bound
      refine ⟨record,(Function.update_of_ne ?_ _ _).trans present,device⟩
      exact fun same => fresh (same ▸ recorded sessionId record present)
  | refresh token =>
      obtain ⟨_,-,-,rfl⟩ := refreshed_event moved
      exact bound
  | close =>
      cases moved
      unfold closeActiveSession
      dsimp only
      split
      · rename_i session here
        split
        · exact bound
        · rename_i unaccepted
          have loose : service.pairingResult.deviceUuid = none := by
            simpa [closesUnbound,here,unaccepted] using kept.1
          by_cases same : sessionId = session.sessionId
          · subst same
            rw [(bound_result consistent here bound).1] at loose
            cases loose
          · obtain ⟨record,present,device⟩ := bound
            exact ⟨record,(Function.update_of_ne same _ _).trans present,device⟩
      · exact bound
  | shutdown => cases kept.2
  | tables store =>
      cases moved
      exact bound

-- What a run keeps: the claims stay exclusive, the records consistent and of issued sessions.
structure Recording (s : Pool Index Service Claim) : Prop where
  exclusive : exclusive.Hold s
  recorded : Recorded s.world

omit [DecidableEq Index] in
theorem recording_fresh (fresh : Fresh s) : Recording s := by
  refine ⟨exclusive_fresh fresh,?_⟩
  obtain ⟨store,constructed⟩ := fresh.constructed
  rw [constructed]
  exact nofun

theorem recording_step {move : Move Index Input Event} (recording : Recording s) (kept : flagKept.Admits s move)
    (taken : (pairingPool Index desktop).step s move = some last) : Recording last := by
  refine ⟨hold_preserved exclusive_stable recording.exclusive kept taken,?_⟩
  cases move with
  | thread i input =>
      obtain ⟨world',thread',moved,rfl⟩ := thread_parts taken
      exact recorded_writes recording.exclusive.world recording.recorded (claim_writes moved)
  | environment event =>
      obtain ⟨world',moved,rfl⟩ := environment_parts taken
      exact recorded_event recording.exclusive.world recording.recorded moved

theorem bound_step {move : Move Index Input Event} (recording : Recording s) (kept : bindingHeld s move)
    (taken : (pairingPool Index desktop).step s move = some last) (bound : Bound s.world sessionId deviceUuid) :
    Bound last.world sessionId deviceUuid := by
  cases move with
  | thread i input =>
      obtain ⟨world',thread',moved,rfl⟩ := thread_parts taken
      exact bound_moved recording.exclusive.world (recording.exclusive.thread i) kept.1.1 moved bound
  | environment event =>
      obtain ⟨world',moved,rfl⟩ := environment_parts taken
      exact bound_event recording.exclusive.world recording.recorded kept.2 moved bound

theorem recording_reaches (fresh : Fresh start) (path : Reaches (pairingPool Index desktop) bindingKept start s) :
    Recording s :=
  reaches_preserves (fun _ _ _ old kept taken => recording_step old kept.1 taken) (recording_fresh fresh) path

theorem bound_reaches (recording : Recording s) (onward : Reaches (pairingPool Index desktop) bindingHeld s last)
    (bound : Bound s.world sessionId deviceUuid) : Bound last.world sessionId deviceUuid := by
  have preserved : ∀ s move next, Recording s ∧ Bound s.world sessionId deviceUuid → bindingHeld s move →
      (pairingPool Index desktop).step s move = some next → Recording next ∧ Bound next.world sessionId deviceUuid :=
    fun s move next old kept taken => ⟨recording_step old.1 kept.1 taken,bound_step old.1 kept taken old.2⟩
  have kept := reaches_preserves preserved ⟨recording,bound⟩ onward
  exact kept.2

-- A binding survives acceptance, stop, cancel, expiry and close, in every order.
theorem device_binding_kept (fresh : Fresh start) (path : Reaches (pairingPool Index desktop) bindingKept start s)
    (onward : Reaches (pairingPool Index desktop) bindingHeld s last) : BindingKept s.world last.world := by
  have recording := recording_reaches fresh path
  refine ⟨fun sessionId deviceUuid bound => bound_reaches recording onward bound,?_⟩
  intro sessionId deviceUuid request bound named answered
  exact state_answered (bound_reaches recording onward bound) named answered

instance [Fintype Index] (closes : Service → Event → Bool) (s : Pool Index Service Claim) (move : Move Index Input Event) :
    Decidable (keepsBinding closes s move) :=
  match move with
  | .thread i input => inferInstanceAs (Decidable (flagKept.Admits s (.thread i input) ∧ True))
  | .environment event =>
    inferInstanceAs (Decidable (flagKept.Admits s (.environment event) ∧ closes s.world event = true))

instance [Fintype Index] (s : Pool Index Service Claim) (move : Move Index Input Event) : Decidable (bindingKept s move) :=
  inferInstanceAs (Decidable (keepsBinding _ s move))
instance [Fintype Index] (s : Pool Index Service Claim) (move : Move Index Input Event) : Decidable (bindingHeld s move) :=
  inferInstanceAs (Decidable (keepsBinding _ s move))

def recordDevice (service : Service) (sessionId : String) : Option String :=
  (service.pairingStateBySessionId sessionId).bind PairingStateRecord.deviceUuid

theorem record_bound : recordDevice service sessionId = some deviceUuid ↔ Bound service sessionId deviceUuid := by
  unfold recordDevice Bound
  exact Option.bind_eq_some_iff

def foreignState : Fields :=
  [("schema",.string pairingProtocolSchema),("session_id",.string "session-1"),("device_uuid",.string "phone-9")]

-- The desktop's user closes the dialog while the mismatch waits for a decision.
theorem close_unbinds : ¬ ∀ (desktop : DesktopIdentity) (start s last : Pool Unit Service Claim), Fresh start →
    Reachable (pairingPool Unit desktop) start s →
    Reaches (pairingPool Unit desktop) (fun _ move => ∀ event, move = .environment event → shutsDown event = false) s last →
    BindingKept s.world last.world := by
  intro all
  obtain ⟨s,path,seen⟩ := checkedRun_exhibits (pairingPool Unit sampleIdentity) (fun _ _ => True) onePhone
    (mismatchedRun Unit ()) (fun s => recordDevice s.world "session-1" = some "phone-1" &&
      (handlePairingStateRequest (closeActiveSession s.world) foreignState).statusCode = 200) (by decide +kernel)
  simp only [Bool.and_eq_true,decide_eq_true_eq] at seen
  have closed : Reaches (pairingPool Unit sampleIdentity)
      (fun _ move => ∀ event, move = .environment event → shutsDown event = false) s
      {s with world:=closeActiveSession s.world} := by
    have taken : (pairingPool Unit sampleIdentity).step s (.environment .close) =
        some {s with world:=closeActiveSession s.world} := rfl
    refine reaches_step reaches_refl ?_ taken
    rintro event ⟨⟩
    rfl
  have kept := all sampleIdentity onePhone s _ onePhone_fresh path closed
  exact absurd (kept.answers "session-1" "phone-1" foreignState (record_bound.mp seen.1) (by decide +kernel) seen.2)
    (by decide +kernel)

-- The mismatch is cancelled; the record of the stopped session keeps its phone.
theorem cancel_keeps_binding : ∃ s last, Reaches (pairingPool Unit sampleIdentity) bindingKept onePhone s ∧
    Reaches (pairingPool Unit sampleIdentity) bindingHeld s last ∧ Bound s.world "session-1" "phone-1" ∧
    last.world.pairingResult.state = .stopped ∧ BindingKept s.world last.world := by
  obtain ⟨s,path,seen⟩ := checkedRun_exhibits (pairingPool Unit sampleIdentity) bindingKept onePhone
    (mismatchedRun Unit ()) (fun s => recordDevice s.world "session-1" = some "phone-1" &&
      ((pairingPool Unit sampleIdentity).checkedRun bindingHeld s
        [.thread () (.resolver (.decided (some .cancel))),.thread () (.resolver .resume)]).any
          fun last => last.world.pairingResult.state = .stopped) (by decide +kernel)
  simp only [Bool.and_eq_true,decide_eq_true_eq] at seen
  obtain ⟨last,onward,stopped⟩ := checkedRun_exhibits (pairingPool Unit sampleIdentity) bindingHeld s _
    (fun last => last.world.pairingResult.state = .stopped) seen.2
  exact ⟨s,last,path,onward,record_bound.mp seen.1,of_decide_eq_true stopped,device_binding_kept onePhone_fresh path onward⟩

end ImageSearch.SessionRecords
