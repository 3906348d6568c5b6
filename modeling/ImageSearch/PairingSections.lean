import ImageSearch.PairingThreads

namespace ImageSearch.PairingSections
open Payload BackupState PairingStore PairingService PairingThreads

variable {desktop : DesktopIdentity} {service next : Service} {claim : Claim} {a : Acceptance}
  {session : MobilePairingSessionDraft} {sessionId : String} {outside : Outside}

theorem active_parts (active : service.active sessionId = true) :
    ∃ session, service.activeSession = some session ∧ session.sessionId = sessionId := by
  obtain ⟨session,here,same⟩ := Option.any_eq_true _ _ |>.mp active
  exact ⟨session,here,of_decide_eq_true same⟩

theorem active_session (here : service.activeSession = some session) : service.active session.sessionId = true := by
  simp [Service.active,here]

theorem active_unique {other : String} (one : service.active sessionId = true) (two : service.active other = true) :
    sessionId = other := by
  obtain ⟨session,here,rfl⟩ := active_parts one
  obtain ⟨session',here',rfl⟩ := active_parts two
  cases here.symm.trans here'
  rfl

theorem draft_parts (drafted : activeDraft service sessionId = some session) :
    service.activeSession = some session ∧ session.sessionId = sessionId := by
  obtain ⟨here,same⟩ := Option.filter_eq_some_iff.mp drafted
  exact ⟨here,of_decide_eq_true same⟩

theorem draft_none : activeDraft service sessionId = none ↔ service.active sessionId = false := by
  unfold activeDraft Service.active
  cases service.activeSession with
  | none => simp
  | some session => by_cases same : session.sessionId = sessionId <;> simp [Option.filter,same]

-- The result of a session and its record are two views of one outcome.
def Agrees : PairingResultState → MobileBackupState → Prop
  | .waiting,state => state = .pendingPairing
  | .expired,state => state = .pairingExpired
  | .mismatched,state => state = .pairingMismatched
  | .accepted,state => state = .pairingCompleted
  | .stopped,state => state = .pairingStopped
  | .rejected,_ => False

structure Carries (sessionId : String) (record : PairingStateRecord) : Prop where
  session : Payload.get record.payload "session_id" = .string sessionId
  device : Payload.get record.payload "device_uuid" = record.deviceUuid.elim .null .string

structure Coherent (sessionId : String) (result : MobilePairingResult) (record : PairingStateRecord) : Prop where
  agrees : Agrees result.state record.state
  session : result.sessionId = some sessionId
  device : result.deviceUuid = record.deviceUuid
  carries : Carries sessionId record
  unbound : record.state = .pendingPairing ∨ record.state = .pairingExpired → record.deviceUuid = none

theorem payload_carries {state : MobileBackupState} {message : String} {deviceUuid : Option String} {details : PairingDetails}
    {pairing : isPairing state = true} (named : details.sessionId = some sessionId) (device : details.deviceUuid = deviceUuid) :
    Carries sessionId (pairingStateRecord state message deviceUuid details pairing) := by
  subst device
  constructor
  · simp [pairingStateRecord,buildPairingResponsePayload,Payload.get,named,optionalField,List.lookup_cons]
  · obtain ⟨_,bound,desktopDeviceId,desktopName,folderId,folderPath,transport,pairedAt⟩ := details
    dsimp only at named
    subst named
    cases bound with
    | some deviceUuid => simp [pairingStateRecord,buildPairingResponsePayload,Payload.get,optionalField,List.lookup_cons]
    | none =>
        cases desktopDeviceId <;> cases desktopName <;> cases folderId <;> cases folderPath <;> cases transport <;>
          cases pairedAt <;> rfl

structure Consistent (service : Service) : Prop where
  session : ∀ session, service.activeSession = some session → session.sessionId ∈ service.issued ∧
    ∃ record, service.pairingStateBySessionId session.sessionId = some record ∧
      Coherent session.sessionId service.pairingResult record
  pending : ∀ pending, service.pendingMismatchResolution = some pending → service.active pending.sessionId = true

structure Writes (service next : Service) : Prop where
  activeSession : next.activeSession = service.activeSession
  issued : next.issued = service.issued
  settled : next.pairingResult = service.pairingResult ∧
      next.pairingStateBySessionId = service.pairingStateBySessionId ∨
    ∃ session record, service.activeSession = some session ∧ Coherent session.sessionId next.pairingResult record ∧
      next.pairingStateBySessionId = Function.update service.pairingStateBySessionId session.sessionId (some record)
  pending : ∀ pending, next.pendingMismatchResolution = some pending →
    service.pendingMismatchResolution = some pending ∨ service.active pending.sessionId = true

theorem writes_active (writes : Writes service next) : next.active sessionId = service.active sessionId := by
  unfold Service.active
  rw [writes.activeSession]

theorem consistent_writes (consistent : Consistent service) (writes : Writes service next) : Consistent next := by
  refine ⟨?_,?_⟩
  · intro session here
    rw [writes.activeSession] at here
    obtain ⟨issued,record,present,agrees⟩ := consistent.session session here
    refine ⟨writes.issued ▸ issued,?_⟩
    rcases writes.settled with ⟨result,records⟩ | ⟨session',record',here',agrees',records⟩
    · exact ⟨record,by rw [records]; exact present,result ▸ agrees⟩
    · cases here.symm.trans here'
      exact ⟨record',by rw [records,Function.update_self],agrees'⟩
  · intro pending there
    rw [writes_active writes]
    rcases writes.pending pending there with old | new
    · exact consistent.pending pending old
    · exact new

theorem clear_pending {pending : PendingMismatchResolution}
    (left : (service.clearPending sessionId).pendingMismatchResolution = some pending) :
    service.pendingMismatchResolution = some pending ∧ pending.sessionId ≠ sessionId := by
  unfold Service.clearPending at left
  dsimp only at left
  split at left
  · cases left
  · rename_i other
    refine ⟨left,fun same => other ?_⟩
    simp [left,same]

-- An acceptance touches the session only in its last lock section.
theorem acceptance_parts {phase : AcceptancePhase} {after : Service × AcceptanceStep}
    (moved : stepAcceptance desktop service a phase outside = some after) :
    (after.1 = {service with store:=after.1.store} ∧ ∀ answer, after.2 = .done (.ok answer) →
        answer = noActiveSession ∧ service.active a.sessionId = false) ∨
      ∃ session folder transport, phase = .finishing folder ∧ service.activeSession = some session ∧
        session.sessionId = a.sessionId ∧ after = ((acceptPairing desktop service session a folder transport).1,
          .done (.ok (acceptPairing desktop service session a folder transport).2)) := by
  unfold stepAcceptance at moved
  split at moved
  · split at moved
    · rename_i missing
      cases moved
      exact .inl ⟨rfl,by rintro answer ⟨⟩; exact ⟨rfl,draft_none.mp missing⟩⟩
    · cases moved
      exact .inl ⟨rfl,nofun⟩
  · cases moved
    exact .inl ⟨rfl,nofun⟩
  · rename_i draft directory
    dsimp only at moved
    cases moved
    refine .inl ⟨rfl,?_⟩
    intro answer ended
    dsimp only at ended
    split at ended <;> cases ended
  · split at moved
    · cases moved
      exact .inl ⟨rfl,nofun⟩
    · cases moved
      exact .inl ⟨rfl,nofun⟩
  · rename_i folder usbConnected
    split at moved
    · rename_i missing
      cases moved
      exact .inl ⟨rfl,by rintro answer ⟨⟩; exact ⟨rfl,draft_none.mp missing⟩⟩
    · rename_i session drafted
      cases moved
      obtain ⟨here,same⟩ := draft_parts drafted
      exact .inr ⟨session,folder,_,rfl,here,same,rfl⟩
  · cases moved

def folderAccepted (a : Acceptance) (session : MobilePairingSessionDraft) (store : MobileStore.Store) (directory : Directory) :
    Bool :=
  match a.repairs with
  | some context => (conflictingFolder store a.deviceUuid).all fun row => row.folderId = context.selectedFolderId
  | none => folderAvailable store session.destinationParent a.deviceUuid a.deviceName directory

def acceptanceSmooth (service : Service) (a : Acceptance) : AcceptancePhase → Outside → Bool
  | .binding session,.directory directory => folderAccepted a session service.store directory
  | .recording _ _,.resume => sessionFree service.store a.sessionId
  | _,_ => true

theorem accepted_folder {store : MobileStore.Store} {directory : Directory}
    (accepted : folderAccepted a session store directory = true) :
    ∃ folder, (acceptFolder a session store directory).1 = .ok folder := by
  unfold folderAccepted at accepted
  unfold acceptFolder
  cases repairs : a.repairs with
  | some context =>
      rw [repairs] at accepted
      exact repair_done accepted
  | none =>
      rw [repairs] at accepted
      exact folder_done accepted

theorem smooth_done {phase : AcceptancePhase} {after : Service × AcceptanceStep} {raised : Raised}
    (smooth : acceptanceSmooth service a phase outside = true)
    (moved : stepAcceptance desktop service a phase outside = some after) : after.2 ≠ .done (.error raised) := by
  intro ended
  unfold stepAcceptance at moved
  split at moved
  · split at moved <;> cases moved <;> cases ended
  · cases moved
    cases ended
  · rename_i draft directory
    obtain ⟨folder,done⟩ := accepted_folder smooth
    simp only [Option.some.injEq] at moved
    subst moved
    dsimp only at ended
    rw [done] at ended
    cases ended
  · rename_i draft folder
    obtain ⟨store,done⟩ : ∃ store, insertMobileBackupSession service.store a.sessionId a.deviceUuid folder.folderId
        .paired draft.createdAt a.currentTime = some store := session_done smooth
    rw [done] at moved
    cases moved
    cases ended
  · split at moved <;> cases moved <;> cases ended
  · cases moved

theorem accept_writes {folder : MobileFolderRecord} {transport : String} (here : service.activeSession = some session)
    (same : session.sessionId = a.sessionId) :
    Writes service (acceptPairing desktop service session a folder transport).1 := by
  refine ⟨rfl,rfl,.inr ⟨session,_,here,?_,by rw [same]; rfl⟩,?_⟩
  · rw [same]
    have completed : acceptedState (recordedState service a.sessionId) = .pairingCompleted :=
      accepted_completed recorded_pairing
    refine ⟨completed,rfl,rfl,payload_carries rfl rfl,fun unsettled => ?_⟩
    simp only [pairingStateRecord,completed] at unsettled
    rcases unsettled with never | never <;> cases never
  · intro pending left
    exact .inl (clear_pending left).1

theorem acceptance_writes {phase : AcceptancePhase} {after : Service × AcceptanceStep}
    (moved : stepAcceptance desktop service a phase outside = some after) : Writes service after.1 := by
  rcases acceptance_parts moved with ⟨same,-⟩ | ⟨session,folder,transport,-,here,same,rfl⟩
  · rw [same]
    exact ⟨rfl,rfl,.inl ⟨rfl,rfl⟩,fun _ => .inl⟩
  · exact accept_writes here same

theorem receive_parts (service : Service) (claim : Claim) :
    ((receiveClaim service claim).1 = service ∧ ∃ answer, (receiveClaim service claim).2 = .answered (.ok answer) ∧
      (answer.statusCode ≠ 200 ∨ ∃ session, service.activeSession = some session ∧ refuseFields claim.request = none ∧
        fieldText claim.request "sid" = session.sessionId ∧ replay service session = some answer)) ∨
    (∃ session, service.activeSession = some session ∧ replay service session = none ∧
      (receiveClaim service claim).1 = expireSession service session ∧
      ∃ answer, (receiveClaim service claim).2 = .answered (.ok answer) ∧ answer.statusCode ≠ 200) ∨
    ∃ session platform, service.activeSession = some session ∧ fieldText claim.request "sid" = session.sessionId ∧
      replay service session = none ∧ service.pairingRequestInProgress = false ∧
      fieldText claim.request "opt" = session.token.oneTimePasscode ∧
      receiveClaim service claim = ({service with pairingRequestInProgress:=true},
        (claim.acceptance service session platform).begin) := by
  unfold receiveClaim
  split
  · exact .inl ⟨rfl,_,rfl,.inl (by decide)⟩
  · rename_i session here
    split
    · rename_i answer refused
      refine .inl ⟨rfl,answer,rfl,.inl ?_⟩
      unfold refuseFields at refused
      split at refused
      · cases refused
        exact (by decide : (400 : Nat) ≠ 200)
      · split at refused
        · cases refused
          exact (by decide : (400 : Nat) ≠ 200)
        · cases refused
    · rename_i complete
      split
      · exact .inl ⟨rfl,_,rfl,.inl (by decide)⟩
      · rename_i named
        have named : fieldText claim.request "sid" = session.sessionId := not_not.mp named
        split
        · rename_i answer replayed
          exact .inl ⟨rfl,answer,rfl,.inr ⟨session,here,complete,named,replayed⟩⟩
        · rename_i fresh
          split
          · exact .inl ⟨rfl,_,rfl,.inl (by decide)⟩
          · rename_i idle
            split
            · exact .inl ⟨rfl,_,rfl,.inl (by decide)⟩
            · rename_i platform known
              split
              · exact .inr (.inl ⟨session,here,fresh,rfl,_,rfl,by decide⟩)
              · split
                · exact .inl ⟨rfl,_,rfl,.inl (by decide)⟩
                · rename_i right
                  exact .inr (.inr ⟨session,platform,here,named,fresh,by simpa using idle,not_not.mp right,rfl⟩)

theorem expire_writes (here : service.activeSession = some session) : Writes service (expireSession service session) := by
  refine ⟨rfl,rfl,.inr ⟨session,_,here,?_,rfl⟩,fun _ => .inl⟩
  exact ⟨rfl,rfl,rfl,payload_carries rfl rfl,fun _ => rfl⟩

theorem mismatch_writes {context : MobileBackupAgainSessionContext} (active : service.active a.sessionId = true) :
    Writes service (detectMismatch service a context) := by
  obtain ⟨session,here,same⟩ := active_parts active
  refine ⟨rfl,rfl,.inr ⟨session,mismatchRecord a,here,?_,by rw [same]; rfl⟩,?_⟩
  · rw [same]
    exact ⟨rfl,rfl,rfl,payload_carries rfl rfl,nofun⟩
  intro pending there
  cases there
  exact .inr active

theorem stopped_writes {pending : PendingMismatchResolution} {message : String} :
    Writes service (completePairingStopped service pending message) := by
  unfold completePairingStopped
  split
  · exact ⟨rfl,rfl,.inl ⟨rfl,rfl⟩,fun _ => .inl⟩
  · rename_i active
    obtain ⟨session,here,same⟩ := active_parts (by simpa using active)
    refine ⟨rfl,rfl,.inr ⟨session,_,here,?_,by rw [same]; rfl⟩,?_⟩
    · rw [same]
      have stopped : advanceBackupStateMachine (recordedState service pending.sessionId) .pairingStopped = .pairingStopped :=
        stopped_stopped recorded_pairing
      refine ⟨stopped,rfl,rfl,payload_carries rfl rfl,fun unsettled => ?_⟩
      simp only [pairingStateRecord,stopped] at unsettled
      rcases unsettled with never | never <;> cases never
    · intro pending left
      exact .inl (clear_pending left).1

theorem request_writes {after : Service × Claim} (moved : stepRequest desktop service claim outside = some after) :
    Writes service after.1 := by
  unfold stepRequest at moved
  split at moved
  · cases moved
    rcases receive_parts service claim with ⟨same,-⟩ | ⟨session,here,-,same,-⟩ | ⟨_,_,-,-,-,-,-,same⟩
    · rw [same]
      exact ⟨rfl,rfl,.inl ⟨rfl,rfl⟩,fun _ => .inl⟩
    · rw [same]
      exact expire_writes here
    · rw [same]
      exact ⟨rfl,rfl,.inl ⟨rfl,rfl⟩,fun _ => .inl⟩
  · split at moved
    · rename_i active
      cases moved
      exact mismatch_writes active
    · cases moved
      exact ⟨rfl,rfl,.inl ⟨rfl,rfl⟩,fun _ => .inl⟩
  · obtain ⟨after,step,rfl⟩ := Option.map_eq_some_iff.mp moved
    exact acceptance_writes step
  · cases moved
    exact ⟨rfl,rfl,.inl ⟨rfl,rfl⟩,fun _ => .inl⟩
  · cases moved

theorem resolver_writes {after : Service × Claim} (moved : stepResolver desktop service claim outside = some after) :
    Writes service after.1 := by
  unfold stepResolver at moved
  split at moved
  · obtain ⟨resolver,-,rfl⟩ := Option.map_eq_some_iff.mp moved
    exact ⟨rfl,rfl,.inl ⟨rfl,rfl⟩,fun _ => .inl⟩
  · cases moved
    exact stopped_writes
  · obtain ⟨after,step,rfl⟩ := Option.map_eq_some_iff.mp moved
    exact acceptance_writes step
  · cases moved

theorem claim_writes {input : Input} {after : Service × Claim} (moved : stepClaim desktop service claim input = some after) :
    Writes service after.1 := by
  cases input with
  | request outside => exact request_writes moved
  | resolver outside => exact resolver_writes moved

theorem started_event (moved : stepEvent service (.start session context) = some next) :
    session.sessionId ∉ service.issued ∧ next = startPairingSession service session context := by
  simp only [stepEvent] at moved
  split at moved
  · cases moved
  · rename_i fresh
    cases moved
    exact ⟨fresh,rfl⟩

theorem refreshed_event (moved : stepEvent service (.refresh token) = some next) :
    ∃ session, service.activeSession = some session ∧ service.pairingResult.state ≠ .accepted ∧
      next = {service with activeSession:=some {session with token}} := by
  simp only [stepEvent] at moved
  split at moved
  · cases moved
  · rename_i session here
    split at moved
    · cases moved
    · rename_i unaccepted
      cases moved
      exact ⟨session,here,unaccepted,rfl⟩

-- Closing a session writes its record and drops the rest of what is under way.
theorem close_keeps : (closeActiveSession service).store = service.store ∧
    (closeActiveSession service).issued = service.issued ∧
    (closeActiveSession service).acceptances = service.acceptances := by
  unfold closeActiveSession
  dsimp only
  split
  · split <;> exact ⟨rfl,rfl,rfl⟩
  · exact ⟨rfl,rfl,rfl⟩

theorem event_store {event : Event} (others : ∀ store, event ≠ .tables store) (moved : stepEvent service event = some next) :
    next.store = service.store := by
  cases event with
  | start session context =>
      obtain ⟨-,rfl⟩ := started_event moved
      rfl
  | refresh token =>
      obtain ⟨_,-,-,rfl⟩ := refreshed_event moved
      rfl
  | close =>
      cases moved
      exact close_keeps.1
  | shutdown =>
      cases moved
      rfl
  | tables store => exact absurd rfl (others store)

theorem consistent_event {event : Event} (consistent : Consistent service) (moved : stepEvent service event = some next) :
    Consistent next := by
  cases event with
  | start session context =>
      obtain ⟨-,rfl⟩ := started_event moved
      refine ⟨?_,nofun⟩
      intro other here
      cases here
      exact ⟨List.mem_cons_self,_,Function.update_self ..,rfl,rfl,rfl,payload_carries rfl rfl,fun _ => rfl⟩
  | refresh token =>
      obtain ⟨session,here,-,rfl⟩ := refreshed_event moved
      refine ⟨?_,?_⟩
      · intro other now
        cases now
        exact consistent.session session here
      · intro pending there
        have before := consistent.pending pending there
        simpa [Service.active,here] using before
  | close =>
      cases moved
      exact ⟨nofun,nofun⟩
  | shutdown =>
      cases moved
      exact ⟨nofun,nofun⟩
  | tables store =>
      cases moved
      exact ⟨consistent.session,consistent.pending⟩

-- An event that leaves an issued session active has changed nothing else about it.
structure Untouched (service next : Service) : Prop where
  result : next.pairingResult = service.pairingResult
  records : next.pairingStateBySessionId = service.pairingStateBySessionId
  flag : next.pairingRequestInProgress = service.pairingRequestInProgress
  pending : next.pendingMismatchResolution = service.pendingMismatchResolution
  issued : next.issued = service.issued

theorem event_issued {event : Event} (moved : stepEvent service event = some next) (issued : sessionId ∈ service.issued) :
    sessionId ∈ next.issued := by
  cases event with
  | start session context =>
      obtain ⟨-,rfl⟩ := started_event moved
      exact List.mem_cons_of_mem _ issued
  | refresh token =>
      obtain ⟨_,-,-,rfl⟩ := refreshed_event moved
      exact issued
  | close =>
      cases moved
      rw [close_keeps.2.1]
      exact issued
  | shutdown =>
      cases moved
      exact issued
  | tables store =>
      cases moved
      exact issued

theorem event_spares {event : Event} (moved : stepEvent service event = some next) (issued : sessionId ∈ service.issued)
    (active : next.active sessionId = true) : service.active sessionId = true ∧ Untouched service next := by
  cases event with
  | start session context =>
      obtain ⟨fresh,rfl⟩ := started_event moved
      have same : session.sessionId = sessionId := by
        simpa [startPairingSession,Service.settle,Service.active] using active
      exact absurd (same ▸ issued) fresh
  | refresh token =>
      obtain ⟨session,here,-,rfl⟩ := refreshed_event moved
      refine ⟨?_,rfl,rfl,rfl,rfl,rfl⟩
      simpa [Service.active,here] using active
  | close =>
      cases moved
      cases active
  | shutdown =>
      cases moved
      cases active
  | tables store =>
      cases moved
      exact ⟨active,rfl,rfl,rfl,rfl,rfl⟩

theorem consistent_constructed {store : MobileStore.Store} : Consistent (.constructed store) := ⟨nofun,nofun⟩

end ImageSearch.PairingSections
