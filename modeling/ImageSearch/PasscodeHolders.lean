import ImageSearch.ExclusiveClaims

namespace ImageSearch.PasscodeHolders
open Transitions Threads Payload BackupState PairingService PairingThreads PairingSections ExclusiveClaims

variable {desktop : DesktopIdentity} {service next : Service} {t u : Claim} {a : Acceptance} {session : MobilePairingSessionDraft}

def pairingCompleted : Result → Bool
  | .ok answer => answer.statusCode = 200 && match backupState answer with
    | .string value => value = MobileBackupState.pairingCompleted.value
    | _ => false
  | .error _ => false

structure Holds (t : Claim) (accepted : Accepted) : Prop where
  sessionId : fieldText t.request "sid" = accepted.sessionId
  oneTimePasscode : fieldText t.request "opt" = accepted.oneTimePasscode
  deviceUuid : strip (fieldText t.request "device_uuid") = accepted.deviceUuid

structure PasscodeHolder {Index : Type*} (s : Pool Index Service Claim) : Prop where
  holder : ∀ i result, (s.threads i).phase = .answered result → pairingCompleted result = true →
    ∃ accepted ∈ s.world.acceptances, Holds (s.threads i) accepted
  once : ∀ one ∈ s.world.acceptances, ∀ two ∈ s.world.acceptances, one.sessionId = two.sessionId → one = two
  alike : ∀ i j one two, (s.threads i).phase = .answered one → (s.threads j).phase = .answered two →
    pairingCompleted one = true → pairingCompleted two = true →
    fieldText (s.threads i).request "sid" = fieldText (s.threads j).request "sid" →
    fieldText (s.threads i).request "opt" = fieldText (s.threads j).request "opt" ∧
      strip (fieldText (s.threads i).request "device_uuid") = strip (fieldText (s.threads j).request "device_uuid")

def replaysOwn (service : Service) (t : Claim) : Input → Bool
  | .request .resume =>
    match t.phase,service.activeSession with
    | .arrived,some session =>
      !(refuseFields t.request).isNone || fieldText t.request "sid" ≠ session.sessionId ||
        service.pairingResult.state ≠ .accepted || fieldText t.request "opt" = session.token.oneTimePasscode &&
          service.pairingResult.deviceUuid = some (strip (fieldText t.request "device_uuid"))
    | _,_ => true
  | _ => true

def refreshesIdle (service : Service) : Event → Claim → Bool
  | .refresh _,u => (working u.phase).all fun sessionId => !service.active sessionId
  | _,_ => true

def passcodeKept : Condition Service Claim Input Event where
  own service t input := (lowersOwn service t input && replaysOwn service t input) = true
  event service event u := refreshesIdle service event u = true

def acceptanceOf : ClaimPhase → Option Acceptance
  | .mismatching a _ | .accepting a _ => some a
  | _ => none

def finalResult : ClaimPhase → Option Result
  | .leaving _ result | .answered result => some result
  | _ => none

structure Ledger (service : Service) : Prop where
  current : ∀ session, service.activeSession = some session → service.pairingResult.state = .accepted →
    ∃ deviceUuid, service.pairingResult.deviceUuid = some deviceUuid ∧
      ⟨session.sessionId,session.token.oneTimePasscode,deviceUuid⟩ ∈ service.acceptances
  accepted : ∀ accepted ∈ service.acceptances, accepted.sessionId ∈ service.issued ∧
    (service.active accepted.sessionId = true → service.pairingResult.state = .accepted)
  once : ∀ one ∈ service.acceptances, ∀ two ∈ service.acceptances, one.sessionId = two.sessionId → one = two

structure Matches (service : Service) (t : Claim) : Prop where
  works : ∀ a, acceptanceOf t.phase = some a → fieldText t.request "sid" = a.sessionId ∧
    strip (fieldText t.request "device_uuid") = a.deviceUuid ∧ ∀ session, service.activeSession = some session →
      session.sessionId = a.sessionId → session.token.oneTimePasscode = fieldText t.request "opt"
  settled : ∀ result, finalResult t.phase = some result → pairingCompleted result = true →
    ∃ accepted ∈ service.acceptances, Holds t accepted

def holders : Assertions Service Claim where
  world service := Consistent service ∧ Ledger service
  thread service t := Single service t ∧ Matches service t
  pair := Apart

theorem acceptance_working {phase : ClaimPhase} (here : acceptanceOf phase = some a) : working phase = some a.sessionId := by
  cases phase <;> cases here <;> rfl

theorem status_completed {answer : PairingAnswer} (completed : pairingCompleted (.ok answer) = true) : answer.statusCode = 200 := by
  simp only [pairingCompleted,Bool.and_eq_true,decide_eq_true_eq] at completed
  exact completed.1

theorem record_completed {record : PairingStateRecord} (completed : pairingCompleted (.ok ⟨200,record.payload⟩) = true) :
    record.state = .pairingCompleted := by
  simp only [pairingCompleted,backupState,record.stated,Bool.and_eq_true,decide_eq_true_eq] at completed
  revert completed
  cases record.state <;> first | exact fun _ => rfl | exact fun completed => absurd completed.2 (by decide)

-- What one step does to the acceptances: nothing, or the acceptance of the mover is one more.
structure Accepts (service : Service) (t : Claim) (next : Service) (a : Acceptance) (session : MobilePairingSessionDraft) :
    Prop where
  mine : working t.phase = some a.sessionId ∨ engaged t.resolver = some a.sessionId
  here : service.activeSession = some session
  same : session.sessionId = a.sessionId
  acceptances : next.acceptances = service.acceptances ++ [⟨a.sessionId,session.token.oneTimePasscode,a.deviceUuid⟩]
  result : next.pairingResult.state = .accepted ∧ next.pairingResult.deviceUuid = some a.deviceUuid

structure Retains (service next : Service) : Prop where
  acceptances : next.acceptances = service.acceptances
  result : next.pairingResult.state = .accepted → next.pairingResult = service.pairingResult

theorem acceptance_accepts {phase : AcceptancePhase} {outside : Outside} {after : Service × AcceptanceStep}
    (mine : working t.phase = some a.sessionId ∨ engaged t.resolver = some a.sessionId)
    (moved : stepAcceptance desktop service a phase outside = some after) :
    Retains service after.1 ∨ ∃ session, Accepts service t after.1 a session := by
  rcases acceptance_parts moved with ⟨same,-⟩ | ⟨session,folder,transport,-,here,same,rfl⟩
  · rw [same]
    exact .inl ⟨rfl,fun _ => rfl⟩
  · exact .inr ⟨session,mine,here,same,rfl,rfl,rfl⟩

theorem stopped_retains {pending : PendingMismatchResolution} {message : String} :
    Retains service (completePairingStopped service pending message) := by
  unfold completePairingStopped
  split
  · exact ⟨rfl,fun _ => rfl⟩
  · exact ⟨rfl,fun never => by cases never⟩

theorem claim_accepts {input : Input} {after : Service × Claim} (moved : stepClaim desktop service t input = some after) :
    Retains service after.1 ∨ ∃ a session, Accepts service t after.1 a session := by
  cases input with
  | request outside =>
      simp only [stepClaim,stepRequest] at moved
      split at moved
      · cases moved
        refine .inl ?_
        rcases receive_parts service t with ⟨same,-⟩ | ⟨session,here,fresh,same,-⟩ | ⟨_,_,-,-,-,-,-,same⟩
        · dsimp only
          rw [same]
          exact ⟨rfl,fun _ => rfl⟩
        · dsimp only
          rw [same]
          exact ⟨rfl,fun never => by cases never⟩
        · dsimp only
          rw [same]
          exact ⟨rfl,fun _ => rfl⟩
      · split at moved
        · cases moved
          exact .inl ⟨rfl,fun never => by cases never⟩
        · cases moved
          exact .inl ⟨rfl,fun _ => rfl⟩
      · rename_i _ a phase accepting
        obtain ⟨after,step,rfl⟩ := Option.map_eq_some_iff.mp moved
        exact (acceptance_accepts (.inl (by rw [accepting]; rfl)) step).imp_right fun done => ⟨a,done⟩
      · cases moved
        exact .inl ⟨rfl,fun _ => rfl⟩
      · cases moved
  | resolver outside =>
      simp only [stepClaim,stepResolver] at moved
      split at moved
      · obtain ⟨resolver,-,rfl⟩ := Option.map_eq_some_iff.mp moved
        exact .inl ⟨rfl,fun _ => rfl⟩
      · cases moved
        exact .inl stopped_retains
      · rename_i _ a phase accepting
        obtain ⟨after,step,rfl⟩ := Option.map_eq_some_iff.mp moved
        exact (acceptance_accepts (.inr (by rw [accepting]; rfl)) step).imp_right fun done => ⟨a,done⟩
      · cases moved

-- Nobody works on an accepted session or resolves it, so nobody settles it again.
theorem accepted_kept {input : Input} {after : Service × Claim} (consistent : Consistent service) (single : Single service t)
    (own : flagKept.own service t input) (moved : stepClaim desktop service t input = some after)
    (accepted : service.pairingResult.state = .accepted) : after.1.pairingResult = service.pairingResult := by
  rcases (claim_leaves consistent own moved).result with same | ⟨sessionId,active,works | ⟨resolves,-⟩⟩ | ⟨fresh,-⟩
  · exact same
  · have unsettled := single.fresh sessionId works active
    rw [accepted] at unsettled
    cases unsettled
  · have mismatched := ((single.resolver sessionId resolves).2.2 active).1
    cases accepted.symm.trans mismatched
  · rw [accepted] at fresh
    cases fresh

theorem accepts_unaccepted (single : Single service t) (accepts : Accepts service t next a session) :
    service.pairingResult.state ≠ .accepted := by
  intro accepted
  have active : service.active a.sessionId = true := accepts.same ▸ active_session accepts.here
  rcases accepts.mine with works | resolves
  · have unsettled := single.fresh _ works active
    rw [accepted] at unsettled
    cases unsettled
  · cases accepted.symm.trans ((single.resolver _ resolves).2.2 active).1

theorem ledger_moved {input : Input} {after : Service × Claim} (consistent : Consistent service) (ledger : Ledger service)
    (single : Single service t) (own : flagKept.own service t input)
    (moved : stepClaim desktop service t input = some after) : Ledger after.1 := by
  have writes := claim_writes moved
  rcases claim_accepts moved with retains | ⟨a,session,accepts⟩
  · refine ⟨?_,?_,?_⟩
    · intro session here accepted
      rw [writes.activeSession] at here
      have same := retains.result accepted
      rw [same] at accepted ⊢
      rw [retains.acceptances]
      exact ledger.current session here accepted
    · intro accepted member
      rw [retains.acceptances] at member
      obtain ⟨issued,active⟩ := ledger.accepted accepted member
      refine ⟨writes.issued ▸ issued,fun activeNow => ?_⟩
      rw [writes_active writes] at activeNow
      rw [accepted_kept consistent single own moved (active activeNow)]
      exact active activeNow
    · rw [retains.acceptances]
      exact ledger.once
  · have unaccepted := accepts_unaccepted single accepts
    have active : service.active a.sessionId = true := accepts.same ▸ active_session accepts.here
    -- The first acceptance of a session that nobody has accepted yet.
    have first : ∀ accepted ∈ service.acceptances, accepted.sessionId ≠ a.sessionId := by
      intro accepted member same
      exact unaccepted ((ledger.accepted accepted member).2 (same ▸ active))
    refine ⟨?_,?_,?_⟩
    · intro session' here _
      rw [writes.activeSession] at here
      cases here.symm.trans accepts.here
      refine ⟨a.deviceUuid,accepts.result.2,?_⟩
      rw [accepts.acceptances,accepts.same]
      simp
    · intro accepted member
      refine ⟨?_,fun _ => accepts.result.1⟩
      rw [writes.issued]
      rw [accepts.acceptances] at member
      rcases List.mem_append.mp member with old | new
      · exact (ledger.accepted accepted old).1
      · cases List.mem_singleton.mp new
        exact accepts.same ▸ (consistent.session session accepts.here).1
    · rw [accepts.acceptances]
      intro one mem two mem' same
      rcases List.mem_append.mp mem with old | new <;> rcases List.mem_append.mp mem' with old' | new'
      · exact ledger.once one old two old' same
      · cases List.mem_singleton.mp new'
        exact absurd same (first one old)
      · cases List.mem_singleton.mp new
        exact absurd same.symm (first two old')
      · cases List.mem_singleton.mp new
        cases List.mem_singleton.mp new'
        rfl

theorem acceptances_grow {input : Input} {after : Service × Claim} (moved : stepClaim desktop service t input = some after)
    {accepted : Accepted} (member : accepted ∈ service.acceptances) : accepted ∈ after.1.acceptances := by
  rcases claim_accepts moved with retains | ⟨a,session,accepts⟩
  · rw [retains.acceptances]
    exact member
  · rw [accepts.acceptances]
    exact List.mem_append_left _ member

theorem matches_beside {input : Input} {after : Service × Claim} (held : Matches service u)
    (moved : stepClaim desktop service t input = some after) : Matches after.1 u := by
  refine ⟨?_,?_⟩
  · intro a works
    obtain ⟨named,device,token⟩ := held.works a works
    exact ⟨named,device,(claim_writes moved).activeSession ▸ token⟩
  · intro result final completed
    obtain ⟨accepted,member,holds⟩ := held.settled result final completed
    exact ⟨accepted,acceptances_grow moved member,holds⟩

-- A claim that the record answers with an acceptance is the holder's.
theorem replay_holds {answer : PairingAnswer} (consistent : Consistent service) (ledger : Ledger service)
    (arrived : t.phase = .arrived) (own : replaysOwn service t (.request .resume) = true)
    (here : service.activeSession = some session) (complete : refuseFields t.request = none)
    (named : fieldText t.request "sid" = session.sessionId) (replayed : replay service session = some answer)
    (completed : pairingCompleted (.ok answer) = true) : ∃ accepted ∈ service.acceptances, Holds t accepted := by
  obtain ⟨-,record,present,coherent⟩ := consistent.session session here
  simp only [replay,present,Option.map_some] at replayed
  split at replayed
  · rename_i settled
    cases replayed
    have state := coherent.agrees
    rw [record_completed completed] at state
    have accepted : service.pairingResult.state = .accepted := by
      rcases settled with accepted | mismatched | stopped
      · exact accepted
      · rw [mismatched] at state
        cases state
      · rw [stopped] at state
        cases state
    simp only [replaysOwn,arrived,here,complete,named,accepted] at own
    have carried : fieldText t.request "opt" = session.token.oneTimePasscode ∧
        service.pairingResult.deviceUuid = some (strip (fieldText t.request "device_uuid")) := by simpa using own
    obtain ⟨deviceUuid,device,member⟩ := ledger.current session here accepted
    exact ⟨_,member,named,carried.1,Option.some.inj (carried.2.symm.trans device)⟩
  · cases replayed

theorem begin_acceptance {a : Acceptance} : acceptanceOf a.begin = some a ∧ finalResult a.begin = none := by
  unfold Acceptance.begin
  split
  · split <;> exact ⟨rfl,rfl⟩
  · exact ⟨rfl,rfl⟩

theorem matches_request {outside : Outside} {after : Service × Claim} (consistent : Consistent service)
    (ledger : Ledger service) (held : Matches service t) (own : replaysOwn service t (.request outside) = true)
    (moved : stepRequest desktop service t outside = some after) : Matches after.1 after.2 := by
  unfold stepRequest at moved
  split at moved
  · rename_i arrived
    cases moved
    rcases receive_parts service t with ⟨same,answer,answered,refused | ⟨session,here,complete,named,replayed⟩⟩ |
      ⟨session,here,-,same,answer,answered,refused⟩ | ⟨session,platform,here,named,-,-,right,begun⟩
    · dsimp only
      rw [answered]
      refine ⟨nofun,?_⟩
      rintro result ⟨⟩ completed
      exact absurd (status_completed completed) refused
    · dsimp only
      rw [answered,same]
      refine ⟨nofun,?_⟩
      rintro result ⟨⟩ completed
      obtain ⟨accepted,member,holds⟩ := replay_holds consistent ledger arrived own here complete named replayed completed
      exact ⟨accepted,member,holds.1,holds.2,holds.3⟩
    · dsimp only
      rw [answered]
      refine ⟨nofun,?_⟩
      rintro result ⟨⟩ completed
      exact absurd (status_completed completed) refused
    · rw [begun]
      refine ⟨?_,?_⟩
      · intro a works
        cases begin_acceptance.1.symm.trans works
        refine ⟨named,rfl,?_⟩
        intro session' here' _
        cases here.symm.trans here'
        exact right.symm
      · intro result final
        cases begin_acceptance.2.symm.trans final
  · rename_i a context mismatching
    split at moved
    · cases moved
      refine ⟨nofun,?_⟩
      rintro result ⟨⟩ completed
      cases record_completed completed
    · cases moved
      refine ⟨nofun,?_⟩
      rintro result ⟨⟩ completed
      exact absurd (status_completed completed) (by decide)
  · rename_i _ a phase accepting
    obtain ⟨after,step,rfl⟩ := Option.map_eq_some_iff.mp moved
    obtain ⟨named,device,token⟩ := held.works a (by rw [accepting]; rfl)
    have writes := acceptance_writes step
    refine ⟨?_,?_⟩
    · intro a' works
      dsimp only at works
      split at works
      · cases works
        exact ⟨named,device,writes.activeSession ▸ token⟩
      · cases works
    · intro result final completed
      dsimp only at final
      split at final
      · cases final
      · rename_i ended
        cases final
        rcases acceptance_parts step with ⟨-,done⟩ | ⟨session,folder,transport,-,here,same,rfl⟩
        · cases result with
          | error raised => cases completed
          | ok answer =>
              cases (done answer ended).1
              exact absurd (status_completed completed) (by decide)
        · refine ⟨_,List.mem_append_right _ (List.mem_singleton_self _),named,?_,device⟩
          exact (token session here same).symm
  · rename_i sessionId result leaving
    cases moved
    refine ⟨nofun,?_⟩
    rintro result ⟨⟩ completed
    obtain ⟨accepted,member,holds⟩ := held.settled result (by rw [leaving]; rfl) completed
    exact ⟨accepted,member,holds.1,holds.2,holds.3⟩
  · cases moved

theorem resolver_phase {outside : Outside} {after : Service × Claim}
    (moved : stepResolver desktop service t outside = some after) :
    after.2.phase = t.phase ∧ after.2.request = t.request := by
  unfold stepResolver at moved
  split at moved
  · obtain ⟨resolver,-,rfl⟩ := Option.map_eq_some_iff.mp moved
    exact ⟨rfl,rfl⟩
  · cases moved
    exact ⟨rfl,rfl⟩
  · obtain ⟨after,-,rfl⟩ := Option.map_eq_some_iff.mp moved
    exact ⟨rfl,rfl⟩
  · cases moved

theorem matches_own {input : Input} {after : Service × Claim} (consistent : Consistent service) (ledger : Ledger service)
    (held : Matches service t) (own : replaysOwn service t input = true)
    (moved : stepClaim desktop service t input = some after) : Matches after.1 after.2 := by
  cases input with
  | request outside => exact matches_request consistent ledger held own moved
  | resolver outside =>
      obtain ⟨works,settled⟩ := matches_beside held moved
      obtain ⟨phase,request⟩ := resolver_phase moved
      refine ⟨?_,?_⟩
      · rw [phase,request]
        exact works
      · rw [phase]
        intro result final completed
        obtain ⟨accepted,member,holds⟩ := settled result final completed
        exact ⟨accepted,member,request ▸ holds.1,request ▸ holds.2,request ▸ holds.3⟩

theorem event_acceptances {event : Event} (moved : stepEvent service event = some next) :
    next.acceptances = service.acceptances := by
  cases event with
  | start session context =>
      obtain ⟨-,rfl⟩ := started_event moved
      rfl
  | refresh token =>
      obtain ⟨_,-,-,rfl⟩ := refreshed_event moved
      rfl
  | close =>
      cases moved
      exact close_keeps.2.2
  | shutdown =>
      cases moved
      rfl
  | tables store =>
      cases moved
      rfl

theorem ledger_event {event : Event} (ledger : Ledger service) (moved : stepEvent service event = some next) :
    Ledger next := by
  have same := event_acceptances moved
  have accepted : ∀ accepted ∈ next.acceptances, accepted.sessionId ∈ next.issued ∧
      (next.active accepted.sessionId = true → next.pairingResult.state = .accepted) := by
    intro accepted member
    rw [same] at member
    obtain ⟨issued,active⟩ := ledger.accepted accepted member
    refine ⟨event_issued moved issued,fun activeNow => ?_⟩
    obtain ⟨before,spared⟩ := event_spares moved issued activeNow
    exact spared.result ▸ active before
  cases event with
  | start session context =>
      obtain ⟨-,rfl⟩ := started_event moved
      exact ⟨nofun,accepted,ledger.once⟩
  | refresh token =>
      obtain ⟨_,-,unaccepted,rfl⟩ := refreshed_event moved
      exact ⟨fun _ _ now => absurd now unaccepted,accepted,ledger.once⟩
  | close =>
      cases moved
      exact ⟨nofun,accepted,by rw [same]; exact ledger.once⟩
  | shutdown =>
      cases moved
      exact ⟨nofun,accepted,ledger.once⟩
  | tables store =>
      cases moved
      exact ⟨ledger.current,accepted,ledger.once⟩

-- An event that brings another token to the session a claim works on is a refresh.
theorem event_token {event : Event} (kept : refreshesIdle service event u = true) (moved : stepEvent service event = some next)
    (works : working u.phase = some a.sessionId) (issued : a.sessionId ∈ service.issued) (here : next.activeSession = some session)
    (same : session.sessionId = a.sessionId) : service.activeSession = some session := by
  have active : next.active a.sessionId = true := same ▸ active_session here
  obtain ⟨before,-⟩ := event_spares moved issued active
  cases event with
  | start session' context =>
      obtain ⟨fresh,rfl⟩ := started_event moved
      cases here
      exact absurd (same ▸ issued) fresh
  | refresh token =>
      simp only [refreshesIdle,works,Option.all_some,before] at kept
      cases kept
  | close =>
      cases moved
      cases active
  | shutdown =>
      cases moved
      cases active
  | tables store =>
      cases moved
      exact here

theorem matches_event {event : Event} (single : Single service u) (held : Matches service u)
    (kept : refreshesIdle service event u = true) (moved : stepEvent service event = some next) : Matches next u := by
  refine ⟨?_,?_⟩
  · intro a works
    obtain ⟨named,device,token⟩ := held.works a works
    refine ⟨named,device,fun session here same => ?_⟩
    have working := acceptance_working works
    have issued := (single.progress _ (working_progress working)).1
    exact token session (event_token kept moved working issued here same) same
  · intro result final completed
    obtain ⟨accepted,member,holds⟩ := held.settled result final completed
    exact ⟨accepted,by rw [event_acceptances moved]; exact member,holds⟩

theorem holders_stable : Stable holders (stepClaim desktop) stepEvent passcodeKept where
  own := by
    rintro service t input next t' ⟨consistent,ledger⟩ ⟨single,held⟩ kept moved
    simp only [passcodeKept,Bool.and_eq_true] at kept
    exact ⟨⟨consistent_writes consistent (claim_writes moved),ledger_moved consistent ledger single kept.1 moved⟩,
      single_own consistent single moved,matches_own consistent ledger held kept.2 moved⟩
  other := by
    rintro service t u input next t' ⟨consistent,ledger⟩ ⟨single,-⟩ ⟨beside,held⟩ apart apart' kept - moved
    simp only [passcodeKept,Bool.and_eq_true] at kept
    exact ⟨⟨single_beside consistent beside apart apart' kept.1 moved,matches_beside held moved⟩,
      apart_moved consistent single beside apart apart' moved⟩
  eventWorld := by
    rintro service event next ⟨consistent,ledger⟩ moved
    exact ⟨consistent_event consistent moved,ledger_event ledger moved⟩
  eventThread := by
    rintro service event next u - ⟨single,held⟩ kept moved
    exact ⟨single_event single moved,matches_event single held kept moved⟩

theorem holders_fresh {Index : Type*} {s : Pool Index Service Claim} (fresh : Fresh s) : holders.Hold s := by
  have exclusive := exclusive_fresh fresh
  obtain ⟨store,constructed⟩ := fresh.constructed
  refine ⟨⟨exclusive.world,?_⟩,fun i => ⟨exclusive.thread i,?_⟩,exclusive.pair⟩
  · rw [constructed]
    exact ⟨nofun,nofun,nofun⟩
  · rw [constructed]
    exact ⟨by rw [(fresh.arrived i).1]; nofun,by rw [(fresh.arrived i).1]; nofun⟩

variable {Index : Type*} [DecidableEq Index] {s last : Pool Index Service Claim}

-- In every run that meets the condition, whoever is answered with an acceptance holds
-- the passcode and the device of the one acceptance of its session.
theorem accepted_holds_passcode (fresh : Fresh s)
    (path : Reaches (pairingPool Index desktop) passcodeKept.Admits s last) : PasscodeHolder last := by
  have held := hold_reaches holders_stable (holders_fresh fresh) path
  have holder : ∀ i result, (last.threads i).phase = .answered result → pairingCompleted result = true →
      ∃ accepted ∈ last.world.acceptances, Holds (last.threads i) accepted := by
    intro i result answered completed
    exact (held.thread i).2.settled result (by rw [answered]; rfl) completed
  refine ⟨holder,held.world.2.once,?_⟩
  intro i j one two first second completed completed' named
  obtain ⟨accepted,member,holds⟩ := holder i one first completed
  obtain ⟨accepted',member',holds'⟩ := holder j two second completed'
  have same : accepted.sessionId = accepted'.sessionId := calc
    accepted.sessionId = fieldText (last.threads i).request "sid" := holds.sessionId.symm
    _ = fieldText (last.threads j).request "sid" := named
    _ = accepted'.sessionId := holds'.sessionId
  cases held.world.2.once accepted member accepted' member' same
  exact ⟨holds.oneTimePasscode.trans holds'.oneTimePasscode.symm,holds.deviceUuid.trans holds'.deviceUuid.symm⟩

instance (service : Service) (t : Claim) (input : Input) : Decidable (passcodeKept.own service t input) :=
  inferInstanceAs (Decidable ((lowersOwn service t input && replaysOwn service t input) = true))
instance (service : Service) (t u : Claim) (input : Input) : Decidable (passcodeKept.beside service t input u) :=
  inferInstanceAs (Decidable True)
instance (service : Service) (e : Event) (u : Claim) : Decidable (passcodeKept.event service e u) :=
  inferInstanceAs (Decidable (refreshesIdle service e u = true))

def twoPhones : Pool (Fin 2) Service Claim :=
  samplePool fun i => if i = 0 then sampleClaim "session-1" "code-1" "phone-1" else sampleClaim "session-1" "guess" "phone-2"

theorem twoPhones_fresh : Fresh twoPhones := by
  refine ⟨⟨noRows,rfl⟩,fun i => ?_⟩
  unfold twoPhones samplePool
  dsimp only
  split <;> exact ⟨rfl,rfl⟩

def acceptedRun (Index : Type*) (i : Index) : List (Move Index Input Event) :=
  [.environment (.start (sampleDraft "session-1" "code-1") none),.thread i (.request .resume),
    .thread i (.request .resume),.thread i (.request .resume),.thread i (.request (.directory ⟨id,none⟩)),
    .thread i (.request .resume),.thread i (.request (.transport false)),.thread i (.request .resume)]

def answeredCompleted (t : Claim) : Bool :=
  match t.phase with
  | .answered result => pairingCompleted result
  | _ => false

theorem answered_parts (answered : answeredCompleted t = true) :
    ∃ result, t.phase = .answered result ∧ pairingCompleted result = true := by
  unfold answeredCompleted at answered
  split at answered
  · exact ⟨_,by assumption,answered⟩
  · cases answered

theorem guess_replayed : ¬ ∀ (desktop : DesktopIdentity) (s last : Pool (Fin 2) Service Claim), Fresh s →
    Reachable (pairingPool (Fin 2) desktop) s last → PasscodeHolder last := by
  intro all
  obtain ⟨last,path,seen⟩ := checkedRun_exhibits (pairingPool (Fin 2) sampleIdentity) (fun _ _ => True) twoPhones
    (acceptedRun (Fin 2) 0 ++ [.thread 1 (.request .resume)])
    (fun last => answeredCompleted (last.threads 0) && answeredCompleted (last.threads 1) &&
      fieldText (last.threads 0).request "sid" = fieldText (last.threads 1).request "sid" &&
      fieldText (last.threads 0).request "opt" ≠ fieldText (last.threads 1).request "opt") (by decide +kernel)
  simp only [Bool.and_eq_true,decide_eq_true_eq] at seen
  obtain ⟨⟨⟨first,second⟩,named⟩,different⟩ := seen
  obtain ⟨one,answered,completed⟩ := answered_parts first
  obtain ⟨two,answered',completed'⟩ := answered_parts second
  exact different ((all sampleIdentity twoPhones last twoPhones_fresh path).alike 0 1 one two answered answered' completed
    completed' named).1

def onePhone : Pool (Fin 2) Service Claim := samplePool fun _ => sampleClaim "session-1" "code-1" "phone-1"

theorem holder_replayed : ∃ last, Reaches (pairingPool (Fin 2) sampleIdentity) passcodeKept.Admits onePhone last ∧
    PasscodeHolder last ∧ answeredCompleted (last.threads 1) = true := by
  obtain ⟨last,path,seen⟩ := checkedRun_exhibits (pairingPool (Fin 2) sampleIdentity) passcodeKept.Admits onePhone
    (acceptedRun (Fin 2) 0 ++ [.thread 1 (.request .resume)]) (fun last => answeredCompleted (last.threads 1))
    (by decide +kernel)
  exact ⟨last,path,accepted_holds_passcode ⟨⟨noRows,rfl⟩,fun _ => ⟨rfl,rfl⟩⟩ path,seen⟩

end ImageSearch.PasscodeHolders
