import ImageSearch.PairingSections

namespace ImageSearch.ExclusiveClaims
open Transitions Threads PairingService PairingThreads PairingSections

variable {desktop : DesktopIdentity} {service next : Service} {t u : Claim} {sessionId : String}

def working : ClaimPhase → Option String
  | .mismatching a _ | .accepting a _ => some a.sessionId
  | _ => none

def inProgress : ClaimPhase → Option String
  | .leaving sessionId _ => some sessionId
  | phase => working phase

def engaged : ResolverPhase → Option String
  | .resolving pending | .stopping pending _ => some pending.sessionId
  | .accepting a _ => some a.sessionId
  | _ => none

def engagedDevice : ResolverPhase → Option String
  | .resolving pending | .stopping pending _ => some pending.deviceUuid
  | .accepting a _ => some a.deviceUuid
  | _ => none

def inDatabase : AcceptancePhase → Bool
  | .registering _ | .binding _ | .recording _ _ => true
  | _ => false

def writesFor (t : Claim) (sessionId : String) : Prop :=
  (∃ a phase, t.phase = .accepting a phase ∧ inDatabase phase = true ∧ a.sessionId = sessionId) ∨
    ∃ a phase, t.resolver = .accepting a phase ∧ inDatabase phase = true ∧ a.sessionId = sessionId

structure OneAtATime {Index : Type*} (s : Pool Index Service Claim) : Prop where
  handling : ∀ i j sessionId, inProgress (s.threads i).phase = some sessionId →
    inProgress (s.threads j).phase = some sessionId → s.world.active sessionId = true → i = j
  database : ∀ i j sessionId, writesFor (s.threads i) sessionId → writesFor (s.threads j) sessionId → i = j

-- A claim lowers the flag only for its own session, or finds it lowered.
def lowersOwn (service : Service) (t : Claim) : Input → Bool
  | .request .resume =>
    match t.phase with
    | .leaving sessionId _ => service.active sessionId || !service.pairingRequestInProgress
    | _ => true
  | _ => true

def flagKept : Condition Service Claim Input Event where
  own service t input := lowersOwn service t input = true

def settledOwn : ClaimPhase → Bool
  | .leaving _ _ | .answered _ => true
  | _ => false

def unsettled : PairingResultState → Bool
  | .accepted | .mismatched | .stopped => false
  | .waiting | .rejected | .expired => true

structure Single (service : Service) (t : Claim) : Prop where
  progress : ∀ sessionId, inProgress t.phase = some sessionId → sessionId ∈ service.issued ∧
    (service.active sessionId = true → service.pairingRequestInProgress = true)
  fresh : ∀ sessionId, working t.phase = some sessionId → service.active sessionId = true →
    unsettled service.pairingResult.state = true
  resolver : ∀ sessionId, engaged t.resolver = some sessionId → settledOwn t.phase = true ∧
    sessionId ∈ service.issued ∧ (service.active sessionId = true → service.pairingResult.state = .mismatched ∧
      service.pairingResult.deviceUuid = engagedDevice t.resolver)

structure Apart (t u : Claim) : Prop where
  progress : ∀ sessionId, inProgress t.phase = some sessionId → inProgress u.phase ≠ some sessionId
  resolvers : ∀ sessionId, engaged t.resolver = some sessionId → engaged u.resolver ≠ some sessionId
  resolver : ∀ sessionId, working t.phase = some sessionId → engaged u.resolver ≠ some sessionId

def exclusive : Assertions Service Claim where
  world := Consistent
  thread := Single
  pair := Apart

theorem working_progress {phase : ClaimPhase} (works : working phase = some sessionId) :
    inProgress phase = some sessionId := by
  cases phase <;> first | exact works | cases works

theorem settled_idle {phase : ClaimPhase} (settled : settledOwn phase = true) : working phase = none := by
  cases phase <;> first | rfl | cases settled

theorem begin_working {a : Acceptance} : working a.begin = some a.sessionId := by
  unfold Acceptance.begin
  split
  · split <;> rfl
  · rfl

theorem begin_progress {a : Acceptance} : inProgress a.begin = some a.sessionId := working_progress begin_working

-- A session that is settled is replayed, so a fresh one is not.
theorem fresh_unsettled {session : MobilePairingSessionDraft} (consistent : Consistent service)
    (here : service.activeSession = some session) (fresh : replay service session = none) :
    unsettled service.pairingResult.state = true := by
  obtain ⟨-,record,present,-⟩ := consistent.session session here
  cases state : service.pairingResult.state <;> first | rfl | simp [replay,state,present] at fresh

-- What a step leaves to the other threads: the flag, unless the mover lowers it, and the
-- result, unless the mover settles the session it works on or resolves, or lets it expire.
structure Leaves (service : Service) (t : Claim) (next : Service) : Prop where
  flag : service.pairingRequestInProgress = true → next.pairingRequestInProgress = true ∨
    ∃ sessionId, inProgress t.phase = some sessionId ∧ service.active sessionId = true
  result : next.pairingResult = service.pairingResult ∨
    (∃ sessionId, service.active sessionId = true ∧ (working t.phase = some sessionId ∨
      engaged t.resolver = some sessionId ∧ next.pairingResult.deviceUuid = engagedDevice t.resolver)) ∨
    unsettled service.pairingResult.state = true ∧ unsettled next.pairingResult.state = true

theorem acceptance_leaves {a : Acceptance} {phase : AcceptancePhase} {outside : Outside} {after : Service × AcceptanceStep}
    (owner : working t.phase = some a.sessionId ∨
      engaged t.resolver = some a.sessionId ∧ engagedDevice t.resolver = some a.deviceUuid)
    (moved : stepAcceptance desktop service a phase outside = some after) : Leaves service t after.1 := by
  rcases acceptance_parts moved with ⟨same,-⟩ | ⟨session,folder,transport,-,here,same,rfl⟩
  · rw [same]
    exact ⟨.inl,.inl rfl⟩
  · refine ⟨.inl,.inr (.inl ⟨a.sessionId,?_,owner.imp_right fun ⟨engaged,device⟩ => ⟨engaged,device.symm⟩⟩)⟩
    exact same ▸ active_session here

theorem claim_leaves {input : Input} {after : Service × Claim} (consistent : Consistent service)
    (own : flagKept.own service t input) (moved : stepClaim desktop service t input = some after) :
    Leaves service t after.1 := by
  have still : Leaves service t service := ⟨.inl,.inl rfl⟩
  cases input with
  | request outside =>
      simp only [stepClaim,stepRequest] at moved
      split at moved
      · cases moved
        rcases receive_parts service t with ⟨same,-⟩ | ⟨session,here,fresh,same,-⟩ | ⟨_,_,-,-,-,-,-,same⟩
        · dsimp only
          rw [same]
          exact still
        · dsimp only
          rw [same]
          exact ⟨.inl,.inr (.inr ⟨fresh_unsettled consistent here fresh,rfl⟩)⟩
        · dsimp only
          rw [same]
          exact ⟨fun _ => .inl rfl,.inl rfl⟩
      · rename_i a context mismatching
        split at moved
        · rename_i active
          cases moved
          exact ⟨.inl,.inr (.inl ⟨a.sessionId,active,.inl (by rw [mismatching]; rfl)⟩)⟩
        · cases moved
          exact still
      · rename_i _ a phase accepting
        obtain ⟨after,step,rfl⟩ := Option.map_eq_some_iff.mp moved
        exact acceptance_leaves (.inl (by rw [accepting]; rfl)) step
      · rename_i leaver result leaving
        cases moved
        have lowers : service.active leaver = true ∨ service.pairingRequestInProgress = false := by
          simpa [flagKept,lowersOwn,leaving] using own
        refine ⟨fun raised => ?_,.inl rfl⟩
        rcases lowers with mine | lowered
        · exact .inr ⟨leaver,by rw [leaving]; rfl,mine⟩
        · cases lowered.symm.trans raised
      · cases moved
  | resolver outside =>
      simp only [stepClaim,stepResolver] at moved
      split at moved
      · obtain ⟨resolver,-,rfl⟩ := Option.map_eq_some_iff.mp moved
        exact still
      · rename_i pending message stopping
        cases moved
        dsimp only
        unfold completePairingStopped
        split
        · exact still
        · rename_i active
          refine ⟨.inl,.inr (.inl ⟨pending.sessionId,by simpa using active,.inr ?_⟩)⟩
          rw [stopping]
          exact ⟨rfl,rfl⟩
      · rename_i _ a phase accepting
        obtain ⟨after,step,rfl⟩ := Option.map_eq_some_iff.mp moved
        exact acceptance_leaves (.inr (by rw [accepting]; exact ⟨rfl,rfl⟩)) step
      · cases moved

theorem single_beside {input : Input} {after : Service × Claim} (consistent : Consistent service) (single : Single service u)
    (apart : Apart t u) (apart' : Apart u t) (own : flagKept.own service t input)
    (moved : stepClaim desktop service t input = some after) : Single after.1 u := by
  have writes := claim_writes moved
  have leaves := claim_leaves consistent own moved
  refine ⟨?_,?_,?_⟩
  · intro sessionId progress
    obtain ⟨issued,raised⟩ := single.progress sessionId progress
    refine ⟨writes.issued ▸ issued,fun active => ?_⟩
    rw [writes_active writes] at active
    rcases leaves.flag (raised active) with kept | ⟨other,mine,active'⟩
    · exact kept
    · cases active_unique active active'
      exact absurd progress (apart.progress sessionId mine)
  · intro sessionId works active
    rw [writes_active writes] at active
    rcases leaves.result with same | ⟨other,active',mine | ⟨resolves,-⟩⟩ | ⟨-,still⟩
    · exact same ▸ single.fresh sessionId works active
    · cases active_unique active active'
      exact absurd (working_progress works) (apart.progress sessionId (working_progress mine))
    · cases active_unique active active'
      exact absurd resolves (apart'.resolver sessionId works)
    · exact still
  · intro sessionId engaged
    obtain ⟨done,issued,mismatched⟩ := single.resolver sessionId engaged
    refine ⟨done,writes.issued ▸ issued,fun active => ?_⟩
    rw [writes_active writes] at active
    rcases leaves.result with same | ⟨other,active',works | ⟨resolves,-⟩⟩ | ⟨fresh,-⟩
    · rw [same]
      exact mismatched active
    · cases active_unique active active'
      exact absurd engaged (apart.resolver sessionId works)
    · cases active_unique active active'
      exact absurd engaged (apart.resolvers sessionId resolves)
    · rw [(mismatched active).1] at fresh
      cases fresh

-- The claim raises the flag for the active session, which is not settled.
structure Begins (service : Service) (t : Claim) (next : Service) (t' : Claim) : Prop where
  arrived : t.phase = .arrived
  lowered : service.pairingRequestInProgress = false
  raised : next = {service with pairingRequestInProgress:=true}
  resolver : t'.resolver = t.resolver
  session : ∃ session, service.activeSession = some session ∧ replay service session = none ∧
    working t'.phase = some session.sessionId ∧ inProgress t'.phase = some session.sessionId

structure Hands (service : Service) (t : Claim) (next : Service) (t' : Claim) : Prop where
  works : ∃ sessionId, working t.phase = some sessionId ∧ inProgress t'.phase = some sessionId ∧
    engaged t'.resolver = some sessionId
  done : settledOwn t'.phase = true
  flag : next.pairingRequestInProgress = service.pairingRequestInProgress
  result : next.pairingResult.state = .mismatched ∧ next.pairingResult.deviceUuid = engagedDevice t'.resolver

structure Continues (service : Service) (t : Claim) (next : Service) (t' : Claim) : Prop where
  progress : ∀ sessionId, inProgress t'.phase = some sessionId → inProgress t.phase = some sessionId ∧
    next.pairingRequestInProgress = service.pairingRequestInProgress
  working : ∀ sessionId, working t'.phase = some sessionId → working t.phase = some sessionId ∧
    next.pairingResult = service.pairingResult
  engaged : ∀ sessionId, engaged t'.resolver = some sessionId → engaged t.resolver = some sessionId ∧
    next.pairingResult = service.pairingResult ∧ engagedDevice t'.resolver = engagedDevice t.resolver
  settled : settledOwn t.phase = true → settledOwn t'.phase = true

theorem acceptance_flag {a : Acceptance} {phase : AcceptancePhase} {outside : Outside} {after : Service × AcceptanceStep}
    (moved : stepAcceptance desktop service a phase outside = some after) :
    after.1.pairingRequestInProgress = service.pairingRequestInProgress := by
  rcases acceptance_parts moved with ⟨same,-⟩ | ⟨session,folder,transport,-,-,-,rfl⟩
  · rw [same]
  · rfl

theorem stopped_flag {pending : PendingMismatchResolution} {message : String} :
    (completePairingStopped service pending message).pairingRequestInProgress = service.pairingRequestInProgress := by
  unfold completePairingStopped
  split <;> rfl

theorem acceptance_result {a : Acceptance} {phase phase' : AcceptancePhase} {outside : Outside}
    {after : Service × AcceptanceStep} (moved : stepAcceptance desktop service a phase outside = some after)
    (ongoing : after.2 = .on phase') : after.1.pairingResult = service.pairingResult := by
  rcases acceptance_parts moved with ⟨same,-⟩ | ⟨session,folder,transport,-,-,-,rfl⟩
  · rw [same]
  · cases ongoing

theorem request_moves {outside : Outside} {after : Service × Claim} (single : Single service t)
    (moved : stepRequest desktop service t outside = some after) :
    Begins service t after.1 after.2 ∨ Hands service t after.1 after.2 ∨ Continues service t after.1 after.2 := by
  have unengaged : settledOwn t.phase = false → ∀ sessionId, engaged t.resolver ≠ some sessionId := by
    intro unsettled sessionId engaged
    cases unsettled.symm.trans (single.resolver sessionId engaged).1
  have refused : t.phase = .arrived → ∀ {answer : Result} {next : Service},
      Continues service t next {t with phase:=.answered answer} := fun arrived _ _ =>
    ⟨nofun,nofun,fun sessionId engaged => absurd engaged (unengaged (by rw [arrived]; rfl) sessionId),fun _ => rfl⟩
  unfold stepRequest at moved
  split at moved
  · rename_i arrived
    cases moved
    rcases receive_parts service t with ⟨-,answer,answered,-⟩ | ⟨session,-,-,-,answer,answered,-⟩ |
      ⟨session,platform,here,-,fresh,lowered,-,begun⟩
    · dsimp only
      rw [answered]
      exact .inr (.inr (refused arrived))
    · dsimp only
      rw [answered]
      exact .inr (.inr (refused arrived))
    · rw [begun]
      exact .inl ⟨arrived,lowered,rfl,rfl,session,here,fresh,begin_working,begin_progress⟩
  · rename_i a context mismatching
    split at moved
    · cases moved
      exact .inr (.inl ⟨⟨a.sessionId,by rw [mismatching]; rfl,rfl,rfl⟩,rfl,rfl,rfl,rfl⟩)
    · cases moved
      refine .inr (.inr ⟨?_,nofun,?_,fun _ => rfl⟩)
      · intro sessionId progress
        exact ⟨by rw [mismatching]; exact progress,rfl⟩
      · exact fun sessionId engaged => absurd engaged (unengaged (by rw [mismatching]; rfl) sessionId)
  · rename_i _ a phase accepting
    obtain ⟨after,step,rfl⟩ := Option.map_eq_some_iff.mp moved
    refine .inr (.inr ⟨?_,?_,?_,?_⟩)
    · intro sessionId progress
      refine ⟨?_,acceptance_flag step⟩
      rw [accepting]
      dsimp only at progress
      split at progress <;> exact progress
    · intro sessionId works
      rw [accepting]
      dsimp only at works
      split at works
      · rename_i ongoing
        exact ⟨works,acceptance_result step ongoing⟩
      · cases works
    · exact fun sessionId engaged => absurd engaged (unengaged (by rw [accepting]; rfl) sessionId)
    · intro settled
      rw [accepting] at settled
      cases settled
  · cases moved
    exact .inr (.inr ⟨nofun,nofun,fun _ engaged => ⟨engaged,rfl,rfl⟩,fun _ => rfl⟩)
  · cases moved

theorem resolver_moves {outside : Outside} {after : Service × Claim} (single : Single service t)
    (moved : stepResolver desktop service t outside = some after) : Continues service t after.1 after.2 := by
  have idle : ∀ {next : Service} sessionId, engaged t.resolver = some sessionId →
      ∀ worked, working t.phase = some worked → working t.phase = some worked ∧ next.pairingResult = service.pairingResult := by
    intro next sessionId engaged worked works
    cases (settled_idle (single.resolver sessionId engaged).1).symm.trans works
  unfold stepResolver at moved
  split at moved
  · rename_i pending outside resolving
    obtain ⟨resolver,step,rfl⟩ := Option.map_eq_some_iff.mp moved
    refine ⟨fun _ progress => ⟨progress,rfl⟩,fun _ works => ⟨works,rfl⟩,?_,id⟩
    intro sessionId engaged
    rw [resolving]
    unfold resolve at step
    split at step <;> cases step <;> first | exact ⟨engaged,rfl,rfl⟩ | cases engaged
  · rename_i pending message stopping
    cases moved
    exact ⟨fun _ progress => ⟨progress,stopped_flag⟩,idle pending.sessionId (by rw [stopping]; rfl),nofun,id⟩
  · rename_i _ a phase accepting
    obtain ⟨after,step,rfl⟩ := Option.map_eq_some_iff.mp moved
    refine ⟨fun _ progress => ⟨progress,acceptance_flag step⟩,idle a.sessionId (by rw [accepting]; rfl),?_,id⟩
    intro sessionId engaged
    dsimp only at engaged ⊢
    rw [accepting]
    split at engaged
    · rename_i phase' ongoing
      exact ⟨engaged,acceptance_result step ongoing,rfl⟩
    · cases engaged
    · cases engaged
  · cases moved

theorem claim_moves {input : Input} {after : Service × Claim} (single : Single service t)
    (moved : stepClaim desktop service t input = some after) :
    Begins service t after.1 after.2 ∨ Hands service t after.1 after.2 ∨ Continues service t after.1 after.2 := by
  cases input with
  | request outside => exact request_moves single moved
  | resolver outside => exact .inr (.inr (resolver_moves single moved))

theorem single_own {input : Input} {after : Service × Claim} (consistent : Consistent service) (single : Single service t)
    (moved : stepClaim desktop service t input = some after) : Single after.1 after.2 := by
  have writes := claim_writes moved
  rcases claim_moves single moved with ⟨arrived,-,raised,resolver,session,here,fresh,works,progress⟩ |
    ⟨⟨sessionId,works,progress,engaged⟩,done,flag,result⟩ | continues
  · refine ⟨?_,?_,?_⟩
    · intro sessionId progress'
      cases progress.symm.trans progress'
      rw [raised]
      exact ⟨(consistent.session session here).1,fun _ => rfl⟩
    · intro sessionId _ _
      have unsettled := fresh_unsettled consistent here fresh
      rw [raised]
      exact unsettled
    · intro sessionId engaged
      rw [resolver] at engaged
      have unsettled := (single.resolver sessionId engaged).1
      rw [arrived] at unsettled
      cases unsettled
  · obtain ⟨issued,raised⟩ := single.progress sessionId (working_progress works)
    refine ⟨?_,?_,?_⟩
    · intro other progress'
      cases progress.symm.trans progress'
      refine ⟨writes.issued ▸ issued,fun active => ?_⟩
      rw [writes_active writes] at active
      exact flag.trans (raised active)
    · intro other works'
      cases (settled_idle done).symm.trans works'
    · intro other engaged'
      cases engaged.symm.trans engaged'
      exact ⟨done,writes.issued ▸ issued,fun _ => result⟩
  · refine ⟨?_,?_,?_⟩
    · intro sessionId progress
      obtain ⟨before,flag⟩ := continues.progress sessionId progress
      obtain ⟨issued,raised⟩ := single.progress sessionId before
      refine ⟨writes.issued ▸ issued,fun active => ?_⟩
      rw [writes_active writes] at active
      exact flag.trans (raised active)
    · intro sessionId works active
      obtain ⟨before,result⟩ := continues.working sessionId works
      rw [writes_active writes] at active
      exact result ▸ single.fresh sessionId before active
    · intro sessionId engaged
      obtain ⟨before,result,device⟩ := continues.engaged sessionId engaged
      obtain ⟨done,issued,mismatched⟩ := single.resolver sessionId before
      refine ⟨continues.settled done,writes.issued ▸ issued,fun active => ?_⟩
      rw [writes_active writes] at active
      rw [result,device]
      exact mismatched active

theorem apart_moved {input : Input} {after : Service × Claim} (consistent : Consistent service) (single : Single service t)
    (beside : Single service u) (apart : Apart t u) (apart' : Apart u t)
    (moved : stepClaim desktop service t input = some after) : Apart after.2 u ∧ Apart u after.2 := by
  rcases claim_moves single moved with ⟨arrived,lowered,-,resolver,session,here,fresh,works,progress⟩ |
    ⟨⟨sessionId,works,progress,engaged⟩,done,-,-⟩ | continues
  · -- Whoever is in progress for the active session has raised the flag, whoever resolves it has settled it.
    have free : inProgress u.phase ≠ some session.sessionId := by
      intro other
      cases lowered.symm.trans ((beside.progress _ other).2 (active_session here))
    have unresolved : engaged u.resolver ≠ some session.sessionId := by
      intro other
      have settled := (beside.resolver _ other).2.2 (active_session here)
      have unsettled := fresh_unsettled consistent here fresh
      rw [settled.1] at unsettled
      cases unsettled
    refine ⟨⟨?_,?_,?_⟩,⟨?_,?_,?_⟩⟩
    · intro sessionId progress'
      cases progress.symm.trans progress'
      exact free
    · intro sessionId engaged
      rw [resolver] at engaged
      exact apart.resolvers sessionId engaged
    · intro sessionId works'
      cases works.symm.trans works'
      exact unresolved
    · intro sessionId other progress'
      cases progress.symm.trans progress'
      exact free other
    · intro sessionId other
      rw [resolver]
      exact apart'.resolvers sessionId other
    · intro sessionId other
      rw [resolver]
      exact apart'.resolver sessionId other
  · have mine := working_progress works
    refine ⟨⟨?_,?_,?_⟩,⟨?_,?_,?_⟩⟩
    · intro other progress'
      cases progress.symm.trans progress'
      exact apart.progress sessionId mine
    · intro other engaged'
      cases engaged.symm.trans engaged'
      exact apart.resolver sessionId works
    · intro other works'
      cases (settled_idle done).symm.trans works'
    · intro other progressU progress'
      cases progress.symm.trans progress'
      exact apart.progress sessionId mine progressU
    · intro other engagedU engaged'
      cases engaged.symm.trans engaged'
      exact apart.resolver sessionId works engagedU
    · intro other worksU engaged'
      cases engaged.symm.trans engaged'
      exact apart.progress sessionId mine (working_progress worksU)
  · refine ⟨⟨?_,?_,?_⟩,⟨?_,?_,?_⟩⟩
    · exact fun sessionId progress => apart.progress sessionId (continues.progress sessionId progress).1
    · exact fun sessionId engaged => apart.resolvers sessionId (continues.engaged sessionId engaged).1
    · exact fun sessionId works => apart.resolver sessionId (continues.working sessionId works).1
    · exact fun sessionId other progress => apart'.progress sessionId other (continues.progress sessionId progress).1
    · exact fun sessionId other engaged => apart'.resolvers sessionId other (continues.engaged sessionId engaged).1
    · exact fun sessionId other engaged => apart'.resolver sessionId other (continues.engaged sessionId engaged).1

theorem single_event {event : Event} (single : Single service u) (moved : stepEvent service event = some next) :
    Single next u := by
  refine ⟨?_,?_,?_⟩
  · intro sessionId progress
    obtain ⟨issued,raised⟩ := single.progress sessionId progress
    refine ⟨event_issued moved issued,fun active => ?_⟩
    obtain ⟨before,spared⟩ := event_spares moved issued active
    exact spared.flag.trans (raised before)
  · intro sessionId works active
    obtain ⟨before,spared⟩ := event_spares moved (single.progress sessionId (working_progress works)).1 active
    exact spared.result ▸ single.fresh sessionId works before
  · intro sessionId engaged
    obtain ⟨settled,issued,mismatched⟩ := single.resolver sessionId engaged
    refine ⟨settled,event_issued moved issued,fun active => ?_⟩
    obtain ⟨before,spared⟩ := event_spares moved issued active
    exact spared.result ▸ mismatched before

theorem exclusive_stable : Stable exclusive (stepClaim desktop) stepEvent flagKept where
  own consistent single _ moved := ⟨consistent_writes consistent (claim_writes moved),single_own consistent single moved⟩
  other consistent single beside apart apart' own _ moved :=
    ⟨single_beside consistent beside apart apart' own moved,apart_moved consistent single beside apart apart' moved⟩
  eventWorld consistent moved := consistent_event consistent moved
  eventThread _ single _ moved := single_event single moved

theorem exclusive_fresh {Index : Type*} {s : Pool Index Service Claim} (fresh : Fresh s) : exclusive.Hold s := by
  obtain ⟨store,constructed⟩ := fresh.constructed
  refine ⟨?_,?_,?_⟩
  · rw [constructed]
    exact consistent_constructed
  · intro i
    obtain ⟨arrived,absent⟩ := fresh.arrived i
    exact ⟨by rw [arrived]; nofun,by rw [arrived]; nofun,by rw [absent]; nofun⟩
  · intro i j _
    obtain ⟨arrived,absent⟩ := fresh.arrived i
    exact ⟨by rw [arrived]; nofun,by rw [absent]; nofun,by rw [arrived]; nofun⟩

variable {Index : Type*} [DecidableEq Index] {s : Pool Index Service Claim}

theorem exclusive_reaches {next : Pool Index Service Claim} (fresh : Fresh s)
    (path : Reaches (pairingPool Index desktop) flagKept.Admits s next) : exclusive.Hold next :=
  hold_reaches exclusive_stable (exclusive_fresh fresh) path

theorem writes_engaged {t : Claim} (writes : writesFor t sessionId) :
    working t.phase = some sessionId ∨ engaged t.resolver = some sessionId := by
  rcases writes with ⟨a,phase,accepting,-,rfl⟩ | ⟨a,phase,accepting,-,rfl⟩
  · exact .inl (by rw [accepting]; rfl)
  · exact .inr (by rw [accepting]; rfl)

-- One claim at a time, in every state of every run in which no claim lowers the flag
-- that another session's claim has raised.
theorem one_at_a_time {next : Pool Index Service Claim} (fresh : Fresh s)
    (path : Reaches (pairingPool Index desktop) flagKept.Admits s next) : OneAtATime next := by
  have held := exclusive_reaches fresh path
  refine ⟨?_,?_⟩
  · intro i j sessionId one two _
    by_contra different
    exact (held.pair i j different).progress sessionId one two
  · intro i j sessionId one two
    by_contra different
    have apart : Apart (next.threads i) (next.threads j) := held.pair i j different
    have apart' : Apart (next.threads j) (next.threads i) := held.pair j i (Ne.symm different)
    rcases writes_engaged one with one | one <;> rcases writes_engaged two with two | two
    · exact apart.progress sessionId (working_progress one) (working_progress two)
    · exact apart.resolver sessionId one two
    · exact apart'.resolver sessionId two one
    · exact apart.resolvers sessionId one two

instance (service : Service) (t : Claim) (input : Input) : Decidable (flagKept.own service t input) :=
  inferInstanceAs (Decidable (lowersOwn service t input = true))
instance (service : Service) (t u : Claim) (input : Input) : Decidable (flagKept.beside service t input u) :=
  inferInstanceAs (Decidable True)
instance (service : Service) (e : Event) (u : Claim) : Decidable (flagKept.event service e u) :=
  inferInstanceAs (Decidable True)

def threeClaims : Pool (Fin 3) Service Claim :=
  samplePool fun i => if i = 0 then sampleClaim "session-1" "code-1" "phone-1" else sampleClaim "session-2" "code-2" "phone-2"

theorem threeClaims_fresh : Fresh threeClaims := by
  refine ⟨⟨noRows,rfl⟩,fun i => ?_⟩
  unfold threeClaims samplePool
  dsimp only
  split <;> exact ⟨rfl,rfl⟩

-- The first claim outlives its session: it lowers the flag of the second session's claim,
-- and the third claim enters.
theorem late_claim_lowers_flag : ¬ ∀ (desktop : DesktopIdentity) (s next : Pool (Fin 3) Service Claim), Fresh s →
    Reachable (pairingPool (Fin 3) desktop) s next → OneAtATime next := by
  intro all
  let claims (i : Fin 3) : Move (Fin 3) Input Event := .thread i (.request .resume)
  obtain ⟨next,path,seen⟩ := checkedRun_exhibits (pairingPool (Fin 3) sampleIdentity) (fun _ _ => True) threeClaims
    [.environment (.start (sampleDraft "session-1" "code-1") none),claims 0,
      .environment (.start (sampleDraft "session-2" "code-2") none),claims 1,claims 0,claims 0,claims 2]
    (fun next => inProgress (next.threads 1).phase = some "session-2" && inProgress (next.threads 2).phase = some "session-2" &&
      next.world.active "session-2") (by decide +kernel)
  simp only [Bool.and_eq_true,decide_eq_true_eq] at seen
  obtain ⟨⟨second,third⟩,active⟩ := seen
  exact absurd ((all sampleIdentity threeClaims next threeClaims_fresh path).handling 1 2 "session-2" second third active)
    (by decide)

-- The first claim leaves before the second session begins.
theorem claims_in_turn : ∃ next, Reaches (pairingPool (Fin 3) sampleIdentity) flagKept.Admits threeClaims next ∧
    OneAtATime next ∧ inProgress (next.threads 1).phase = some "session-2" := by
  let claims (i : Fin 3) : Move (Fin 3) Input Event := .thread i (.request .resume)
  obtain ⟨next,path,seen⟩ := checkedRun_exhibits (pairingPool (Fin 3) sampleIdentity) flagKept.Admits threeClaims
    [.environment (.start (sampleDraft "session-1" "code-1") none),claims 0,.environment .close,claims 0,claims 0,
      .environment (.start (sampleDraft "session-2" "code-2") none),claims 1,claims 2]
    (fun next => inProgress (next.threads 1).phase = some "session-2") (by decide +kernel)
  exact ⟨next,path,one_at_a_time threeClaims_fresh path,of_decide_eq_true seen⟩

end ImageSearch.ExclusiveClaims
