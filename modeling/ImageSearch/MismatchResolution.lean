import ImageSearch.SessionRecords

namespace ImageSearch.MismatchResolution
open Transitions Threads MobileStore PairingStore PairingService PairingThreads PairingSections
open ExclusiveClaims SessionRecords

variable {desktop : DesktopIdentity} {service : Service} {t : Claim} {a : Acceptance} {sessionId : String}
  {Index : Type*} [DecidableEq Index] {start s next : Pool Index Service Claim}

structure Settled (service : Service) (sessionId : String) : Prop where
  record : ∃ record, service.pairingStateBySessionId sessionId = some record ∧
    (record.state = .pairingCompleted ∨ record.state = .pairingStopped)
  pending : service.pendingMismatchResolution = none

-- The callback ends with a decision or an Exception, and the folder and the session that it
-- decides for can be written down.
def resolves (service : Service) (t : Claim) : Input → Bool
  | .resolver outside =>
    match t.resolver,outside with
    | .resolving pending,.raised false => !service.active pending.sessionId
    | .accepting a phase,outside => acceptanceSmooth service a phase outside || !service.active a.sessionId
    | _,_ => true
  | .request _ => true

def resolved : Condition Service Claim Input Event where
  own service t input := resolves service t input = true

-- What is pending belongs to the active session, so clearing that session's leaves nothing.
theorem cleared_none {cleared : Service} (consistent : Consistent service) (active : service.active sessionId = true)
    (same : cleared.pendingMismatchResolution = (service.clearPending sessionId).pendingMismatchResolution) :
    cleared.pendingMismatchResolution = none := by
  rw [same]
  cases left : (service.clearPending sessionId).pendingMismatchResolution with
  | none => rfl
  | some pending =>
      obtain ⟨there,other⟩ := clear_pending left
      exact absurd (active_unique (consistent.pending pending there) active) other

theorem accepted_settled {session : MobilePairingSessionDraft} {folder : MobileFolderRecord} {transport : String}
    (consistent : Consistent service) (active : service.active a.sessionId = true) :
    Settled (acceptPairing desktop service session a folder transport).1 a.sessionId :=
  ⟨⟨_,Function.update_self ..,.inl (accepted_completed recorded_pairing)⟩,cleared_none consistent active rfl⟩

theorem stopped_settled {pending : PendingMismatchResolution} {message : String} (consistent : Consistent service)
    (active : service.active pending.sessionId = true) :
    Settled (completePairingStopped service pending message) pending.sessionId := by
  unfold completePairingStopped
  rw [if_neg (by simp [active])]
  exact ⟨⟨_,Function.update_self ..,.inr (stopped_stopped recorded_pairing)⟩,cleared_none consistent active rfl⟩

-- The step with which a resolver ends has settled its session, if that is still active.
theorem resolver_settles {outside : Outside} {after : Service × Claim} (consistent : Consistent service)
    (kept : resolves service t (.resolver outside) = true) (resolving : engaged t.resolver = some sessionId)
    (moved : stepResolver desktop service t outside = some after) (ended : engaged after.2.resolver = none)
    (active : service.active sessionId = true) : Settled after.1 sessionId := by
  unfold stepResolver at moved
  split at moved
  · rename_i pending outside waiting
    obtain ⟨resolver,step,rfl⟩ := Option.map_eq_some_iff.mp moved
    rw [waiting] at resolving
    cases resolving
    unfold resolve at step
    split at step <;> cases step <;> cases ended
    simp only [resolves,waiting,active] at kept
    cases kept
  · rename_i pending message stopping
    cases moved
    rw [stopping] at resolving
    cases resolving
    exact stopped_settled consistent active
  · rename_i outside _ _ a phase accepting
    obtain ⟨after,step,rfl⟩ := Option.map_eq_some_iff.mp moved
    rw [accepting] at resolving
    cases resolving
    have smooth : acceptanceSmooth service a phase outside = true := by simpa [resolves,accepting,active] using kept
    rcases acceptance_parts step with ⟨-,done⟩ | ⟨session,folder,transport,-,here,same,rfl⟩
    · cases reached : after.2 with
      | on phase => simp [reached,engaged] at ended
      | done result =>
          cases result with
          | error raised => exact absurd reached (smooth_done smooth step)
          | ok answer => cases active.symm.trans (done answer reached).2
    · exact accepted_settled consistent active
  · cases moved

theorem request_resolver {outside : Outside} {after : Service × Claim} (resolving : engaged t.resolver = some sessionId)
    (moved : stepRequest desktop service t outside = some after) : engaged after.2.resolver ≠ none := by
  unfold stepRequest at moved
  split at moved
  · cases moved
    simp [resolving]
  · split at moved <;> cases moved
    · nofun
    · simp [resolving]
  · obtain ⟨after,-,rfl⟩ := Option.map_eq_some_iff.mp moved
    simp [resolving]
  · cases moved
    simp [resolving]
  · cases moved

def EndsSettled (s next : Pool Index Service Claim) : Prop :=
  ∀ i sessionId, engaged (s.threads i).resolver = some sessionId → engaged (next.threads i).resolver = none →
    next.world.active sessionId = true → Settled next.world sessionId

theorem mismatch_resolved (fresh : Fresh start) (path : Reaches (pairingPool Index desktop) resolved.Admits start s)
    (move : Move Index Input Event) (kept : resolved.Admits s move)
    (taken : (pairingPool Index desktop).step s move = some next) : EndsSettled s next := by
  have consistent : Consistent s.world := by
    refine consistent_reaches ?_ path
    obtain ⟨store,constructed⟩ := fresh.constructed
    rw [constructed]
    exact consistent_constructed
  intro i sessionId resolving ended active
  cases move with
  | environment event =>
      obtain ⟨world',-,rfl⟩ := environment_parts taken
      cases resolving.symm.trans ended
  | thread j input =>
      obtain ⟨world',thread',moved,rfl⟩ := thread_parts taken
      by_cases here : i = j
      · subst here
        dsimp only at ended active
        rw [Function.update_self] at ended
        cases input with
        | request outside => exact absurd ended (request_resolver resolving moved)
        | resolver outside =>
            rw [writes_active (resolver_writes moved)] at active
            exact resolver_settles consistent kept.1 resolving moved ended active
      · simp only [Function.update_of_ne here] at ended
        cases resolving.symm.trans ended

instance (service : Service) (t : Claim) (input : Input) : Decidable (resolved.own service t input) :=
  inferInstanceAs (Decidable (resolves service t input = true))
instance (service : Service) (t u : Claim) (input : Input) : Decidable (resolved.beside service t input u) :=
  inferInstanceAs (Decidable True)
instance (service : Service) (e : Event) (u : Claim) : Decidable (resolved.event service e u) :=
  inferInstanceAs (Decidable True)

def twoFolders : Store where
  folders := ⟨[⟨1,"/backups/Phone"⟩,⟨2,"/backups/Other"⟩],by decide⟩
  nextFolderId := 3
  devices := ⟨[⟨"phone-0","android","Phone","key-0",0,0⟩,⟨"phone-1","android","Other","key-1",0,0⟩],by decide⟩
  mobileFolders := ⟨[⟨1,"phone-0",.paired,0⟩,⟨2,"phone-1",.paired,0⟩],by decide⟩
  sessions := .empty
  assets := .empty

def decides (decision : MobileBackupAgainDecision) : List (Move Unit Input Event) :=
  [.thread () (.resolver (.decided (some decision))),.thread () (.resolver .resume),.thread () (.resolver .resume)]

def bindsFolder : Move Unit Input Event := .thread () (.resolver (.directory ⟨id,none⟩))

-- The other phone continues in the first one's folder while it has one of its own.
theorem conflict_leaves_mismatched : ¬ ∀ (desktop : DesktopIdentity) (start s next : Pool Unit Service Claim)
    (move : Move Unit Input Event), Fresh start → Reachable (pairingPool Unit desktop) start s →
    (pairingPool Unit desktop).step s move = some next → EndsSettled s next := by
  intro all
  obtain ⟨s,path,seen⟩ := checkedRun_exhibits (pairingPool Unit sampleIdentity) (fun _ _ => True) onePhone
    (.environment (.tables twoFolders) :: mismatchedRun Unit () ++ decides .continueInSelectedFolder)
    (fun s => engaged (s.threads ()).resolver = some "session-1" &&
      ((pairingPool Unit sampleIdentity).step s bindsFolder).any fun next => engaged (next.threads ()).resolver = none &&
        next.world.active "session-1" && next.world.pendingMismatchResolution.isSome) (by decide +kernel)
  simp only [Bool.and_eq_true,decide_eq_true_eq] at seen
  obtain ⟨resolving,stepped⟩ := seen
  obtain ⟨next,taken,left⟩ := Option.any_eq_true _ _ |>.mp stepped
  simp only [Bool.and_eq_true,decide_eq_true_eq] at left
  obtain ⟨⟨ended,active⟩,pending⟩ := left
  have settled := all sampleIdentity onePhone s next bindsFolder onePhone_fresh path taken () "session-1" resolving ended active
  rw [settled.pending] at pending
  cases pending

theorem new_folder_settles : ∃ s move next, Reaches (pairingPool Unit sampleIdentity) resolved.Admits onePhone s ∧
    (pairingPool Unit sampleIdentity).step s move = some next ∧ engaged (s.threads ()).resolver = some "session-1" ∧
    engaged (next.threads ()).resolver = none ∧ next.world.active "session-1" = true ∧ EndsSettled s next := by
  let accepts : Move Unit Input Event := .thread () (.resolver (.transport false))
  obtain ⟨s,path,seen⟩ := checkedRun_exhibits (pairingPool Unit sampleIdentity) resolved.Admits onePhone
    (mismatchedRun Unit () ++ decides .backupInNewFolder ++ [bindsFolder,.thread () (.resolver .resume)])
    (fun s => engaged (s.threads ()).resolver = some "session-1" && decide (resolved.Admits s accepts) &&
      ((pairingPool Unit sampleIdentity).step s accepts).any fun next => engaged (next.threads ()).resolver = none &&
        next.world.active "session-1") (by decide +kernel)
  simp only [Bool.and_eq_true,decide_eq_true_eq] at seen
  obtain ⟨⟨resolving,kept⟩,stepped⟩ := seen
  obtain ⟨next,taken,left⟩ := Option.any_eq_true _ _ |>.mp stepped
  simp only [Bool.and_eq_true,decide_eq_true_eq] at left
  exact ⟨s,accepts,next,path,taken,resolving,left.1,left.2,mismatch_resolved onePhone_fresh path accepts kept taken⟩

end ImageSearch.MismatchResolution
