import ImageSearch.PairingSections

namespace ImageSearch.RefusedClaims
open Transitions Threads MobileStore PairingService PairingThreads PairingSections

variable {desktop : DesktopIdentity} {service : Service} {t : Claim} {a : Acceptance} {store : Store}
  {start s last : Pool Unit Service Claim}

def granted : Result → Bool
  | .ok answer => answer.statusCode = 200
  | .error _ => false

-- One claim, however the desktop's user opens, refreshes and closes sessions meanwhile.
def LeavesNoTrace (start last : Pool Unit Service Claim) : Prop :=
  ∀ result, (last.threads ()).phase = .answered result → granted result = false → last.world.store = start.world.store

-- Once the device is registered the claim goes through: the folder and the session can be
-- written down, and the session stays active until the last lock section.
def goesThrough (service : Service) (t : Claim) : Input → Bool
  | .request outside =>
    match t.phase with
    | .accepting a (.finishing _) => service.active a.sessionId
    | .accepting a phase => acceptanceSmooth service a phase outside
    | _ => true
  | .resolver _ => true

def writesTables : Event → Bool
  | .tables _ => true
  | _ => false

def undisturbed : Condition Service Claim Input Event where
  event _ event _ := writesTables event = false

def throughKept : Condition Service Claim Input Event where
  own service t input := goesThrough service t input = true
  event _ event _ := writesTables event = false

-- Before its first commit the claim has written nothing, and after it the claim is granted.
def Traceless (store : Store) (service : Service) (t : Claim) : Prop :=
  match t.phase with
  | .arrived | .mismatching _ _ | .accepting _ .checking | .accepting _ (.registering _) =>
    service.store = store ∧ t.resolver = .absent
  | .accepting _ _ => t.resolver = .absent
  | .leaving _ result | .answered result => granted result = false → service.store = store ∧ t.resolver = .absent

theorem begin_traceless (kept : service.store = store) (absent : t.resolver = .absent) :
    Traceless store service {t with phase:=a.begin} := by
  unfold Acceptance.begin
  split
  · split <;> exact ⟨kept,absent⟩
  · exact ⟨kept,absent⟩

theorem acceptance_traceless {phase : AcceptancePhase} {outside : Outside} {after : Service × AcceptanceStep}
    (accepting : t.phase = .accepting a phase) (held : Traceless store service t)
    (through : goesThrough service t (.request outside) = true)
    (moved : stepAcceptance desktop service a phase outside = some after) :
    Traceless store after.1 {t with phase:=match after.2 with
      | .on phase => .accepting a phase
      | .done result => .leaving a.sessionId result} := by
  unfold Traceless at held
  rw [accepting] at held
  simp only [goesThrough,accepting] at through
  -- A refusal comes from the first lock section only: the commits do not raise, and the
  -- session is still there in the last one.
  have smooth : acceptanceSmooth service a phase outside = true := by
    cases phase <;> first | exact through | rfl
  cases reached : after.2 with
  | on phase' =>
      unfold stepAcceptance at moved
      split at moved
      · split at moved <;> cases moved <;> cases reached
        exact held
      · cases moved
        cases reached
        exact held.2
      · obtain ⟨folder,done⟩ := accepted_folder smooth
        simp only [Option.some.injEq] at moved
        subst moved
        dsimp only at reached
        rw [done] at reached
        cases reached
        exact held
      · split at moved <;> cases moved <;> cases reached
        exact held
      · split at moved <;> cases moved <;> cases reached
      · cases moved
  | done result =>
      cases result with
      | error raised => exact absurd reached (smooth_done smooth moved)
      | ok answer =>
          rcases acceptance_parts moved with ⟨same,missed⟩ | ⟨session,folder,transport,rfl,-,-,rfl⟩
          · obtain ⟨rfl,inactive⟩ := missed answer reached
            unfold stepAcceptance at moved
            split at moved
            · split at moved <;> cases moved <;> cases reached
              exact fun _ => held
            · cases moved
              cases reached
            · simp only [Option.some.injEq] at moved
              subst moved
              dsimp only at reached
              split at reached <;> cases reached
            · split at moved <;> cases moved <;> cases reached
            · cases through.symm.trans inactive
            · cases moved
          · cases reached
            nofun

theorem request_traceless {outside : Outside} {after : Service × Claim} (held : Traceless store service t)
    (through : goesThrough service t (.request outside) = true)
    (moved : stepRequest desktop service t outside = some after) : Traceless store after.1 after.2 := by
  unfold stepRequest at moved
  split at moved
  · rename_i arrived
    cases moved
    unfold Traceless at held
    rw [arrived] at held
    dsimp only
    rcases receive_parts service t with ⟨same,answer,answered,-⟩ | ⟨session,-,-,same,answer,answered,-⟩ |
      ⟨session,platform,-,-,-,-,-,begun⟩
    · rw [same,answered]
      exact fun _ => held
    · rw [same,answered]
      exact fun _ => held
    · rw [begun]
      exact begin_traceless held.1 held.2
  · rename_i a context mismatching
    unfold Traceless at held
    rw [mismatching] at held
    split at moved
    · cases moved
      nofun
    · cases moved
      exact fun _ => held
  · rename_i outside _ _ a phase accepting
    obtain ⟨after,step,rfl⟩ := Option.map_eq_some_iff.mp moved
    exact acceptance_traceless accepting held through step
  · rename_i leaving
    cases moved
    unfold Traceless at held
    rw [leaving] at held
    exact held
  · cases moved

theorem resolver_traceless {outside : Outside} {after : Service × Claim} (held : Traceless store service t)
    (moved : stepResolver desktop service t outside = some after) : Traceless store after.1 after.2 := by
  have present : t.resolver ≠ .absent := by
    intro absent
    simp [stepResolver,absent] at moved
  have phase : after.2.phase = t.phase := by
    unfold stepResolver at moved
    split at moved
    · obtain ⟨resolver,-,rfl⟩ := Option.map_eq_some_iff.mp moved
      rfl
    · cases moved
      rfl
    · obtain ⟨after,-,rfl⟩ := Option.map_eq_some_iff.mp moved
      rfl
    · cases moved
  unfold Traceless at held ⊢
  rw [phase]
  cases here : t.phase with
  | arrived => simp [here,present] at held
  | mismatching a context => simp [here,present] at held
  | accepting a inner => cases inner <;> simp [here,present] at held
  | leaving sessionId result =>
      rw [here] at held
      exact fun refused => absurd (held refused).2 present
  | answered result =>
      rw [here] at held
      exact fun refused => absurd (held refused).2 present

theorem traceless_event {next : Service} (held : Traceless store service t) (same : next.store = service.store) :
    Traceless store next t := by
  unfold Traceless at held ⊢
  rw [same]
  exact held

theorem traceless_step {move : Move Unit Input Event} (held : Traceless store s.world (s.threads ()))
    (kept : throughKept.Admits s move) (taken : (pairingPool Unit desktop).step s move = some last) :
    Traceless store last.world (last.threads ()) := by
  cases move with
  | environment event =>
      obtain ⟨world',moved,rfl⟩ := environment_parts taken
      exact traceless_event held (event_store (fun store same => by cases (kept ()).symm.trans (congrArg writesTables same)) moved)
  | thread i input =>
      obtain ⟨world',thread',moved,rfl⟩ := thread_parts taken
      dsimp only
      rw [Function.update_self]
      cases input with
      | request outside => exact request_traceless held kept.1 moved
      | resolver outside => exact resolver_traceless held moved

-- Over every interleaving whose steps meet the condition, a claim that is not granted
-- leaves the tables as they were.
theorem refused_claim_traceless (arrived : (start.threads ()).phase = .arrived) (absent : (start.threads ()).resolver = .absent)
    (path : Reaches (pairingPool Unit desktop) throughKept.Admits start last) : LeavesNoTrace start last := by
  have held : Traceless start.world.store last.world (last.threads ()) := by
    have fresh : Traceless start.world.store start.world (start.threads ()) := by
      unfold Traceless
      rw [arrived]
      exact ⟨rfl,absent⟩
    have preserved : ∀ s move next, Traceless start.world.store s.world (s.threads ()) → throughKept.Admits s move →
        (pairingPool Unit desktop).step s move = some next → Traceless start.world.store next.world (next.threads ()) :=
      fun s move next old kept taken => traceless_step old kept taken
    have kept := reaches_preserves preserved fresh path
    exact kept
  intro result answered refused
  unfold Traceless at held
  rw [answered] at held
  exact (held refused).1

instance (service : Service) (t : Claim) (input : Input) : Decidable (throughKept.own service t input) :=
  inferInstanceAs (Decidable (goesThrough service t input = true))
instance (service : Service) (t u : Claim) (input : Input) : Decidable (throughKept.beside service t input u) :=
  inferInstanceAs (Decidable True)
instance (service : Service) (e : Event) (u : Claim) : Decidable (throughKept.event service e u) :=
  inferInstanceAs (Decidable (writesTables e = false))

def claimedSession : Pool Unit Service Claim where
  world := startPairingSession (.constructed noRows) (sampleDraft "session-1" "code-1") none
  threads _ := sampleClaim "session-1" "code-1" "phone-1"

def claimMoves (outsides : List Outside) : List (Move Unit Input Event) := outsides.map fun outside => .thread () (.request outside)

def refusedNow (s : Pool Unit Service Claim) : Bool :=
  match (s.threads ()).phase with
  | .answered result => !granted result
  | _ => false

theorem refused_parts (refused : refusedNow s = true) :
    ∃ result, (s.threads ()).phase = .answered result ∧ granted result = false := by
  unfold refusedNow at refused
  split at refused
  · rename_i result answered
    exact ⟨result,answered,by simpa using refused⟩
  · cases refused

instance (service : Service) (t : Claim) (input : Input) : Decidable (undisturbed.own service t input) :=
  inferInstanceAs (Decidable True)
instance (service : Service) (t u : Claim) (input : Input) : Decidable (undisturbed.beside service t input u) :=
  inferInstanceAs (Decidable True)
instance (service : Service) (e : Event) (u : Claim) : Decidable (undisturbed.event service e u) :=
  inferInstanceAs (Decidable (writesTables e = false))

def writesFolder : List Outside := [.resume,.resume,.resume,.directory ⟨id,none⟩,.resume]

-- The dialog is closed while the claim writes its tables: the claim is answered 404, and a
-- paired session is on record.
theorem close_leaves_paired_session : ¬ ∀ (desktop : DesktopIdentity) (start last : Pool Unit Service Claim),
    (start.threads ()).phase = .arrived → (start.threads ()).resolver = .absent →
    Reaches (pairingPool Unit desktop) undisturbed.Admits start last → LeavesNoTrace start last := by
  intro all
  obtain ⟨last,path,seen⟩ := checkedRun_exhibits (pairingPool Unit sampleIdentity) undisturbed.Admits claimedSession
    (claimMoves writesFolder ++ .environment .close :: claimMoves [.transport false,.resume])
    (fun last => refusedNow last && last.world.store.sessions.rows.any fun row => row.status = .paired) (by decide +kernel)
  obtain ⟨refused,paired⟩ := Bool.and_eq_true_iff.mp seen
  obtain ⟨result,answered,refused⟩ := refused_parts refused
  rw [all sampleIdentity claimedSession last rfl rfl path result answered refused] at paired
  cases paired

-- The dialog is closed before the claim writes anything.
theorem early_close_traceless : ∃ last, Reaches (pairingPool Unit sampleIdentity) throughKept.Admits claimedSession last ∧
    refusedNow last = true ∧ LeavesNoTrace claimedSession last := by
  obtain ⟨last,path,refused⟩ := checkedRun_exhibits (pairingPool Unit sampleIdentity) throughKept.Admits claimedSession
    (claimMoves [.resume] ++ .environment .close :: claimMoves [.resume,.resume]) refusedNow (by decide +kernel)
  exact ⟨last,path,refused,refused_claim_traceless rfl rfl path⟩

end ImageSearch.RefusedClaims
