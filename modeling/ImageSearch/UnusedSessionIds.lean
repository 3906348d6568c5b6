import ImageSearch.SessionIds

namespace ImageSearch.UnusedSessionIds
open Payload Transitions Threads TrustSessions TrustSteps SharedStashes SessionIds
open ShareSessions (SessionState)

variable {code : Outlying} {outside : Outside} {sessionId : String} {i : Nat} {session : TrustSession}

section Requests
variable {r r' : Registry} {t t' : TrustRequest}

structure Origin (session next : TrustSession) : Prop where
  sessionId : next.sessionId = session.sessionId
  flowType : next.flowType = session.flowType
  stashId : next.stashId = session.stashId

structure SameOrigins (r r' : Registry) : Prop where
  sessions : r'.sessions = r.sessions
  created : r'.created = r.created
  forth : ∀ i session, r.objects i = some session → ∃ next, r'.objects i = some next ∧ Origin session next
  back : ∀ i next, r'.objects i = some next → ∃ session, r.objects i = some session ∧ Origin session next

theorem origins_refl : SameOrigins r r :=
  ⟨rfl,rfl,fun _ session here => ⟨session,here,⟨rfl,rfl,rfl⟩⟩,fun _ session here => ⟨session,here,⟨rfl,rfl,rfl⟩⟩⟩

theorem origins_modify {next : TrustSession} (here : r.objects i = some session) (origin : Origin session next) :
    SameOrigins r (r.modify i next) := by
  refine ⟨rfl,rfl,?_,?_⟩
  · intro j old there
    by_cases same : j = i
    · subst j
      rw [here] at there
      cases there
      exact ⟨next,Function.update_self ..,origin⟩
    · exact ⟨old,(Function.update_of_ne same _ _).trans there,⟨rfl,rfl,rfl⟩⟩
  · intro j new there
    unfold Registry.modify at there
    dsimp only at there
    by_cases same : j = i
    · subst j
      rw [Function.update_self] at there
      cases there
      exact ⟨session,here,origin⟩
    · rw [Function.update_of_ne same] at there
      exact ⟨new,there,⟨rfl,rfl,rfl⟩⟩

theorem name_origin {name : Option String} : Origin session (session.setPeerDeviceName name) := by
  unfold TrustSession.setPeerDeviceName
  split
  · split <;> exact ⟨rfl,rfl,rfl⟩
  · exact ⟨rfl,rfl,rfl⟩

theorem store_origin {mobileDhPublicKey mobileNonce : String} :
    Origin session (session.storeMobileHandshake mobileDhPublicKey mobileNonce).1 := by
  unfold TrustSession.storeMobileHandshake
  dsimp only
  split <;> exact ⟨rfl,rfl,rfl⟩

theorem establish_origin {exchanges : Bytes → Bool} {urandom : Bytes} :
    Origin session (session.establishSessionKey exchanges urandom).1 := by
  unfold TrustSession.establishSessionKey
  split
  · exact ⟨rfl,rfl,rfl⟩
  · dsimp only
    split <;> exact ⟨rfl,rfl,rfl⟩

def creatingId : TrustRequest → Option String
  | .handshake sessionId _ .creating => some sessionId
  | _ => none

-- A request creates the session its handshake has not found, and else leaves the table alone.
inductive Registers (r : Registry) (t : TrustRequest) (r' : Registry) (t' : TrustRequest) : Prop where
  | leaves (mine : creatingId t = none) (origins : SameOrigins r r') (next : creatingId t' = none)
  | looks (sessionId : String) (body : TrustHandshakeRequest) (arrived : t = .handshake sessionId body .arrived)
      (absent : r.sessions sessionId = none) (same : r' = r) (next : creatingId t' = some sessionId)
  | creates (sessionId : String) (nonce : Bytes) (mine : creatingId t = some sessionId)
      (created : r' = r.createSession sessionId .mobileToPc none none nonce) (next : creatingId t' = none)

theorem handshake_registers {body : TrustHandshakeRequest} {stage stage' : HandshakeStage}
    (taken : stepHandshake code r sessionId body stage outside = some (r',stage')) :
    Registers r (.handshake sessionId body stage) r' (.handshake sessionId body stage') := by
  cases stage with
  | arrived =>
      cases taken
      cases found : r.sessions sessionId with
      | none => exact .looks sessionId body rfl found rfl rfl
      | some i => exact .leaves rfl origins_refl rfl
  | creating =>
      cases taken
      exact .creates sessionId outside.urandom rfl rfl rfl
  | bootstrapping i =>
      obtain ⟨session,-,moved⟩ := Option.map_eq_some_iff.mp taken
      cases moved
      refine .leaves rfl origins_refl ?_
      split <;> rfl
  | storing i =>
      obtain ⟨session,here,moved⟩ := Option.map_eq_some_iff.mp taken
      cases moved
      refine .leaves rfl (origins_modify here store_origin) ?_
      split <;> rfl
  | establishing i =>
      obtain ⟨session,here,moved⟩ := Option.map_eq_some_iff.mp taken
      cases moved
      refine .leaves rfl (origins_modify here establish_origin) ?_
      split <;> rfl
  | responding i =>
      obtain ⟨session,here,moved⟩ := Option.map_eq_some_iff.mp taken
      cases moved
      exact .leaves rfl (origins_modify here ⟨rfl,rfl,rfl⟩) rfl
  | answered => cases taken

theorem apply_origins {envelope : Option TrustEnvelope} {stage stage' : ApplyStage}
    (taken : stepApply r sessionId envelope stage outside = some (r',stage')) : SameOrigins r r' := by
  cases stage with
  | arrived =>
      cases taken
      exact origins_refl
  | found | established | sealing =>
      obtain ⟨session,-,moved⟩ := Option.map_eq_some_iff.mp taken
      cases moved
      exact origins_refl
  | opened o =>
      obtain ⟨session,here,moved⟩ := Option.map_eq_some_iff.mp taken
      cases moved
      exact origins_modify here name_origin
  | named o =>
      obtain ⟨session,here,moved⟩ := Option.map_eq_some_iff.mp taken
      cases moved
      exact origins_modify here ⟨rfl,rfl,rfl⟩
  | answered => cases taken

theorem confirm_origins {correlationId : String} {envelope : Option TrustEnvelope} {stage stage' : ConfirmStage}
    (taken : stepConfirm code r sessionId correlationId envelope stage outside = some (r',stage')) : SameOrigins r r' := by
  have aside : ∀ {r'' : Registry}, r''.sessions = r.sessions → r''.created = r.created → r''.objects = r.objects → SameOrigins r r'' := by
    intro r'' sessions created objects
    refine ⟨sessions,created,?_,?_⟩
    · intro i session here
      exact ⟨session,objects ▸ here,⟨rfl,rfl,rfl⟩⟩
    · intro i session here
      exact ⟨session,objects ▸ here,⟨rfl,rfl,rfl⟩⟩
  cases stage with
  | arrived =>
      cases taken
      exact origins_refl
  | found | established | sealing =>
      obtain ⟨session,-,moved⟩ := Option.map_eq_some_iff.mp taken
      cases moved
      exact origins_refl
  | opened o =>
      obtain ⟨session,here,moved⟩ := Option.map_eq_some_iff.mp taken
      cases moved
      exact origins_modify here name_origin
  | named o =>
      obtain ⟨session,-,moved⟩ := Option.map_eq_some_iff.mp taken
      split at moved
      · cases moved
        exact origins_refl
      · split at moved
        · cases moved
          exact origins_refl
        · cases moved
          exact aside rfl rfl rfl
  | accepted o =>
      obtain ⟨session,here,moved⟩ := Option.map_eq_some_iff.mp taken
      split at moved
      · cases moved
        exact origins_refl
      · rename_i certificatePem _
        cases moved
        have origin : Origin session (session.storeMobileCertificate certificatePem) := ⟨rfl,rfl,rfl⟩
        have stored := origins_modify here origin
        exact ⟨stored.sessions,stored.created,stored.forth,stored.back⟩
  | certified o certificatePem =>
      cases taken
      split
      · exact aside rfl rfl rfl
      · exact origins_refl
  | removed o certificatePem =>
      simp only [stepConfirm] at taken
      split at taken
      · cases taken
        exact aside rfl rfl rfl
      · cases taken
        exact origins_refl
  | filed o =>
      obtain ⟨session,here,moved⟩ := Option.map_eq_some_iff.mp taken
      cases moved
      exact origins_modify here ⟨rfl,rfl,rfl⟩
  | answered => cases taken

theorem trust_registers (taken : stepTrust code r t outside = some (r',t')) : Registers r t r' t' := by
  cases t with
  | handshake sessionId body stage =>
      obtain ⟨next,moved,same⟩ := Option.map_eq_some_iff.mp taken
      cases same
      exact handshake_registers moved
  | apply sessionId envelope stage =>
      obtain ⟨next,moved,same⟩ := Option.map_eq_some_iff.mp taken
      cases same
      exact .leaves rfl (apply_origins moved) rfl
  | confirm sessionId correlationId envelope stage =>
      obtain ⟨next,moved,same⟩ := Option.map_eq_some_iff.mp taken
      cases same
      exact .leaves rfl (confirm_origins moved) rfl

end Requests

section Tables
variable {w w' : Receiver} {actor actor' other : Actor}

-- An id stands for the session made last under it, and a session's stash is there before it.
structure Sound (w : Receiver) : Prop where
  fresh : Fresh w.registry
  registered : ∀ sessionId i, w.registry.sessions sessionId = some i →
    ∃ session, w.registry.objects i = some session ∧ session.sessionId = sessionId
  latest : ∀ i session, w.registry.objects i = some session → ∃ j, w.registry.sessions session.sessionId = some j ∧ i ≤ j
  stashed : ∀ i session stashId, w.registry.objects i = some session → session.stashId = some stashId → w.stashes stashId ≠ none
  peers : ∀ sessionId peer, w.peers sessionId = some peer → peer < w.started

def Placed (w : Receiver) : Actor → Prop
  | .trigger _ .stashing => True
  | .trigger trigger _ => w.stashes trigger.stashId ≠ none
  | _ => True

theorem placed_keeps (stashes : ∀ stashId, w.stashes stashId ≠ none → w'.stashes stashId ≠ none) (placed : Placed w actor) :
    Placed w' actor := by
  cases actor with
  | trust t => trivial
  | trigger trigger stage => cases stage <;> first | trivial | exact stashes _ placed

theorem sound_origins {r : Registry} (sound : Sound w) (origins : SameOrigins w.registry r) : Sound {w with registry:=r} := by
  refine ⟨?_,?_,?_,?_,sound.peers⟩ <;> dsimp only
  · intro i beyond
    rw [origins.created] at beyond
    cases here : r.objects i with
    | none => rfl
    | some next =>
        obtain ⟨session,there,-⟩ := origins.back i next here
        rw [sound.fresh i beyond] at there
        cases there
  · intro sessionId i here
    rw [origins.sessions] at here
    obtain ⟨session,there,named⟩ := sound.registered sessionId i here
    obtain ⟨next,stands,origin⟩ := origins.forth i session there
    exact ⟨next,stands,origin.sessionId.trans named⟩
  · intro i next here
    obtain ⟨session,there,origin⟩ := origins.back i next here
    rw [origins.sessions,origin.sessionId]
    exact sound.latest i session there
  · intro i next stashId here mine
    obtain ⟨session,there,origin⟩ := origins.back i next here
    exact sound.stashed i session stashId there (origin.stashId ▸ mine)

theorem sound_creates {flowType : TrustFlowType} {optCode stashId : Option String} {nonce : Bytes} (sound : Sound w)
    (stash : ∀ id, stashId = some id → w.stashes id ≠ none) :
    Sound {w with registry:=w.registry.createSession sessionId flowType optCode stashId nonce} := by
  have older : ∀ {i session}, w.registry.objects i = some session → i ≠ w.registry.created := by
    intro i session here same
    rw [same,sound.fresh _ (Nat.le_refl _)] at here
    cases here
  refine ⟨?_,?_,?_,?_,sound.peers⟩ <;> dsimp only [Registry.createSession]
  · intro i beyond
    have beyond : w.registry.created + 1 ≤ i := beyond
    dsimp only
    rw [Function.update_of_ne (by omega)]
    exact sound.fresh i (by omega)
  · intro name i here
    by_cases same : name = sessionId
    · subst name
      rw [Function.update_self] at here
      cases here
      exact ⟨_,Function.update_self ..,rfl⟩
    · rw [Function.update_of_ne same] at here
      obtain ⟨session,there,named⟩ := sound.registered name i here
      exact ⟨session,(Function.update_of_ne (older there) _ _).trans there,named⟩
  · intro i session here
    by_cases new : i = w.registry.created
    · subst i
      rw [Function.update_self] at here
      cases here
      exact ⟨w.registry.created,Function.update_self ..,Nat.le_refl _⟩
    · rw [Function.update_of_ne new] at here
      obtain ⟨j,there,later⟩ := sound.latest i session here
      by_cases same : session.sessionId = sessionId
      · rw [same]
        exact ⟨w.registry.created,Function.update_self ..,Nat.le_of_lt (object_below sound.fresh here)⟩
      · exact ⟨j,(Function.update_of_ne same _ _).trans there,later⟩
  · intro i session id here mine
    by_cases new : i = w.registry.created
    · subst i
      rw [Function.update_self] at here
      cases here
      exact stash id mine
    · rw [Function.update_of_ne new] at here
      exact sound.stashed i session id here mine

theorem sound_stashes {stashes : String → Option StashEntry} (sound : Sound w)
    (kept : ∀ stashId, w.stashes stashId ≠ none → stashes stashId ≠ none) : Sound {w with stashes:=stashes} :=
  ⟨sound.fresh,sound.registered,sound.latest,fun i session stashId here mine => kept stashId (sound.stashed i session stashId here mine),
    sound.peers⟩

theorem update_kept {stashes : String → Option StashEntry} {stashId : String} {entry : Option StashEntry} (some_ : stashes stashId ≠ none → entry ≠ none)
    (other : String) (here : stashes other ≠ none) : Function.update stashes stashId entry other ≠ none := by
  by_cases same : other = stashId
  · subst other
    rw [Function.update_self]
    exact some_ here
  · rwa [Function.update_of_ne same]

theorem trigger_sound {trigger : Trigger} {stage stage' : TriggerStage} (sound : Sound w) (placed : Placed w (.trigger trigger stage))
    (taken : stepTrigger w trigger stage = some (w',stage')) : Sound w' ∧ Placed w' (.trigger trigger stage') ∧
      ∀ stashId, w.stashes stashId ≠ none → w'.stashes stashId ≠ none := by
  cases stage with
  | stashing =>
      simp only [stepTrigger] at taken
      split at taken
      · cases taken
      · cases taken
        have kept : ∀ stashId, w.stashes stashId ≠ none →
            Function.update w.stashes trigger.stashId (some trigger.entry) stashId ≠ none :=
          update_kept fun _ none => by cases none
        refine ⟨sound_stashes sound kept,?_,kept⟩
        intro none
        dsimp only at none
        rw [Function.update_self] at none
        cases none
  | numbering =>
      cases taken
      exact ⟨⟨sound.fresh,sound.registered,sound.latest,sound.stashed,sound.peers⟩,placed,fun _ => id⟩
  | creating sessionId =>
      cases taken
      refine ⟨sound_creates sound ?_,placed,fun _ => id⟩
      intro id mine
      cases mine
      exact placed
  | noting sessionId =>
      cases taken
      exact ⟨⟨sound.fresh,sound.registered,sound.latest,sound.stashed,sound.peers⟩,placed,fun _ => id⟩
  | announcing sessionId =>
      cases taken
      refine ⟨sound,?_,fun _ => id⟩
      cases w.sessionIds trigger.stashId <;> exact placed
  | registering sessionId =>
      cases taken
      refine ⟨⟨sound.fresh,sound.registered,sound.latest,sound.stashed,?_⟩,placed,fun _ => id⟩
      intro name peer here
      dsimp only at here ⊢
      by_cases same : name = sessionId
      · subst name
        rw [Function.update_self] at here
        cases here
        exact Nat.lt_succ_self _
      · rw [Function.update_of_ne same] at here
        exact Nat.lt_succ_of_lt (sound.peers name peer here)
  | returned => cases taken

theorem replacing_sound (sound : Sound w) (id : Option String) : Sound (w.replacing id) :=
  ⟨sound.fresh,sound.registered,sound.latest,sound.stashed,sound.peers⟩

theorem actor_sound (sound : Sound w) (placed : Placed w actor) (taken : stepActor code w actor outside = some (w',actor')) :
    Sound w' ∧ Placed w' actor' ∧ ∀ stashId, w.stashes stashId ≠ none → w'.stashes stashId ≠ none := by
  cases actor with
  | trust t =>
      obtain ⟨⟨r,t'⟩,moved,same⟩ := Option.map_eq_some_iff.mp taken
      cases same
      refine ⟨?_,trivial,fun _ => id⟩
      cases trust_registers moved with
      | leaves _ origins _ => exact sound_origins (replacing_sound sound _) origins
      | looks _ _ _ _ same _ =>
          subst same
          exact replacing_sound sound _
      | creates sessionId nonce _ created _ =>
          subst created
          refine sound_creates (replacing_sound sound _) ?_
          intro id none
          cases none
  | trigger trigger stage =>
      obtain ⟨⟨after,stage'⟩,moved,same⟩ := Option.map_eq_some_iff.mp taken
      cases same
      exact trigger_sound (w := w.replacing _) (replacing_sound sound _) placed moved

theorem progress_sound {event : Progress} (sound : Sound w) (taken : progress w event = some w') :
    Sound w' ∧ ∀ stashId, w.stashes stashId ≠ none → w'.stashes stashId ≠ none := by
  have changed : ∀ stashId change, Sound (w.changeStash stashId change) ∧
      ∀ other, w.stashes other ≠ none → (w.changeStash stashId change).stashes other ≠ none := by
    intro stashId change
    have kept : ∀ other, w.stashes other ≠ none → Function.update w.stashes stashId ((w.stashes stashId).map change) other ≠ none :=
      update_kept fun here none => here (Option.map_eq_none_iff.mp none)
    exact ⟨sound_stashes sound kept,kept⟩
  cases event with
  | claimed stashId =>
      cases taken
      exact changed stashId _
  | invalidated stashId =>
      cases taken
      exact changed stashId _
  | expired stashId =>
      cases taken
      exact changed stashId _
  | transferred session state =>
      cases taken
      exact ⟨⟨sound.fresh,sound.registered,sound.latest,sound.stashed,sound.peers⟩,fun _ => id⟩
  | peerDone peer =>
      cases taken
      exact ⟨⟨sound.fresh,sound.registered,sound.latest,sound.stashed,sound.peers⟩,fun _ => id⟩

def soundly : Assertions Receiver Actor where
  world := Sound
  thread := Placed

theorem soundly_stable : Stable soundly (stepActor code) progress {} where
  own sound placed _ taken := ⟨(actor_sound sound placed taken).1,(actor_sound sound placed taken).2.1⟩
  other sound placed stands _ _ _ _ taken := ⟨placed_keeps (actor_sound sound placed taken).2.2 stands,trivial,trivial⟩
  eventWorld sound taken := (progress_sound sound taken).1
  eventThread sound placed _ taken := placed_keeps (progress_sound sound taken).2 placed

end Tables

section Ids
variable {w w' : Receiver} {actor actor' other : Actor}

theorem used_none : usedBy w sessionId = none ↔
    ∀ i session, w.registry.sessions sessionId = some i → w.registry.objects i = some session → sessionInUse w i session = false := by
  unfold usedBy
  constructor
  · intro none i session mapped here
    rw [mapped,Option.filter_some,here,Option.any_some] at none
    split at none
    · cases none
    · rename_i unused
      exact Bool.eq_false_iff.mpr unused
  · intro unused
    cases mapped : w.registry.sessions sessionId with
    | none => rfl
    | some i =>
        rw [Option.filter_some]
        cases here : w.registry.objects i with
        | none => rfl
        | some session =>
            rw [Option.any_some,unused i session mapped here]
            rfl

theorem running_none : runningPeer w sessionId = none ↔ ∀ peer, w.peers sessionId = some peer → w.running peer = false := by
  unfold runningPeer
  cases w.peers sessionId with
  | none => exact ⟨fun _ _ none => (by cases none),fun _ => rfl⟩
  | some peer =>
      rw [Option.filter_some]
      constructor
      · intro none other same
        cases same
        split at none
        · cases none
        · rename_i stopped
          exact Bool.eq_false_iff.mpr stopped
      · intro stopped
        rw [stopped peer rfl]
        rfl

theorem in_use_origin {next : TrustSession} (origin : Origin session next) : sessionInUse w i next = sessionInUse w i session := by
  unfold sessionInUse
  rw [origin.flowType,origin.stashId]

theorem unused_origins {r : Registry} (origins : SameOrigins w.registry r) (unused : usedBy w sessionId = none) :
    usedBy {w with registry:=r} sessionId = none := by
  rw [used_none] at unused ⊢
  intro i next mapped here
  obtain ⟨session,there,origin⟩ := origins.back i next here
  have same : sessionInUse {w with registry:=r} i next = sessionInUse w i next := rfl
  rw [same,in_use_origin origin]
  exact unused i session (origins.sessions ▸ mapped) there

theorem unused_creates {name : String} {flowType : TrustFlowType} {optCode stashId : Option String} {nonce : Bytes} (sound : Sound w)
    (different : sessionId ≠ name) (unused : usedBy w sessionId = none) :
    usedBy {w with registry:=w.registry.createSession name flowType optCode stashId nonce} sessionId = none := by
  rw [used_none] at unused ⊢
  intro i session mapped here
  dsimp only [Registry.createSession] at mapped here
  rw [Function.update_of_ne different] at mapped
  obtain ⟨old,there,-⟩ := sound.registered sessionId i mapped
  rw [Function.update_of_ne (Nat.ne_of_lt (object_below sound.fresh there))] at here
  exact unused i session mapped here

theorem unused_stashes {stashes : String → Option StashEntry} (sound : Sound w)
    (ends : ∀ stashId entry, w.stashes stashId ≠ none → stashes stashId = some entry → (entry.claimed || entry.expired) = false →
      ∃ before, w.stashes stashId = some before ∧ (before.claimed || before.expired) = false)
    (unused : usedBy w sessionId = none) : usedBy {w with stashes:=stashes} sessionId = none := by
  rw [used_none] at unused ⊢
  intro i session mapped here
  have before := unused i session mapped here
  unfold sessionInUse at before ⊢
  cases flow : session.flowType with
  | mobileToPc =>
      rw [flow] at before
      exact before
  | pcToMobile =>
      rw [flow] at before
      dsimp only at before ⊢
      by_contra used
      rw [Bool.not_eq_false,Option.any_eq_true] at used
      obtain ⟨entry,found,open_⟩ := used
      obtain ⟨stashId,mine,found⟩ := Option.bind_eq_some_iff.mp found
      obtain ⟨old,there,unended⟩ := ends stashId entry (sound.stashed i session stashId here mine) found
        (by simpa only [Bool.and_eq_true,Bool.not_eq_true',Bool.or_eq_false_iff] using open_)
      rw [mine,Option.bind_some,there,Option.any_some] at before
      simp only [Bool.or_eq_false_iff] at unended
      rw [unended.1,unended.2] at before
      cases before

def holdsStash : Actor → Option String
  | .trigger _ .stashing => none
  | .trigger trigger _ => some trigger.stashId
  | _ => none

def begins (w : Receiver) : Actor → Option String
  | .trigger _ .numbering => some (hexId (nextCounter w.counter))
  | .trust (.handshake sessionId _ .arrived) => if (w.registry.sessions sessionId).isNone then some sessionId else none
  | _ => none

def Noted (w : Receiver) (actor : Actor) : Prop :=
  ∀ trigger sessionId, actor = .trigger trigger (.announcing sessionId) → w.sessionIds trigger.stashId = some sessionId

structure Steps (w : Receiver) (actor : Actor) (w' : Receiver) (actor' : Actor) : Prop where
  replaced : w'.replaced = w.replaced ++ ((creates actor).bind (usedBy w)).toList
  dropped : w'.dropped = w.dropped ∨ ∃ id, registers actor = some id ∧ w'.dropped = w.dropped ++ (runningPeer w id).toList
  creates : ∀ id, creates actor' = some id → begins w actor = some id
  registers : ∀ id, registers actor' = some id → registers actor = some id ∨ begins w actor = some id ∧ ∃ trigger, actor = .trigger trigger .numbering
  unused : ∀ id, SessionIds.creates actor ≠ some id → usedBy w id = none → usedBy w' id = none
  idle : ∀ id, (SessionIds.registers actor ≠ some id ∨ SessionIds.registers actor' = some id) → runningPeer w id = none → runningPeer w' id = none
  stash : ∀ id, holdsStash actor' = some id → holdsStash actor = some id ∨ w.stashes id = none
  notes : ∀ id, holdsStash actor ≠ some id → w'.sessionIds id = w.sessionIds id
  noted : Noted w' actor'

theorem trust_steps {t t' : TrustRequest} (sound : Sound w) (taken : stepActor code w (.trust t) outside = some (w',.trust t')) :
    Steps w (.trust t) w' (.trust t') := by
  obtain ⟨⟨r,t''⟩,moved,same⟩ := Option.map_eq_some_iff.mp taken
  cases same
  have mine : ∀ u, creates (.trust u) = creatingId u := by
    intro u
    cases u with
    | handshake sessionId body stage => cases stage <;> rfl
    | apply sessionId envelope stage => rfl
    | confirm sessionId correlationId envelope stage => rfl
  have registry : ∀ id, creatingId t ≠ some id → usedBy w id = none → usedBy {w.replacing (creates (.trust t)) with registry:=r} id = none := by
    intro id other unused
    cases trust_registers moved with
    | leaves _ origins _ => exact unused_origins (w := w.replacing _) origins unused
    | looks _ _ _ _ same _ =>
        subst same
        exact unused
    | creates sessionId nonce mine created _ =>
        subst created
        refine unused_creates (w := w.replacing _) (replacing_sound sound _) ?_ unused
        rintro rfl
        exact other mine
  refine ⟨rfl,.inl rfl,?_,fun _ none => (by cases none),?_,fun _ _ => id,fun _ none => (by cases none),fun _ _ => rfl,fun _ _ none => (by cases none)⟩
  · intro id next
    rw [mine] at next
    cases trust_registers moved with
    | leaves _ _ none =>
        rw [none] at next
        cases next
    | looks sessionId body arrived absent _ other =>
        subst arrived
        rw [other] at next
        cases next
        unfold begins
        dsimp only
        rw [absent]
        rfl
    | creates _ _ _ _ none =>
        rw [none] at next
        cases next
  · intro id other
    rw [mine] at other
    exact registry id other

theorem trigger_steps {trigger : Trigger} {stage stage' : TriggerStage} (sound : Sound w) (noted : Noted w (.trigger trigger stage))
    (taken : stepActor code w (.trigger trigger stage) outside = some (w',.trigger trigger stage')) :
    Steps w (.trigger trigger stage) w' (.trigger trigger stage') := by
  obtain ⟨⟨after,stage''⟩,moved,same⟩ := Option.map_eq_some_iff.mp taken
  cases same
  cases stage with
  | stashing =>
      simp only [stepTrigger] at moved
      split at moved
      · cases moved
      · rename_i new
        cases moved
        refine ⟨rfl,.inl rfl,fun _ none => (by cases none),fun _ none => (by cases none),?_,fun _ _ => id,?_,fun _ _ => rfl,
          fun _ _ none => (by cases none)⟩
        · intro id _ unused
          refine unused_stashes (w := w.replacing _) (replacing_sound sound _) ?_ unused
          intro stashId entry here found open_
          by_cases same : stashId = trigger.stashId
          · subst stashId
            exact absurd (Option.not_isSome_iff_eq_none.mp new) here
          · rw [Function.update_of_ne same] at found
            exact ⟨entry,found,open_⟩
        · intro id mine
          cases mine
          exact .inr (Option.not_isSome_iff_eq_none.mp new)
  | numbering =>
      cases moved
      refine ⟨rfl,.inl rfl,?_,?_,fun _ _ => id,fun _ _ => id,fun _ => .inl,fun _ _ => rfl,fun _ _ none => (by cases none)⟩
      · intro id mine
        exact mine
      · intro id mine
        exact .inr ⟨mine,trigger,rfl⟩
  | creating sessionId =>
      cases moved
      refine ⟨rfl,.inl rfl,fun _ none => (by cases none),fun _ => .inl,?_,fun _ _ => id,fun _ => .inl,fun _ _ => rfl,fun _ _ none => (by cases none)⟩
      intro id other unused
      refine unused_creates (w := w.replacing _) (replacing_sound sound _) ?_ unused
      rintro rfl
      exact other rfl
  | noting sessionId =>
      cases moved
      refine ⟨rfl,.inl rfl,fun _ none => (by cases none),fun _ => .inl,fun _ _ => id,fun _ _ => id,fun _ => .inl,?_,?_⟩
      · intro id other
        exact Function.update_of_ne (fun same => other (congrArg some same.symm)) _ _
      · intro again id same
        cases same
        exact Function.update_self ..
  | announcing sessionId =>
      have here : (w.replacing (creates (.trigger trigger (.announcing sessionId)))).sessionIds trigger.stashId = some sessionId :=
        noted trigger sessionId rfl
      simp only [stepTrigger,here,Option.elim_some] at moved
      cases moved
      exact ⟨rfl,.inl rfl,fun _ none => (by cases none),fun _ => .inl,fun _ _ => id,fun _ _ => id,fun _ => .inl,fun _ _ => rfl,
        fun _ _ none => (by cases none)⟩
  | registering sessionId =>
      cases moved
      refine ⟨rfl,.inr ⟨sessionId,rfl,rfl⟩,fun _ none => (by cases none),fun _ none => (by cases none),fun _ _ => id,?_,fun _ => .inl,
        fun _ _ => rfl,fun _ _ none => (by cases none)⟩
      intro id other unused
      have different : id ≠ sessionId := by
        rintro rfl
        rcases other with not | none
        · exact not rfl
        · cases none
      rw [running_none] at unused ⊢
      intro peer here
      dsimp only at here ⊢
      rw [Function.update_of_ne different] at here
      have older : peer ≠ w.started := Nat.ne_of_lt (sound.peers id peer here)
      exact (Function.update_of_ne older _ _).trans (unused peer here)
  | returned => cases moved

theorem actor_steps (sound : Sound w) (noted : Noted w actor) (taken : stepActor code w actor outside = some (w',actor')) :
    Steps w actor w' actor' := by
  cases actor with
  | trust t =>
      obtain ⟨next,-,same⟩ := Option.map_eq_some_iff.mp taken
      cases same
      exact trust_steps sound taken
  | trigger trigger stage =>
      obtain ⟨next,-,same⟩ := Option.map_eq_some_iff.mp taken
      cases same
      exact trigger_steps sound noted taken

theorem progress_unused {event : Progress} (sound : Sound w) (taken : progress w event = some w')
    (unrevived : ∀ session state, event = .transferred session state → state.active = true → w.registry.sessions sessionId ≠ some session)
    (unused : usedBy w sessionId = none) : usedBy w' sessionId = none := by
  have changed : ∀ stashId change, (∀ entry, ((change entry).claimed || (change entry).expired) = false → (entry.claimed || entry.expired) = false) →
      usedBy (w.changeStash stashId change) sessionId = none := by
    intro stashId change ends
    refine unused_stashes sound ?_ unused
    intro other entry _ found open_
    by_cases same : other = stashId
    · subst other
      rw [Function.update_self] at found
      obtain ⟨before,there,rfl⟩ := Option.map_eq_some_iff.mp found
      exact ⟨before,there,ends before open_⟩
    · rw [Function.update_of_ne same] at found
      exact ⟨entry,found,open_⟩
  cases event with
  | claimed stashId =>
      cases taken
      exact changed stashId _ fun entry ended => by simp [StashEntry.claim] at ended
  | invalidated stashId =>
      cases taken
      exact changed stashId _ fun entry ended => by simp [StashEntry.invalidate] at ended
  | expired stashId =>
      cases taken
      exact changed stashId _ fun entry ended => by simp at ended
  | transferred i state =>
      cases taken
      rw [used_none] at unused ⊢
      intro j session mapped here
      have before := unused j session mapped here
      unfold sessionInUse at before ⊢
      cases flow : session.flowType with
      | pcToMobile =>
          rw [flow] at before
          exact before
      | mobileToPc =>
          rw [flow] at before
          dsimp only at before ⊢
          by_cases same : j = i
          · subst j
            rw [Function.update_self]
            by_contra active
            rw [Bool.not_eq_false] at active
            exact unrevived i state rfl active mapped
          · rwa [Function.update_of_ne same]
  | peerDone peer =>
      cases taken
      exact unused

theorem progress_idle {event : Progress} (taken : progress w event = some w') (idle : runningPeer w sessionId = none) :
    runningPeer w' sessionId = none := by
  cases event with
  | claimed stashId =>
      cases taken
      exact idle
  | invalidated stashId =>
      cases taken
      exact idle
  | expired stashId =>
      cases taken
      exact idle
  | transferred session state =>
      cases taken
      exact idle
  | peerDone stopped =>
      cases taken
      rw [running_none] at idle ⊢
      intro peer here
      dsimp only
      by_cases same : peer = stopped
      · subst peer
        rw [Function.update_self]
      · rw [Function.update_of_ne same]
        exact idle peer here

theorem progress_notes {event : Progress} (taken : progress w event = some w') : w'.sessionIds = w.sessionIds ∧
    w'.replaced = w.replaced ∧ w'.dropped = w.dropped := by
  cases event <;> cases taken <;> exact ⟨rfl,rfl,rfl⟩

end Ids

section Exclusion
variable {w w' : Receiver} {actor actor' other : Actor}

structure Settled (w : Receiver) : Prop where
  sound : Sound w
  replaced : w.replaced = []
  dropped : w.dropped = []

-- Nothing in use is under the ids that a thread is about to write.
structure Exclusive (w : Receiver) (actor : Actor) : Prop where
  placed : Placed w actor
  unused : ∀ id, creates actor = some id → usedBy w id = none
  idle : ∀ id, registers actor = some id → runningPeer w id = none
  noted : Noted w actor

structure Apart (t u : Actor) : Prop where
  creates : ∀ id, creates t = some id → creates u ≠ some id
  registers : ∀ id, registers t = some id → registers u ≠ some id
  stash : ∀ id, holdsStash t = some id → holdsStash u ≠ some id

def exclusively : Assertions Receiver Actor where
  world := Settled
  thread := Exclusive
  pair := Apart

theorem apart_symm (apart : Apart actor other) : Apart other actor :=
  ⟨fun id mine theirs => apart.creates id theirs mine,fun id mine theirs => apart.registers id theirs mine,
    fun id mine theirs => apart.stash id theirs mine⟩

theorem held_placed {id : String} (placed : Placed w actor) (mine : holdsStash actor = some id) : w.stashes id ≠ none := by
  cases actor with
  | trust t => cases mine
  | trigger trigger stage => cases stage <;> cases mine <;> exact placed

theorem exclusive_own (settled : Settled w) (exclusive : Exclusive w actor) (allowed : numberFree w actor = true)
    (taken : stepActor code w actor outside = some (w',actor')) : Settled w' ∧ Exclusive w' actor' := by
  have steps := actor_steps settled.sound exclusive.noted taken
  obtain ⟨sound,placed,-⟩ := actor_sound settled.sound exclusive.placed taken
  have given : ∀ id, begins w actor = some id → creates actor ≠ some id ∧ usedBy w id = none := by
    intro id mine
    cases actor with
    | trust t =>
        cases t with
        | handshake sessionId body stage =>
            cases stage with
            | arrived =>
                unfold begins at mine
                dsimp only at mine
                split at mine
                · rename_i absent
                  cases mine
                  refine ⟨fun none => (by cases none),?_⟩
                  unfold usedBy
                  rw [Option.isNone_iff_eq_none.mp absent]
                  rfl
                · cases mine
            | creating | bootstrapping | storing | establishing | responding | answered => cases mine
        | apply => cases mine
        | confirm => cases mine
    | trigger trigger stage =>
        cases stage with
        | numbering =>
            cases mine
            simp only [numberFree,Bool.and_eq_true,Option.isNone_iff_eq_none] at allowed
            exact ⟨fun none => (by cases none),allowed.1⟩
        | stashing | creating | noting | announcing | registering | returned => cases mine
  refine ⟨⟨sound,?_,?_⟩,⟨placed,?_,?_,steps.noted⟩⟩
  · rw [steps.replaced,settled.replaced]
    cases mine : creates actor with
    | none => rfl
    | some id =>
        rw [Option.bind_some,exclusive.unused id mine]
        rfl
  · rcases steps.dropped with same | ⟨id,mine,dropped⟩
    · rw [same,settled.dropped]
    · rw [dropped,settled.dropped,exclusive.idle id mine]
      rfl
  · intro id mine
    obtain ⟨other,unused⟩ := given id (steps.creates id mine)
    exact steps.unused id other unused
  · intro id mine
    refine steps.idle id (.inr mine) ?_
    rcases steps.registers id mine with before | ⟨begun,trigger,rfl⟩
    · exact exclusive.idle id before
    · cases begun
      simp only [numberFree,Bool.and_eq_true,Option.isNone_iff_eq_none] at allowed
      exact allowed.2

theorem alone_begins {id : String} (alone : idAlone w actor other = true) (begun : begins w actor = some id) :
    creates other ≠ some id ∧ ((∃ trigger, actor = .trigger trigger .numbering) → registers other ≠ some id) := by
  cases actor with
  | trust t =>
      cases t with
      | handshake sessionId body stage =>
          cases stage with
          | arrived =>
              unfold begins at begun
              dsimp only at begun
              split at begun
              · rename_i absent
                cases begun
                simp only [idAlone,Bool.or_eq_true,decide_eq_true_eq] at alone
                refine ⟨alone.resolve_left ?_,?_⟩
                · rw [Option.isNone_iff_eq_none.mp absent]
                  decide
                · rintro ⟨trigger,none⟩
                  cases none
              · cases begun
          | creating | bootstrapping | storing | establishing | responding | answered => cases begun
      | apply => cases begun
      | confirm => cases begun
  | trigger trigger stage =>
      cases stage with
      | numbering =>
          cases begun
          simp only [idAlone,Bool.and_eq_true,decide_eq_true_eq] at alone
          exact ⟨alone.1,fun _ => alone.2⟩
      | stashing | creating | noting | announcing | registering | returned => cases begun

theorem exclusive_other (settled : Settled w) (exclusive : Exclusive w actor) (theirs : Exclusive w other) (apart : Apart actor other)
    (alone : idAlone w actor other = true) (taken : stepActor code w actor outside = some (w',actor')) :
    Exclusive w' other ∧ Apart actor' other := by
  have steps := actor_steps settled.sound exclusive.noted taken
  obtain ⟨-,-,stashes⟩ := actor_sound settled.sound exclusive.placed taken
  refine ⟨⟨placed_keeps stashes theirs.placed,?_,?_,?_⟩,⟨?_,?_,?_⟩⟩
  · intro id mine
    exact steps.unused id (fun same => apart.creates id same mine) (theirs.unused id mine)
  · intro id mine
    exact steps.idle id (.inl fun same => apart.registers id same mine) (theirs.idle id mine)
  · intro trigger id same
    subst same
    rw [steps.notes trigger.stashId fun held => apart.stash trigger.stashId held rfl]
    exact theirs.noted trigger id rfl
  · intro id mine
    exact (alone_begins alone (steps.creates id mine)).1
  · intro id mine
    rcases steps.registers id mine with before | ⟨begun,numbering⟩
    · exact apart.registers id before
    · exact (alone_begins alone begun).2 numbering
  · intro id mine held
    rcases steps.stash id mine with before | absent
    · exact apart.stash id before held
    · exact held_placed theirs.placed held absent

theorem exclusively_stable : Stable exclusively (stepActor code) progress idsFree where
  own settled exclusive allowed taken := exclusive_own settled exclusive allowed taken
  other := by
    intro w actor other outside w' actor' settled exclusive theirs apart _ _ alone taken
    obtain ⟨kept,apart'⟩ := exclusive_other settled exclusive theirs apart alone taken
    exact ⟨kept,apart',apart_symm apart'⟩
  eventWorld := by
    intro w event w' settled taken
    obtain ⟨-,replaced,dropped⟩ := progress_notes taken
    exact ⟨(progress_sound settled.sound taken).1,replaced.trans settled.replaced,dropped.trans settled.dropped⟩
  eventThread := by
    intro w event w' other settled exclusive unrevived taken
    refine ⟨placed_keeps (progress_sound settled.sound taken).2 exclusive.placed,?_,?_,?_⟩
    · intro id mine
      refine progress_unused settled.sound taken ?_ (exclusive.unused id mine)
      rintro session state rfl active
      have spared : notRevived w (.transferred session state) other = true := unrevived
      simpa [notRevived,active,mine] using spared
    · intro id mine
      exact progress_idle taken (exclusive.idle id mine)
    · intro trigger id same
      rw [(progress_notes taken).1]
      exact exclusive.noted trigger id same

end Exclusion

section Runs
variable {Index : Type*} {s : Pool Index Receiver Actor}

structure Starts (s : Pool Index Receiver Actor) : Prop where
  world : ∃ counter, s.world = {counter:=counter}
  actors : ∀ i, (∃ trigger, s.threads i = .trigger trigger .stashing) ∨ ∃ t, s.threads i = .trust t ∧ creates (.trust t) = none

theorem starts_sound (starts : Starts s) : Sound s.world := by
  obtain ⟨counter,world⟩ := starts.world
  rw [world]
  refine ⟨fun _ _ => rfl,?_,?_,?_,?_⟩
  · intro sessionId i none
    cases none
  · intro i session none
    cases none
  · intro i session stashId none
    cases none
  · intro sessionId peer none
    cases none

theorem starts_idle (starts : Starts s) (i : Index) : Placed s.world (s.threads i) ∧ creates (s.threads i) = none ∧
    registers (s.threads i) = none ∧ holdsStash (s.threads i) = none ∧ Noted s.world (s.threads i) := by
  rcases starts.actors i with ⟨trigger,here⟩ | ⟨t,here,idle⟩
  · rw [here]
    exact ⟨trivial,rfl,rfl,rfl,fun _ _ none => (by cases none)⟩
  · rw [here]
    exact ⟨trivial,idle,rfl,rfl,fun _ _ none => (by cases none)⟩

theorem starts_soundly (starts : Starts s) : soundly.Hold s :=
  ⟨starts_sound starts,fun i => (starts_idle starts i).1,fun _ _ _ => trivial⟩

theorem starts_exclusively (starts : Starts s) : exclusively.Hold s := by
  obtain ⟨counter,world⟩ := starts.world
  refine ⟨⟨starts_sound starts,by rw [world],by rw [world]⟩,?_,?_⟩
  · intro i
    obtain ⟨placed,creating,registering,-,noted⟩ := starts_idle starts i
    refine ⟨placed,?_,?_,noted⟩
    · intro id mine
      rw [creating] at mine
      cases mine
    · intro id mine
      rw [registering] at mine
      cases mine
  · intro i j _
    obtain ⟨-,creating,registering,stash,-⟩ := starts_idle starts i
    refine ⟨?_,?_,?_⟩
    · intro id mine
      rw [creating] at mine
      cases mine
    · intro id mine
      rw [registering] at mine
      cases mine
    · intro id mine
      rw [stash] at mine
      cases mine

-- A session is out of reach once another has been made under its id, and not before.
theorem unreachable_replaced (sound : Sound s.world) (here : s.world.registry.objects i = some session) :
    s.world.registry.sessions session.sessionId ≠ some i ↔
      ∃ j later, i < j ∧ s.world.registry.objects j = some later ∧ later.sessionId = session.sessionId := by
  constructor
  · intro gone
    obtain ⟨j,mapped,later⟩ := sound.latest i session here
    obtain ⟨next,there,named⟩ := sound.registered session.sessionId j mapped
    refine ⟨j,next,Nat.lt_of_le_of_ne later ?_,there,named⟩
    rintro rfl
    exact gone mapped
  · rintro ⟨j,later,after,there,named⟩ mapped
    obtain ⟨k,found,beyond⟩ := sound.latest j later there
    rw [named,mapped] at found
    cases found
    exact absurd after (Nat.not_lt.mpr beyond)

end Runs

-- While no number comes round to, and nobody else is on the way to, what is in use: no session
-- and no peer in use is replaced. And in every run a trust session stays within reach until
-- another is made under its id.
theorem ids_unused {Index : Type*} [DecidableEq Index] (code : Outlying) {start : Pool Index Receiver Actor} (starts : Starts start) :
    (∀ next, Reaches (receiverPool code Index) idsFree.Admits start next →
      (∀ i sessionId, creates (next.threads i) = some sessionId → usedBy next.world sessionId = none) ∧
      (∀ i trigger sessionId, next.threads i = .trigger trigger (.registering sessionId) → runningPeer next.world sessionId = none) ∧
      next.world.replaced = [] ∧ next.world.dropped = []) ∧
    ∀ next, Reachable (receiverPool code Index) start next → ∀ i session, next.world.registry.objects i = some session →
      (next.world.registry.sessions session.sessionId ≠ some i ↔
        ∃ j later, i < j ∧ next.world.registry.objects j = some later ∧ later.sessionId = session.sessionId) := by
  constructor
  · intro next path
    have held := hold_reaches exclusively_stable (starts_exclusively starts) path
    refine ⟨fun i => (held.thread i).unused,?_,held.world.replaced,held.world.dropped⟩
    intro i trigger sessionId here
    exact (held.thread i).idle sessionId (by rw [here]; rfl)
  · intro next path i session here
    have free : Reaches (receiverPool code Index) ({} : Condition Receiver Actor Outside Progress).Admits start next := by
      refine reaches_weaken ?_ path
      intro s move _
      cases move with
      | thread i input => exact ⟨trivial,fun _ _ => trivial⟩
      | environment event => exact fun _ => trivial
    exact unreachable_replaced (hold_reaches soundly_stable (starts_soundly starts) free).world here

instance (w : Receiver) (actor : Actor) (x : Outside) : Decidable (idsFree.own w actor x) :=
  inferInstanceAs (Decidable (numberFree w actor = true))
instance (w : Receiver) (one two : Actor) (x : Outside) : Decidable (idsFree.beside w one x two) :=
  inferInstanceAs (Decidable (idAlone w one two = true))
instance (w : Receiver) (event : Progress) (actor : Actor) : Decidable (idsFree.event w event actor) :=
  inferInstanceAs (Decidable (notRevived w event actor = true))

-- A phone that starts a session of its own, and a share on the desktop.
def phoneAndShare (sessionId : String) : Pool Bool Receiver Actor := ⟨{},fun share =>
  if share then .trigger ⟨"stash-1",[{filePath:="photo.png"}],"123456",0,[7]⟩ .stashing
  else .trust (.handshake sessionId ⟨sampleText 'C',"AAAA"⟩ .arrived)⟩

theorem phoneAndShare_starts (sessionId : String) : Starts (phoneAndShare sessionId) := by
  refine ⟨⟨0,rfl⟩,?_⟩
  intro share
  cases share with
  | true => exact .inl ⟨_,rfl⟩
  | false => exact .inr ⟨_,rfl,rfl⟩

-- The phone has chosen the id that the generator gives next.
theorem phone_replaced : ∃ next, Starts (phoneAndShare "1") ∧ Reachable (receiverPool sampleCode Bool) (phoneAndShare "1") next ∧
    next.world.replaced = [0] := by
  obtain ⟨next,path,seen⟩ := checkedRun_exhibits (receiverPool sampleCode Bool) (fun _ _ => True) (phoneAndShare "1")
    ([false,false,true,true,true].map fun share => .thread share {}) (fun next => next.world.replaced = [0]) (by decide +kernel)
  exact ⟨next,phoneAndShare_starts "1",path,of_decide_eq_true seen⟩

theorem share_beside_phone : ∃ next : Pool Bool Receiver Actor, next.world.registry.sessions "1" = some 1 ∧ next.world.peers "1" = some 0 ∧
    next.world.replaced = [] := by
  obtain ⟨next,path,seen⟩ := checkedRun_exhibits (receiverPool sampleCode Bool) idsFree.Admits (phoneAndShare "7f3a-11")
    ([false,false,true,true,true,true,true,true].map fun share => .thread share {})
    (fun next => next.world.registry.sessions "1" = some 1 && next.world.peers "1" = some 0) (by decide +kernel)
  simp only [Bool.and_eq_true,decide_eq_true_eq] at seen
  exact ⟨next,seen.1,seen.2,((ids_unused sampleCode (phoneAndShare_starts "7f3a-11")).1 next path).2.2.1⟩

end ImageSearch.UnusedSessionIds
