import ImageSearch.TrustSteps
import ImageSearch.SharedStashes

namespace ImageSearch.ServedTransfers
open Payload Transitions Threads TrustSessions TrustSession TrustSteps SharedStashes

variable {code : PeerCode} {earlier : String → Option String} {w w' : Registry} {d d' : Desktop} {t t' : TrustRequest}
  {request request' u : ShareRequest} {outside : Outside} {session : TrustSession} {i : Nat} {certificatePem : String}

def verifiedBy : TransferStage → Option String
  | .verified certificatePem | .unregistered certificatePem | .found certificatePem _ | .trusted certificatePem _
  | .reading certificatePem _ _ _ | .served certificatePem _ _ => some certificatePem
  | .arrived | .loading | .answered _ => none

def foundBy : TransferStage → Option Nat
  | .found _ i | .trusted _ i | .reading _ i _ _ | .served _ i _ => some i
  | _ => none

def servedBy : TransferStage → Option (String × Nat)
  | .trusted certificatePem i | .reading certificatePem i _ _ | .served certificatePem i _ => some (certificatePem,i)
  | _ => none

def Confirms (w : Registry) (i : Nat) (key : SessionKey) : Prop :=
  ∃ auth, (⟨i,key,some auth,true⟩ : PairingCheck) ∈ w.checks

def Vouched (earlier : String → Option String) (w : Registry) (certificatePem : String) : Prop :=
  (∃ deviceId, earlier deviceId = some certificatePem) ∨ ∃ delivery ∈ w.deliveries, delivery.certificatePem = certificatePem

structure Vouches (earlier : String → Option String) (w : Registry) : Prop where
  fresh : Fresh w
  registered : ∀ sessionId i, w.sessions sessionId = some i →
    ∃ session, w.objects i = some session ∧ session.sessionId = sessionId
  trusted : ∀ i session, w.objects i = some session → session.isTrusted = true → ∃ key, Confirms w i key
  delivered : ∀ delivery ∈ w.deliveries, Confirms w delivery.session delivery.key
  keychain : ∀ deviceId certificatePem, w.keychain deviceId = some certificatePem → Vouched earlier w certificatePem

structure Confirming (w : Registry) (t : TrustRequest) : Prop where
  proven : ∀ o, provenBy t = some o → Confirms w o.session o.key
  filing : ∀ o certificatePem, filing t = some (o,certificatePem) →
    (⟨o.session,o.key,certificatePem⟩ : Delivery) ∈ w.deliveries

structure Transferring (code : PeerCode) (earlier : String → Option String) (w : Registry) (request : TransferRequest)
    (stage : TransferStage) : Prop where
  verified : ∀ certificatePem, verifiedBy stage = some certificatePem →
    verifySessionSignature code certificatePem request = true ∧ Vouched earlier w certificatePem
  found : ∀ i, foundBy stage = some i → ∃ session, w.objects i = some session ∧ session.sessionId = request.sessionId
  served : ∀ certificatePem i, servedBy stage = some (certificatePem,i) → ∃ session, w.objects i = some session ∧
    session.sessionId = request.sessionId ∧ session.isTrusted = true

def Follows (code : PeerCode) (earlier : String → Option String) (w : Registry) : ShareRequest → Prop
  | .trust t => Confirming w t
  | .transfer request stage => Transferring code earlier w request stage
  | .message _ _ _ => True

def serving (code : PeerCode) (earlier : String → Option String) : Assertions Desktop ShareRequest where
  world d := Vouches earlier d.registry
  thread d := Follows code earlier d.registry

-- What a step leaves of the registry: the objects, and what the ghosts have.
structure Grows (w w' : Registry) : Prop where
  objects : ∀ i session, w.objects i = some session → ∃ next, w'.objects i = some next ∧
    next.sessionId = session.sessionId ∧ (session.isTrusted = true → next.isTrusted = true)
  checks : w.checks ⊆ w'.checks
  deliveries : w.deliveries ⊆ w'.deliveries

theorem grows_refl : Grows w w := ⟨fun _ session here => ⟨session,here,rfl,id⟩,List.Subset.refl _,List.Subset.refl _⟩

theorem moved_grows {exchanges : Bytes → Bool} (fresh : Fresh w) (moved : Moved exchanges w t w') : Grows w w' :=
  ⟨fun _ _ here => moved_object fresh moved here,moved_checks moved,moved_deliveries moved⟩

theorem confirms_grows {key : SessionKey} (grows : Grows w w') (confirms : Confirms w i key) : Confirms w' i key := by
  obtain ⟨auth,checked⟩ := confirms
  exact ⟨auth,grows.checks checked⟩

theorem vouched_grows (grows : Grows w w') (vouched : Vouched earlier w certificatePem) : Vouched earlier w' certificatePem := by
  refine vouched.imp_right ?_
  rintro ⟨delivery,member,same⟩
  exact ⟨delivery,grows.deliveries member,same⟩

theorem confirming_grows (grows : Grows w w') (confirming : Confirming w t) : Confirming w' t :=
  ⟨fun o mine => confirms_grows grows (confirming.proven o mine),
    fun o certificatePem mine => grows.deliveries (confirming.filing o certificatePem mine)⟩

theorem transferring_grows {asked : TransferRequest} {stage : TransferStage} (grows : Grows w w')
    (transferring : Transferring code earlier w asked stage) : Transferring code earlier w' asked stage := by
  refine ⟨?_,?_,?_⟩
  · intro certificatePem mine
    obtain ⟨signed,vouched⟩ := transferring.verified certificatePem mine
    exact ⟨signed,vouched_grows grows vouched⟩
  · intro i mine
    obtain ⟨session,here,named⟩ := transferring.found i mine
    obtain ⟨next,there,same,-⟩ := grows.objects i session here
    exact ⟨next,there,same.trans named⟩
  · intro certificatePem i mine
    obtain ⟨session,here,named,trusted⟩ := transferring.served certificatePem i mine
    obtain ⟨next,there,same,kept⟩ := grows.objects i session here
    exact ⟨next,there,same.trans named,kept trusted⟩

theorem follows_grows (grows : Grows w w') (follows : Follows code earlier w u) : Follows code earlier w' u := by
  cases u with
  | trust t => exact confirming_grows grows follows
  | transfer asked stage => exact transferring_grows grows follows
  | message => trivial

theorem created_registered (vouches : Vouches earlier w) {sessionId : String} {flowType : TrustFlowType}
    {optCode stashId : Option String} {nonce : Bytes} {name : String}
    (here : (w.createSession sessionId flowType optCode stashId nonce).sessions name = some i) :
    ∃ session, (w.createSession sessionId flowType optCode stashId nonce).objects i = some session ∧
      session.sessionId = name := by
  simp only [Registry.createSession] at here ⊢
  by_cases same : name = sessionId
  · subst name
    rw [Function.update_self] at here
    cases here
    exact ⟨_,Function.update_self .., rfl⟩
  · rw [Function.update_of_ne same] at here
    obtain ⟨session,there,named⟩ := vouches.registered name i here
    have below := object_below vouches.fresh there
    exact ⟨session,by rw [Function.update_of_ne (by omega)]; exact there,named⟩

theorem moved_registered {exchanges : Bytes → Bool} (vouches : Vouches earlier w) (moved : Moved exchanges w t w') :
    ∀ sessionId i, w'.sessions sessionId = some i → ∃ session, w'.objects i = some session ∧ session.sessionId = sessionId := by
  have kept : w'.sessions = w.sessions → ∀ sessionId i, w'.sessions sessionId = some i →
      ∃ session, w'.objects i = some session ∧ session.sessionId = sessionId := by
    intro same sessionId i here
    rw [same] at here
    obtain ⟨session,there,named⟩ := vouches.registered sessionId i here
    obtain ⟨next,stands,still,-⟩ := moved_object vouches.fresh moved there
    exact ⟨next,stands,still.trans named⟩
  cases moved with
  | looks sessions => exact kept sessions
  | creates _ _ _ _ _ created => subst created; exact fun _ _ => created_registered vouches
  | keeps _ _ _ _ same => subst same; exact kept rfl
  | stores _ _ _ _ _ _ same => subst same; exact kept rfl
  | certifies _ _ _ _ _ same => subst same; exact kept rfl
  | trusts _ _ _ _ same => subst same; exact kept rfl

theorem moved_trusted {exchanges : Bytes → Bool} (vouches : Vouches earlier w) (confirming : Confirming w t)
    (moved : Moved exchanges w t w') :
    ∀ i session, w'.objects i = some session → session.isTrusted = true → ∃ key, Confirms w' i key := by
  have grows := moved_grows vouches.fresh moved
  have before : ∀ i session, w.objects i = some session → session.isTrusted = true → ∃ key, Confirms w' i key := by
    intro i session here trusted
    obtain ⟨key,confirms⟩ := vouches.trusted i session here trusted
    exact ⟨key,confirms_grows grows confirms⟩
  have modified : ∀ j next, (next.isTrusted = true → ∃ key, Confirms w' j key) → ∀ i session,
      Function.update w.objects j (some next) i = some session → session.isTrusted = true → ∃ key, Confirms w' i key := by
    intro j next mine i session here trusted
    by_cases same : i = j
    · subst j
      rw [Function.update_self] at here
      cases here
      exact mine trusted
    · rw [Function.update_of_ne same] at here
      exact before i session here trusted
  cases moved with
  | looks _ objects => rw [objects]; exact before
  | creates _ _ _ _ _ created => subst created; exact modified w.created _ nofun
  | keeps j session next there same _ _ _ isTrusted =>
      subst same
      exact modified j next (by rw [isTrusted]; exact before j session there)
  | stores j session _ _ _ there same =>
      subst same
      obtain ⟨-,isTrusted,-⟩ := handshake_fields
      exact modified j _ (by rw [isTrusted]; exact before j session there)
  | certifies o session _ _ there same => subst same; exact modified o.session _ (before o.session session there)
  | trusts o session mine _ same =>
      obtain ⟨_,_,_,rfl⟩ := mine
      subst same
      exact modified o.session _ fun _ => ⟨o.key,confirms_grows grows (confirming.proven o rfl)⟩

theorem moved_delivered {exchanges : Bytes → Bool} (vouches : Vouches earlier w) (confirming : Confirming w t)
    (moved : Moved exchanges w t w') : ∀ delivery ∈ w'.deliveries, Confirms w' delivery.session delivery.key := by
  have grows := moved_grows vouches.fresh moved
  have before : ∀ delivery ∈ w.deliveries, Confirms w' delivery.session delivery.key :=
    fun delivery member => confirms_grows grows (vouches.delivered delivery member)
  cases moved with
  | looks _ _ _ _ deliveries => rw [deliveries]; exact before
  | creates _ _ _ _ _ created => subst created; exact before
  | keeps _ _ _ _ same => subst same; exact before
  | stores _ _ _ _ _ _ same => subst same; exact before
  | trusts _ _ _ _ same => subst same; exact before
  | certifies o session certificatePem mine _ same =>
      obtain ⟨_,_,_,rfl⟩ := mine
      subst same
      intro delivery member
      rcases List.mem_append.mp member with old | new
      · exact before delivery old
      · cases List.mem_singleton.mp new
        exact confirms_grows grows (confirming.proven o rfl)

theorem moved_vouches {exchanges : Bytes → Bool} (vouches : Vouches earlier w) (confirming : Confirming w t)
    (moved : Moved exchanges w t w') : Vouches earlier w' := by
  refine ⟨moved_fresh vouches.fresh moved,moved_registered vouches moved,moved_trusted vouches confirming moved,
    moved_delivered vouches confirming moved,?_⟩
  intro deviceId certificatePem here
  have grows := moved_grows vouches.fresh moved
  rcases moved_keychain moved here with old | ⟨o,mine⟩
  · exact vouched_grows grows (vouches.keychain deviceId certificatePem old)
  · exact .inr ⟨_,grows.deliveries (confirming.filing o certificatePem mine),rfl⟩

theorem confirming_moves (vouches : Vouches earlier w) (confirming : Confirming w t)
    (taken : stepTrust code.toOutlying w t outside = some (w',t')) : Confirming w' t' := by
  have grows := moved_grows vouches.fresh (trust_moved taken)
  refine ⟨?_,?_⟩
  · intro o mine
    rcases proven_origin taken mine with before | ⟨_,_,_,session,auth,-,-,-,verified,same⟩
    · exact confirms_grows grows (confirming.proven o before)
    · obtain ⟨proof,rfl,-⟩ := verified_proof verified
      subst same
      exact ⟨proof,List.mem_append_right _ (List.mem_singleton_self _)⟩
  · intro o certificatePem mine
    rcases filing_origin taken mine with before | new
    · exact grows.deliveries (confirming.filing o certificatePem before)
    · exact new

theorem trust_parts (taken : stepShare code d (.trust t) outside = some (d',request')) :
    ∃ t', stepTrust code.toOutlying d.registry t outside = some (d'.registry,t') ∧ request' = .trust t' := by
  obtain ⟨⟨w',t'⟩,moved,same⟩ := Option.map_eq_some_iff.mp taken
  cases same
  exact ⟨t',moved,rfl⟩

theorem share_vouches (vouches : Vouches earlier d.registry) (follows : Follows code earlier d.registry request)
    (taken : stepShare code d request outside = some (d',request')) :
    Vouches earlier d'.registry ∧ Grows d.registry d'.registry := by
  cases request with
  | trust t =>
      obtain ⟨t',moved,-⟩ := trust_parts taken
      exact ⟨moved_vouches vouches follows (trust_moved moved),moved_grows vouches.fresh (trust_moved moved)⟩
  | transfer asked stage =>
      obtain ⟨next,moved,same⟩ := Option.map_eq_some_iff.mp taken
      cases same
      rw [(transfer_retrieves moved).registry]
      exact ⟨vouches,grows_refl⟩
  | message p message stage =>
      obtain ⟨next,moved,same⟩ := Option.map_eq_some_iff.mp taken
      cases same
      rw [message_registry moved]
      exact ⟨vouches,grows_refl⟩

theorem serve_stage {certificatePem stashId : String} {kind : TransferKind} {stage' : TransferStage}
    (served : (serveStash d certificatePem i stashId kind).2 = stage') :
    verifiedBy stage' = some certificatePem ∧ foundBy stage' = some i ∧ servedBy stage' = some (certificatePem,i) := by
  subst served
  cases kind with
  | download index =>
      simp only [serveStash]
      split <;> exact ⟨rfl,rfl,rfl⟩
  | text | image | manifest => exact ⟨rfl,rfl,rfl⟩

-- A stage that has the certificate and the session of the stage before it.
theorem transferring_same {asked : TransferRequest} {stage stage' : TransferStage}
    (transferring : Transferring code earlier w asked stage) (verified : verifiedBy stage' = verifiedBy stage)
    (found : foundBy stage' = foundBy stage) (served : servedBy stage' = servedBy stage) :
    Transferring code earlier w asked stage' := by
  refine ⟨?_,?_,?_⟩
  · rw [verified]; exact transferring.verified
  · rw [found]; exact transferring.found
  · rw [served]; exact transferring.served

theorem ended_transferring {asked : TransferRequest} {answer : TransferAnswer} :
    Transferring code earlier w asked (.answered answer) := ⟨nofun,nofun,nofun⟩

theorem transfer_moves {asked : TransferRequest} {stage stage' : TransferStage} (vouches : Vouches earlier d.registry)
    (transferring : Transferring code earlier d.registry asked stage)
    (taken : stepTransfer code d asked stage outside = some (d',stage')) :
    Transferring code earlier d.registry asked stage' := by
  cases stage with
  | arrived =>
      cases taken
      unfold extractSignatureHeaders
      split
      · exact ended_transferring
      · split
        · exact ended_transferring
        · exact ⟨nofun,nofun,nofun⟩
  | loading =>
      cases taken
      split
      · exact ended_transferring
      · rename_i certificatePem loaded
        split
        · rename_i signed
          refine ⟨?_,nofun,nofun⟩
          intro other mine
          cases mine
          exact ⟨signed,vouches.keychain _ _ loaded⟩
        · exact ended_transferring
  | verified certificatePem =>
      cases taken
      split
      · rename_i i registered
        refine ⟨transferring.verified,?_,nofun⟩
        intro other mine
        cases mine
        exact vouches.registered _ _ registered
      · split
        · exact ⟨transferring.verified,nofun,nofun⟩
        · exact ⟨transferring.verified,nofun,nofun⟩
        · exact ended_transferring
        · exact ended_transferring
  | unregistered certificatePem => cases taken; exact ended_transferring
  | found certificatePem i =>
      obtain ⟨session,here,moved⟩ := Option.map_eq_some_iff.mp taken
      cases moved
      split
      · rename_i trusted
        refine ⟨transferring.verified,transferring.found,?_⟩
        intro other j mine
        cases mine
        obtain ⟨session',there,named⟩ := transferring.found i rfl
        obtain rfl := Option.some.inj (here.symm.trans there)
        exact ⟨session,here,named,trusted⟩
      · exact ended_transferring
  | trusted certificatePem i =>
      obtain ⟨session,-,moved⟩ := Option.map_eq_some_iff.mp taken
      split at moved
      · cases moved; exact transferring_same transferring rfl rfl rfl
      · cases moved; exact transferring_same transferring rfl rfl rfl
      · cases moved; exact transferring_same transferring rfl rfl rfl
      · obtain ⟨verified,found,served⟩ := serve_stage (congrArg Prod.snd moved)
        exact transferring_same transferring verified found served
  | reading certificatePem i stashId entry =>
      simp only [stepTransfer] at taken
      split at taken <;> cases taken <;> exact transferring_same transferring rfl rfl rfl
  | served | answered => cases taken

theorem share_follows (vouches : Vouches earlier d.registry) (follows : Follows code earlier d.registry request)
    (taken : stepShare code d request outside = some (d',request')) : Follows code earlier d'.registry request' := by
  cases request with
  | trust t =>
      obtain ⟨t',moved,rfl⟩ := trust_parts taken
      exact confirming_moves vouches follows moved
  | transfer asked stage =>
      obtain ⟨next,moved,same⟩ := Option.map_eq_some_iff.mp taken
      cases same
      rw [(transfer_retrieves moved).registry]
      exact transfer_moves vouches follows moved
  | message p message stage =>
      obtain ⟨next,moved,same⟩ := Option.map_eq_some_iff.mp taken
      cases same
      trivial

theorem unproven_confirming (proven : provenBy t = none) (filed : filing t = none) : Confirming w t := by
  refine ⟨?_,?_⟩
  · intro o mine
    rw [proven] at mine
    cases mine
  · intro o certificatePem mine
    rw [filed] at mine
    cases mine

theorem event_registry {event : ShareEvent} (taken : shareEvent d event = some d') :
    d'.registry = d.registry ∨ ∃ trigger, d'.registry = triggerSession d.registry trigger := by
  cases event with
  | trigger stashId sessionId files drawn nonce =>
      simp only [shareEvent] at taken
      split at taken
      · cases taken; exact .inr ⟨_,rfl⟩
      · cases taken
  | cancel stashId =>
      obtain ⟨entry,-,moved⟩ := Option.map_eq_some_iff.mp taken
      split at moved <;> cases moved <;> exact .inl rfl
  | timer stashId =>
      obtain ⟨entry,-,moved⟩ := Option.bind_eq_some_iff.mp taken
      split at moved
      · cases moved
      · split at moved <;> cases moved <;> exact .inl rfl
  | tick seconds => cases taken; exact .inl rfl

theorem event_vouches {event : ShareEvent} (vouches : Vouches earlier d.registry) (taken : shareEvent d event = some d') :
    Vouches earlier d'.registry ∧ Grows d.registry d'.registry := by
  rcases event_registry taken with same | ⟨trigger,same⟩
  · rw [same]
    exact ⟨vouches,grows_refl⟩
  · rw [same]
    -- A trigger does what a handshake does that finds no session.
    have moved : Moved (fun _ => true) d.registry (.handshake "" ⟨"",""⟩ .creating) (triggerSession d.registry trigger) :=
      .creates _ _ _ _ _ rfl
    exact ⟨moved_vouches vouches (unproven_confirming rfl rfl) moved,moved_grows vouches.fresh moved⟩

theorem serving_stable : Stable (serving code earlier) (stepShare code) shareEvent {} where
  own := by
    intro d request x d' request' vouches follows _ taken
    exact ⟨(share_vouches vouches follows taken).1,share_follows vouches follows taken⟩
  other := by
    intro d request u x d' request' vouches follows beside _ _ _ _ taken
    exact ⟨follows_grows (share_vouches vouches follows taken).2 beside,trivial,trivial⟩
  eventWorld := by
    intro d event d' vouches taken
    exact (event_vouches vouches taken).1
  eventThread := by
    intro d event d' u vouches follows _ taken
    exact follows_grows (event_vouches vouches taken).2 follows

-- Signed with the key of a certificate that was trusted earlier or that an accepted confirm
-- delivered, and served for the session it names, which a confirm of its own made trusted.
structure Authorised (code : PeerCode) (earlier : String → Option String) (w : Registry) (asked : TransferRequest)
    (certificatePem : String) (i : Nat) : Prop where
  signed : ∃ publicKey, code.publicKey certificatePem = some publicKey ∧
    asked.signature = some (some ⟨publicKey,asked.sessionId⟩)
  certificate : (∃ deviceId, earlier deviceId = some certificatePem) ∨
    ∃ delivery ∈ w.deliveries, delivery.certificatePem = certificatePem ∧ Confirms w delivery.session delivery.key
  session : ∃ session, w.objects i = some session ∧ session.sessionId = asked.sessionId ∧ session.isTrusted = true
  confirmed : ∃ key, Confirms w i key

structure Starts {Index : Type*} (s : Pool Index Desktop ShareRequest) : Prop where
  sessions : ∀ sessionId, s.world.registry.sessions sessionId = none
  objects : ∀ i, s.world.registry.objects i = none
  deliveries : s.world.registry.deliveries = []
  trust : ∀ i t, s.threads i = .trust t → provenBy t = none ∧ filing t = none
  transfer : ∀ i asked stage, s.threads i = .transfer asked stage → stage = .arrived

theorem starts_hold {Index : Type*} {s : Pool Index Desktop ShareRequest} (start : Starts s) :
    (serving code s.world.registry.keychain).Hold s := by
  refine ⟨⟨fun i _ => start.objects i,?_,?_,?_,?_⟩,?_,fun _ _ _ => trivial⟩
  · intro sessionId i here
    rw [start.sessions sessionId] at here
    cases here
  · intro i session here
    rw [start.objects i] at here
    cases here
  · intro delivery member
    rw [start.deliveries] at member
    cases member
  · exact fun deviceId certificatePem here => .inl ⟨deviceId,here⟩
  · intro i
    simp only [serving]
    cases found : s.threads i with
    | trust t =>
        obtain ⟨proven,filed⟩ := start.trust i t found
        exact unproven_confirming proven filed
    | transfer asked stage =>
        cases start.transfer i asked stage found
        exact ⟨nofun,nofun,nofun⟩
    | message => trivial

theorem transfer_authorised {Index : Type*} [DecidableEq Index] (code : PeerCode)
    {start next : Pool Index Desktop ShareRequest} (starts : Starts start)
    (path : Reachable (sharePool Index code) start next) {k : Index} {asked : TransferRequest} {stage : TransferStage}
    (here : next.threads k = .transfer asked stage) (served : servedBy stage = some (certificatePem,i)) :
    Authorised code start.world.registry.keychain next.world.registry asked certificatePem i := by
  have freely : ∀ (s : Pool Index Desktop ShareRequest) (move : Move Index Outside ShareEvent), True →
      ({} : Condition Desktop ShareRequest Outside ShareEvent).Admits s move := by
    intro s move _
    cases move with
    | thread => exact ⟨trivial,fun _ _ => trivial⟩
    | environment => exact fun _ => trivial
  have held := hold_reaches serving_stable (starts_hold starts) (reaches_weaken freely path)
  have follows := held.thread k
  simp only [serving,here,Follows] at follows
  have vouches := held.world
  have verified : verifiedBy stage = some certificatePem := by cases stage <;> cases served <;> rfl
  obtain ⟨signed,vouched⟩ := follows.verified certificatePem verified
  obtain ⟨session,stands,named,trusted⟩ := follows.served certificatePem i served
  refine ⟨?_,?_,⟨session,stands,named,trusted⟩,vouches.trusted i session stands trusted⟩
  · obtain ⟨publicKey,owned,same⟩ := (Option.any_eq_true ..).mp signed
    exact ⟨publicKey,owned,of_decide_eq_true same⟩
  · refine vouched.imp_right ?_
    rintro ⟨delivery,member,same⟩
    exact ⟨delivery,member,same,vouches.delivered delivery member⟩

def samplePeerCode : PeerCode where
  toOutlying := sampleCode
  publicKey certificatePem := if certificatePem = "PEM" then some 1 else if certificatePem = "PEM2" then some 2 else none

def sampleStash : ShareEvent := .trigger "stash-1" "1" [{content:=some "hello"}] 123456 [7]

-- A phone that scans the code and confirms, and one that the desktop has known for long.
def sampleShares : Pool (Fin 3) Desktop ShareRequest :=
  ⟨{registry:={keychain:=fun deviceId => if deviceId = "phone-2" then some "PEM2" else none}},
    fun i => if i = 0 then .trust (sampleHandshake 'C' .arrived) else if i = 1 then .trust sampleConfirm
      else .transfer ⟨.manifest,"1","phone-2",some (some ⟨2,"1"⟩),"ecdsa-sha256"⟩ .arrived⟩

theorem sampleShares_start : Starts sampleShares := by
  refine ⟨fun _ => rfl,fun _ => rfl,rfl,?_,?_⟩
  · intro i t here
    simp only [sampleShares] at here
    split at here
    · cases here; exact ⟨rfl,rfl⟩
    · split at here <;> cases here
      exact ⟨rfl,rfl⟩
  · intro i asked stage here
    simp only [sampleShares] at here
    split at here
    · cases here
    · split at here <;> cases here
      rfl

def otherPhoneRun : List (Move (Fin 3) Outside ShareEvent) :=
  [.environment sampleStash] ++ List.replicate 5 (.thread 0 ⟨[1],[],true⟩) ++ List.replicate 9 (.thread 1 {}) ++
    List.replicate 5 (.thread 2 {})

def showsManifest (request : ShareRequest) : Bool :=
  match request with
  | .transfer _ (.served "PEM2" 0 (.retrieved (.manifest _))) => true
  | _ => false

theorem manifest_parts (shown : showsManifest u = true) :
    ∃ asked result, u = .transfer asked (.served "PEM2" 0 (.retrieved (.manifest result))) := by
  unfold showsManifest at shown
  split at shown
  · exact ⟨_,_,rfl⟩
  · cases shown

-- The phone known for long reads the stash of a session that the other one confirmed.
theorem other_phone_served : ¬ ∀ (code : PeerCode) (start next : Pool (Fin 3) Desktop ShareRequest), Starts start →
    Reachable (sharePool (Fin 3) code) start next → ∀ k asked stage certificatePem i,
      next.threads k = .transfer asked stage → servedBy stage = some (certificatePem,i) →
      ∃ key, (⟨i,key,certificatePem⟩ : Delivery) ∈ next.world.registry.deliveries := by
  intro all
  obtain ⟨next,path,seen⟩ := checkedRun_exhibits (sharePool (Fin 3) samplePeerCode) (fun _ _ => True) sampleShares
    otherPhoneRun (fun next => showsManifest (next.threads 2) &&
      next.world.registry.deliveries.all fun delivery => delivery.certificatePem ≠ "PEM2") (by decide +kernel)
  simp only [Bool.and_eq_true,List.all_eq_true,decide_eq_true_eq] at seen
  obtain ⟨asked,result,here⟩ := manifest_parts seen.1
  obtain ⟨key,member⟩ := all samplePeerCode sampleShares next sampleShares_start path 2 asked _ "PEM2" 0 here rfl
  exact seen.2 _ member rfl

theorem known_phone_authorised : ∃ next asked result, Reachable (sharePool (Fin 3) samplePeerCode) sampleShares next ∧
    next.threads 2 = .transfer asked (.served "PEM2" 0 (.retrieved (.manifest result))) ∧
    Authorised samplePeerCode sampleShares.world.registry.keychain next.world.registry asked "PEM2" 0 := by
  obtain ⟨next,path,seen⟩ := checkedRun_exhibits (sharePool (Fin 3) samplePeerCode) (fun _ _ => True) sampleShares
    otherPhoneRun (fun next => showsManifest (next.threads 2)) (by decide +kernel)
  obtain ⟨asked,result,here⟩ := manifest_parts seen
  exact ⟨next,asked,result,path,here,transfer_authorised samplePeerCode sampleShares_start path here rfl⟩

end ImageSearch.ServedTransfers
