import ImageSearch.TrustSteps

namespace ImageSearch.ConfirmedKeys
open Payload Transitions Threads TrustSessions TrustSession TrustSteps

variable {code : Outlying} {w w' : Registry} {t t' u : TrustRequest} {outside : Outside} {session next : TrustSession}
  {key : SessionKey} {o : Opened} {i : Nat}

-- A handshake that brings a session a key or a nonce it does not hold.
def bringsOther (session : TrustSession) (body : TrustHandshakeRequest) : Bool :=
  session.mobileDhPublicKey ≠ some body.mobileDhPublicKey || session.mobileNonce ≠ some body.mobileNonce

def replaces (w : Registry) (t : TrustRequest) (i : Nat) : Bool :=
  match t with
  | .handshake _ body (.storing j) => i = j && (w.objects j).any fun session => bringsOther session body
  | _ => false

theorem handshake_keeps {exchanges : Bytes → Bool} {body : TrustHandshakeRequest} (coherent : Coherent session)
    (other : bringsOther session body = false) :
    Keeps exchanges session (session.storeMobileHandshake body.mobileDhPublicKey body.mobileNonce).1 := by
  simp only [bringsOther,Bool.or_eq_false_iff,decide_eq_false_iff_not,Decidable.not_not] at other
  obtain ⟨text,nonce⟩ := other
  have same : (session.storeMobileHandshake body.mobileDhPublicKey body.mobileNonce).1 = session := by
    unfold storeMobileHandshake
    cases decoded : base64urlDecode body.mobileDhPublicKey with
    | some bytes =>
        have stored := coherent _ bytes text decoded
        cases session
        simp_all
    | none =>
        cases session
        simp_all
  rw [same]
  exact keeps_refl

-- The session's key material is that of a proof which verify_pairing_auth accepted.
structure Proven (exchanges : Bytes → Bool) (w : Registry) (i : Nat) (session : TrustSession) (key : SessionKey) : Prop where
  settled : settled exchanges session key = true
  proof : ∃ auth, (⟨i,key,some auth,true⟩ : PairingCheck) ∈ w.checks ∧ session.shortSecret = some auth.shortSecret ∧
    auth.sharedSecret = key.sharedSecret ∧ auth.mobileDhPublicKey = key.sharedSecret.mobilePublicKey

structure Sound (exchanges : Bytes → Bool) (w : Registry) (i : Nat) (session : TrustSession) : Prop where
  coherent : Coherent session
  trusted : session.isTrusted = true → ∃ key, Proven exchanges w i session key
  certificate : ∀ certificatePem, session.mobileCertificatePem = some certificatePem →
    ∃ key, Proven exchanges w i session key ∧ (⟨i,key,certificatePem⟩ : Delivery) ∈ w.deliveries

structure Ledger (exchanges : Bytes → Bool) (w : Registry) : Prop where
  fresh : Fresh w
  sound : ∀ i session, w.objects i = some session → Sound exchanges w i session

def Backed (exchanges : Bytes → Bool) (w : Registry) (t : TrustRequest) : Prop :=
  ∀ o, provenBy t = some o → ∃ session, w.objects o.session = some session ∧ Proven exchanges w o.session session o.key

def confirming (exchanges : Bytes → Bool) : Assertions Registry TrustRequest where
  world := Ledger exchanges
  thread := Backed exchanges

def anchored (session : TrustSession) : Bool := session.isTrusted || session.mobileCertificatePem.isSome

-- No handshake brings other key material to a session that is trusted or holds a
-- certificate; a right proof is checked while the session's key is the one its confirm was
-- opened with and what the stored handshake makes.
def checksSettled (code : Outlying) (w : Registry) : TrustRequest → Bool
  | .handshake _ body (.storing i) => (w.objects i).all fun session => !anchored session || !bringsOther session body
  | .confirm _ _ _ (.named o) => (w.objects o.session).all fun session => o.payload.pairingAuth.all fun auth =>
      session.verifyPairingAuth code.exchanges auth ≠ some true || settled code.exchanges session o.key
  | _ => true

def sparesProven (w : Registry) (t u : TrustRequest) : Bool := (provenBy u).all fun o => !replaces w t o.session

def handshakesFirst (code : Outlying) : Condition Registry TrustRequest Outside QRTrigger where
  own w t _ := checksSettled code w t = true
  beside w t _ u := sparesProven w t u = true

theorem proven_keeps {exchanges : Bytes → Bool} (proven : Proven exchanges w i session key)
    (keeps : Keeps exchanges session next) (checks : w.checks ⊆ w'.checks) : Proven exchanges w' i next key := by
  obtain ⟨auth,checked,secret,shared,mobile⟩ := proven.proof
  exact ⟨keeps.settled key proven.settled,auth,checks checked,keeps.secret _ secret,shared,mobile⟩

theorem moved_keeps {exchanges : Bytes → Bool} (ledger : Ledger exchanges w) (moved : Moved exchanges w t w')
    (here : w.objects i = some session) (spared : replaces w t i = false) :
    ∃ next, w'.objects i = some next ∧ Keeps exchanges session next := by
  have modified : ∀ j session' next, w.objects j = some session' → Keeps exchanges session' next →
      ∃ after, Function.update w.objects j (some next) i = some after ∧ Keeps exchanges session after := by
    intro j session' next there keeps
    by_cases same : i = j
    · subst j
      obtain rfl := Option.some.inj (here.symm.trans there)
      exact ⟨next,by simp,keeps⟩
    · exact ⟨session,by rw [Function.update_of_ne same,here],keeps_refl⟩
  cases moved with
  | looks _ objects => exact ⟨session,by rw [objects,here],keeps_refl⟩
  | creates _ _ _ _ _ created =>
      subst created
      have below := object_below ledger.fresh here
      refine ⟨session,?_,keeps_refl⟩
      simp only [Registry.createSession]
      rw [Function.update_of_ne (by omega),here]
  | keeps j session' next there same keeps => subst same; exact modified j session' next there keeps
  | certifies o session' _ _ there same =>
      subst same
      exact modified o.session session' _ there (same_keeps certificate_same)
  | trusts o session' _ there same => subst same; exact modified o.session session' _ there (same_keeps trusted_same)
  | stores j session' sessionId body from_ there same =>
      subst same
      by_cases apart : i = j
      · subst j
        refine modified i session' _ there (handshake_keeps (ledger.sound i session' there).coherent ?_)
        simpa [replaces,from_,there] using spared
      · exact ⟨session,by simp only [Registry.modify]; rw [Function.update_of_ne apart,here],keeps_refl⟩

theorem sound_keeps {exchanges : Bytes → Bool} (sound : Sound exchanges w i session) (coherent : Coherent next)
    (isTrusted : next.isTrusted = session.isTrusted)
    (mobileCertificatePem : next.mobileCertificatePem = session.mobileCertificatePem)
    (keeps : anchored session = true → Keeps exchanges session next) (checks : w.checks ⊆ w'.checks)
    (deliveries : w.deliveries ⊆ w'.deliveries) : Sound exchanges w' i next := by
  refine ⟨coherent,?_,?_⟩
  · intro trusted
    rw [isTrusted] at trusted
    obtain ⟨key,proven⟩ := sound.trusted trusted
    exact ⟨key,proven_keeps proven (keeps (by simp [anchored,trusted])) checks⟩
  · intro certificatePem stored
    rw [mobileCertificatePem] at stored
    obtain ⟨key,proven,delivered⟩ := sound.certificate certificatePem stored
    exact ⟨key,proven_keeps proven (keeps (by simp [anchored,stored])) checks,deliveries delivered⟩

theorem created_sound {exchanges : Bytes → Bool} {sessionId : String} {flowType : TrustFlowType}
    {optCode stashId : Option String} {resolver : X25519TrustSessionKeyResolver} : Sound exchanges w i
      {sessionId:=sessionId,flowType:=flowType,pcKeyResolver:=resolver,optCode:=optCode,stashId:=stashId} :=
  ⟨nofun,nofun,nofun⟩

theorem moved_sound {exchanges : Bytes → Bool} (ledger : Ledger exchanges w) (backed : Backed exchanges w t)
    (calm : ∀ i session, w.objects i = some session → anchored session = true → replaces w t i = false)
    (moved : Moved exchanges w t w') : Ledger exchanges w' := by
  refine ⟨moved_fresh ledger.fresh moved,?_⟩
  have checks := moved_checks moved
  have deliveries := moved_deliveries moved
  have kept : ∀ i session, w.objects i = some session → Sound exchanges w' i session := by
    intro i session here
    exact sound_keeps (ledger.sound i session here) (ledger.sound i session here).coherent rfl rfl
      (fun _ => keeps_refl) checks deliveries
  have modified : ∀ j next, Sound exchanges w' j next → ∀ i session,
      Function.update w.objects j (some next) i = some session → Sound exchanges w' i session := by
    intro j next sound i session here
    by_cases same : i = j
    · subst j
      rw [Function.update_self] at here
      cases here
      exact sound
    · rw [Function.update_of_ne same] at here
      exact kept i session here
  cases moved with
  | looks _ objects => rw [objects]; exact kept
  | creates _ _ _ _ _ created => subst created; exact modified w.created _ created_sound
  | keeps j before next there same keeps coherent _ isTrusted mobileCertificatePem =>
      subst same
      have sound := ledger.sound j before there
      exact modified j next (sound_keeps sound (coherent sound.coherent) isTrusted mobileCertificatePem
        (fun _ => keeps) checks deliveries)
  | stores j before sessionId body from_ there same =>
      subst same
      have sound := ledger.sound j before there
      obtain ⟨-,isTrusted,mobileCertificatePem⟩ := handshake_fields
      refine modified j _ (sound_keeps sound handshake_coherent isTrusted mobileCertificatePem ?_ checks deliveries)
      · intro here
        have other := calm j before there here
        exact handshake_keeps sound.coherent (by simpa [replaces,from_,there] using other)
  | certifies o before certificatePem mine there same =>
      -- The proof that let the confirm through is the one the certificate came with.
      obtain ⟨_,_,_,from_⟩ := mine
      subst same
      obtain ⟨session,here,proven⟩ := backed o (by rw [from_]; rfl)
      obtain rfl := Option.some.inj (there.symm.trans here)
      have proven : Proven exchanges _ o.session (before.storeMobileCertificate certificatePem) o.key :=
        proven_keeps proven (same_keeps certificate_same) checks
      refine modified o.session _ ⟨?_,fun _ => ⟨o.key,proven⟩,?_⟩
      · exact same_coherent certificate_same (ledger.sound _ _ there).coherent
      · intro other stored
        cases stored
        exact ⟨o.key,proven,List.mem_append_right _ (List.mem_singleton_self _)⟩
  | trusts o before mine there same =>
      obtain ⟨_,_,_,from_⟩ := mine
      subst same
      obtain ⟨session,here,proven⟩ := backed o (by rw [from_]; rfl)
      obtain rfl := Option.some.inj (there.symm.trans here)
      have sound := ledger.sound _ _ there
      refine modified o.session _ ⟨same_coherent trusted_same sound.coherent,?_,?_⟩
      · exact fun _ => ⟨o.key,proven_keeps proven (same_keeps trusted_same) checks⟩
      · intro certificatePem stored
        obtain ⟨key,proven,delivered⟩ := sound.certificate certificatePem stored
        exact ⟨key,proven_keeps proven (same_keeps trusted_same) checks,delivered⟩

theorem verified_parts {exchanges : Bytes → Bool} {auth : Option PairingAuth} (coherent : Coherent session)
    (verified : session.verifyPairingAuth exchanges auth = some true) (here : settled exchanges session key = true) :
    ∃ proof, auth = some proof ∧ session.shortSecret = some proof.shortSecret ∧
      proof.sharedSecret = key.sharedSecret ∧ proof.mobileDhPublicKey = key.sharedSecret.mobilePublicKey := by
  obtain ⟨-,resolved⟩ := settled_parts here
  obtain ⟨text,stored,decoded,own,-⟩ := resolved_parts resolved
  obtain ⟨proof,rfl,secret,bytes,shared⟩ := verified_proof verified
  have mobile := Option.some.inj (bytes.symm.trans (coherent text _ stored decoded))
  refine ⟨proof,rfl,secret,?_,mobile⟩
  rw [shared,mobile,← own]

theorem backed_moves (ledger : Ledger code.exchanges w) (backed : Backed code.exchanges w u)
    (spared : ∀ o, provenBy u = some o → replaces w t o.session = false) (moved : Moved code.exchanges w t w') :
    Backed code.exchanges w' u := by
  intro o mine
  obtain ⟨session,here,proven⟩ := backed o mine
  obtain ⟨next,there,keeps⟩ := moved_keeps ledger moved here (spared o mine)
  exact ⟨next,there,proven_keeps proven keeps (moved_checks moved)⟩

theorem condition_calm (allowed : (handshakesFirst code).own w t outside) :
    ∀ i session, w.objects i = some session → anchored session = true → replaces w t i = false := by
  intro i session here held
  cases t with
  | handshake sessionId body stage =>
      cases stage with
      | storing j =>
          by_cases same : i = j
          · subst j
            simp only [handshakesFirst,checksSettled,here,Option.all_some,held,Bool.not_true,Bool.false_or] at allowed
            simpa [replaces,here] using allowed
          · simp [replaces,same]
      | _ => rfl
  | apply => rfl
  | confirm => rfl

theorem replaces_stores (sure : replaces w t i = true) : provenBy t = none := by
  cases t with
  | handshake => rfl
  | apply => rfl
  | confirm => cases sure

theorem confirming_stable : Stable (confirming code.exchanges) (stepTrust code)
    (fun w trigger => some (triggerSession w trigger)) (handshakesFirst code) where
  own := by
    intro w t x w' t' ledger backed allowed taken
    have moved := trust_moved taken
    refine ⟨moved_sound ledger backed (condition_calm allowed) moved,?_⟩
    intro o mine
    rcases proven_origin taken mine with before | ⟨_,_,_,session,auth,rfl,here,carried,verified,rfl⟩
    · refine backed_moves ledger backed ?_ moved o before
      intro o' before'
      by_contra sure
      rw [replaces_stores (Bool.eq_true_of_not_eq_false sure)] at before'
      cases before'
    · simp only [handshakesFirst,checksSettled,here,carried,verified,Option.all_some,ne_eq,not_true,decide_false,Bool.false_or] at allowed
      obtain ⟨proof,rfl,secret,shared,mobile⟩ :=
        verified_parts (ledger.sound _ _ here).coherent verified allowed
      exact ⟨session,here,allowed,proof,List.mem_append_right _ (List.mem_singleton_self _),secret,shared,mobile⟩
  other := by
    intro w t u x w' t' ledger _ backed _ _ _ allowed taken
    refine ⟨backed_moves ledger backed ?_ (trust_moved taken),trivial,trivial⟩
    intro o mine
    simpa [handshakesFirst,sparesProven,mine] using allowed
  -- A trigger replaces no more than a handshake does that arrives.
  eventWorld := by
    intro w trigger w' ledger taken
    cases taken
    exact moved_sound (t := .handshake "" ⟨"",""⟩ .arrived) ledger nofun (fun _ _ _ _ => rfl) (.creates _ _ _ _ _ rfl)
  eventThread := by
    intro w trigger w' u ledger backed _ taken
    cases taken
    exact backed_moves (t := .handshake "" ⟨"",""⟩ .arrived) ledger backed (fun _ _ => rfl) (.creates _ _ _ _ _ rfl)

-- The stored handshake and the session key are those of `auth`, which carries the session's
-- secret and which verify_pairing_auth accepted, and the stored certificate came under that key.
structure Confirmed (w : Registry) (i : Nat) (session : TrustSession) (key : SessionKey) (auth : PairingAuth) : Prop where
  accepted : (⟨i,key,some auth,true⟩ : PairingCheck) ∈ w.checks
  secret : session.shortSecret = some auth.shortSecret
  mobileDhPublicKey : ∃ text, session.mobileDhPublicKey = some text ∧ base64urlDecode text = some auth.mobileDhPublicKey
  mobileDhPublicKeyBytes : session.mobileDhPublicKeyBytes = some auth.mobileDhPublicKey
  sessionKey : session.sessionKey = some key
  sharedSecret : key.sharedSecret = auth.sharedSecret
  mobileCertificatePem : ∀ certificatePem, session.mobileCertificatePem = some certificatePem →
    (⟨i,key,certificatePem⟩ : Delivery) ∈ w.deliveries

def TrustedConfirmed (w : Registry) : Prop :=
  ∀ i session, w.objects i = some session → session.isTrusted = true → ∃ key auth, Confirmed w i session key auth

def trustPool (Index : Type*) [DecidableEq Index] (code : Outlying) :
    System (Pool Index Registry TrustRequest) (Move Index Outside QRTrigger) :=
  pool (stepTrust code) fun w trigger => some (triggerSession w trigger)

structure Starts {Index : Type*} (s : Pool Index Registry TrustRequest) : Prop where
  objects : ∀ i, s.world.objects i = none
  arrives : ∀ i, provenBy (s.threads i) = none

theorem starts_hold {Index : Type*} {s : Pool Index Registry TrustRequest} (start : Starts s) :
    (confirming code.exchanges).Hold s := by
  refine ⟨⟨fun i _ => start.objects i,?_⟩,?_,fun _ _ _ => trivial⟩
  · intro i session here
    rw [start.objects i] at here
    cases here
  · intro i o mine
    rw [start.arrives i] at mine
    cases mine

theorem sound_confirmed {exchanges : Bytes → Bool} (sound : Sound exchanges w i session)
    (trusted : session.isTrusted = true) : ∃ key auth, Confirmed w i session key auth := by
  obtain ⟨key,proven⟩ := sound.trusted trusted
  obtain ⟨auth,accepted,secret,shared,mobile⟩ := proven.proof
  obtain ⟨derived,resolved⟩ := settled_parts proven.settled
  obtain ⟨text,stored,decoded,-,-⟩ := resolved_parts resolved
  refine ⟨key,auth,accepted,secret,⟨text,stored,by rw [mobile]; exact decoded⟩,?_,derived,shared.symm,?_⟩
  · rw [mobile]
    exact sound.coherent text _ stored decoded
  · intro certificatePem carried
    obtain ⟨other,again,delivered⟩ := sound.certificate certificatePem carried
    have same := derived.symm.trans (settled_parts again.settled).1
    cases same
    exact delivered

theorem trusted_key_confirmed {Index : Type*} [DecidableEq Index] (code : Outlying)
    {start next : Pool Index Registry TrustRequest} (starts : Starts start)
    (path : Reaches (trustPool Index code) (handshakesFirst code).Admits start next) : TrustedConfirmed next.world := by
  intro i session here trusted
  have held := hold_reaches confirming_stable (starts_hold starts) path
  exact sound_confirmed (held.world.sound i session here) trusted

instance (w : Registry) (t : TrustRequest) (x : Outside) : Decidable ((handshakesFirst code).own w t x) :=
  inferInstanceAs (Decidable (checksSettled code w t = true))
instance (w : Registry) (t u : TrustRequest) (x : Outside) : Decidable ((handshakesFirst code).beside w t x u) :=
  inferInstanceAs (Decidable (sparesProven w t u = true))
instance (w : Registry) (e : QRTrigger) (u : TrustRequest) : Decidable ((handshakesFirst code).event w e u) :=
  inferInstanceAs (Decidable True)

def samplePhones : Pool (Fin 3) Registry TrustRequest :=
  ⟨{},fun i => if i = 0 then sampleHandshake 'C' .arrived else if i = 1 then sampleConfirm else sampleHandshake 'B' .arrived⟩

theorem samplePhones_start : Starts samplePhones := by
  refine ⟨fun _ => rfl,fun i => ?_⟩
  simp only [samplePhones]
  split
  · rfl
  · split <;> rfl

def sampleTrigger : QRTrigger := ⟨"1","123456","stash-1",[7]⟩

def confirmedRun : List (Move (Fin 3) Outside QRTrigger) :=
  [.environment sampleTrigger] ++ List.replicate 5 (.thread 0 ⟨[1],[],true⟩) ++ List.replicate 9 (.thread 1 {})

-- The other phone's handshake comes when the session is trusted, and its key is in use from then on.
theorem trusted_key_replaced : ¬ ∀ (code : Outlying) (start next : Pool (Fin 3) Registry TrustRequest), Starts start →
    Reachable (trustPool (Fin 3) code) start next → TrustedConfirmed next.world := by
  intro all
  obtain ⟨next,path,seen⟩ := checkedRun_exhibits (trustPool (Fin 3) sampleCode) (fun _ _ => True) samplePhones
    (confirmedRun ++ List.replicate 4 (.thread 2 {}))
    (fun next => (next.world.objects 0).any fun session => session.isTrusted &&
      next.world.checks.all fun check => session.sessionKey ≠ some check.key) (by decide +kernel)
  obtain ⟨session,here,seen⟩ := (Option.any_eq_true ..).mp seen
  simp only [Bool.and_eq_true,List.all_eq_true,decide_eq_true_eq] at seen
  obtain ⟨key,auth,confirmed⟩ := all sampleCode samplePhones next samplePhones_start path 0 session here seen.1
  exact seen.2 _ confirmed.accepted confirmed.sessionKey

theorem phone_key_confirmed : ∃ next, Reaches (trustPool (Fin 3) sampleCode) (handshakesFirst sampleCode).Admits
    samplePhones next ∧ TrustedConfirmed next.world ∧
    ((next.world.objects 0).any fun session => session.isTrusted && session.mobileCertificatePem = some "PEM") = true := by
  obtain ⟨next,path,seen⟩ := checkedRun_exhibits (trustPool (Fin 3) sampleCode) (handshakesFirst sampleCode).Admits samplePhones
    confirmedRun (fun next => (next.world.objects 0).any fun session =>
      session.isTrusted && session.mobileCertificatePem = some "PEM") (by decide +kernel)
  exact ⟨next,path,trusted_key_confirmed sampleCode samplePhones_start path,seen⟩

end ImageSearch.ConfirmedKeys
