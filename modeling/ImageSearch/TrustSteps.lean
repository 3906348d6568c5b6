import ImageSearch.TrustSessions

namespace ImageSearch.TrustSteps
open Payload TrustSessions TrustSession

variable {code : Outlying} {w w' : Registry} {t t' u : TrustRequest} {outside : Outside} {session next : TrustSession}
  {key : SessionKey} {o : Opened} {i : Nat}

def settled (exchanges : Bytes → Bool) (session : TrustSession) (key : SessionKey) : Bool :=
  session.sessionKey = some key && session.resolvedKey exchanges = some key

theorem settled_parts {exchanges : Bytes → Bool} (here : settled exchanges session key = true) :
    session.sessionKey = some key ∧ session.resolvedKey exchanges = some key := by
  simpa [settled] using here

-- What a session's stored text decodes to is what its proofs are checked against.
def Coherent (session : TrustSession) : Prop :=
  ∀ text bytes, session.mobileDhPublicKey = some text → base64urlDecode text = some bytes →
    session.mobileDhPublicKeyBytes = some bytes

structure Keeps (exchanges : Bytes → Bool) (session next : TrustSession) : Prop where
  settled : ∀ key, settled exchanges session key = true → settled exchanges next key = true
  secret : ∀ secret, session.shortSecret = some secret → next.shortSecret = some secret

theorem keeps_refl {exchanges : Bytes → Bool} : Keeps exchanges session session :=
  ⟨fun _ here => here,fun _ here => here⟩

-- The stored key material and the secrets, which most of the methods leave alone.
structure SameMaterial (session next : TrustSession) : Prop where
  flowType : next.flowType = session.flowType
  pcKeyResolver : next.pcKeyResolver = session.pcKeyResolver
  sessionKey : next.sessionKey = session.sessionKey
  mobileDhPublicKey : next.mobileDhPublicKey = session.mobileDhPublicKey
  mobileDhPublicKeyBytes : next.mobileDhPublicKeyBytes = session.mobileDhPublicKeyBytes
  mobileNonce : next.mobileNonce = session.mobileNonce
  kdfContext : next.kdfContext = session.kdfContext
  pinCode : next.pinCode = session.pinCode
  optCode : next.optCode = session.optCode

theorem same_coherent (same : SameMaterial session next) (before : Coherent session) : Coherent next := by
  intro text bytes stored decoded
  rw [same.mobileDhPublicKeyBytes]
  exact before text bytes (same.mobileDhPublicKey ▸ stored) decoded

theorem same_keeps {exchanges : Bytes → Bool} (same : SameMaterial session next) : Keeps exchanges session next := by
  refine ⟨?_,?_⟩
  · intro key here
    have resolved : next.resolvedKey exchanges = session.resolvedKey exchanges := by
      simp only [resolvedKey,same.mobileDhPublicKey,same.mobileNonce,same.kdfContext,same.pcKeyResolver]
    rw [TrustSteps.settled,same.sessionKey,resolved]
    exact here
  · intro secret here
    simpa only [shortSecret,same.flowType,same.pinCode,same.optCode] using here

theorem name_same {name : Option String} : SameMaterial session (session.setPeerDeviceName name) := by
  unfold setPeerDeviceName
  split
  · split <;> exact ⟨rfl,rfl,rfl,rfl,rfl,rfl,rfl,rfl,rfl⟩
  · exact ⟨rfl,rfl,rfl,rfl,rfl,rfl,rfl,rfl,rfl⟩

theorem certificate_same {certificatePem : String} : SameMaterial session (session.storeMobileCertificate certificatePem) :=
  ⟨rfl,rfl,rfl,rfl,rfl,rfl,rfl,rfl,rfl⟩

theorem trusted_same : SameMaterial session session.markTrusted := ⟨rfl,rfl,rfl,rfl,rfl,rfl,rfl,rfl,rfl⟩

theorem pin_keeps {exchanges : Bytes → Bool} {urandom : Bytes} : Keeps exchanges session (session.generatePin urandom) := by
  refine ⟨fun _ here => here,?_⟩
  intro secret here
  simp only [shortSecret,generatePin] at here ⊢
  cases flow : session.flowType with
  | mobileToPc => rw [flow] at here; simp [here]
  | pcToMobile => rw [flow] at here; exact here

theorem resolved_parts {exchanges : Bytes → Bool} (resolved : session.resolvedKey exchanges = some key) :
    ∃ text, session.mobileDhPublicKey = some text ∧ base64urlDecode text = some key.sharedSecret.mobilePublicKey ∧
      key.sharedSecret.privateKey = session.pcKeyResolver.privateKey ∧ session.kdfContext = some key.kdfContext := by
  simp only [resolvedKey,Option.bind_eq_bind,Option.bind_eq_some_iff] at resolved
  obtain ⟨text,stored,mobilePublicKey,decoded,-,-,mobileNonce,-,kdfContext,context,final⟩ := resolved
  split at final
  · have same := Option.some.inj final
    subst same
    exact ⟨text,stored,decoded,rfl,context⟩
  · cases final

-- Once the key is settled the context is drawn, and another derivation changes nothing.
theorem derive_keeps {exchanges : Bytes → Bool} {urandom : Bytes} :
    Keeps exchanges session (session.deriveKdfContext urandom) := by
  refine ⟨?_,fun _ here => here⟩
  intro key here
  obtain ⟨-,resolved⟩ := settled_parts here
  obtain ⟨-,-,-,-,context⟩ := resolved_parts resolved
  have same : session.deriveKdfContext urandom = session := by
    unfold deriveKdfContext
    rw [context,Option.getD_some,← context]
  rw [same]
  exact here

theorem establish_keeps {exchanges : Bytes → Bool} {urandom : Bytes} :
    Keeps exchanges session (session.establishSessionKey exchanges urandom).1 := by
  refine ⟨?_,?_⟩
  · intro key here
    have derived : settled exchanges (session.deriveKdfContext urandom) key = true := derive_keeps.settled key here
    obtain ⟨-,resolved⟩ := settled_parts derived
    unfold establishSessionKey
    split
    · exact here
    · simp only [resolved,TrustSteps.settled,decide_true,Bool.true_and,decide_eq_true_eq]
      exact resolved
  · intro secret here
    unfold establishSessionKey
    split
    · exact here
    · dsimp only
      split <;> exact here

theorem establish_coherent {exchanges : Bytes → Bool} {urandom : Bytes} (before : Coherent session) :
    Coherent (session.establishSessionKey exchanges urandom).1 := by
  unfold establishSessionKey
  split
  · exact before
  · dsimp only
    split <;> exact before

theorem handshake_fields {mobileDhPublicKey mobileNonce : String} :
    let stored := (session.storeMobileHandshake mobileDhPublicKey mobileNonce).1
    stored.sessionId = session.sessionId ∧ stored.isTrusted = session.isTrusted ∧
      stored.mobileCertificatePem = session.mobileCertificatePem := by
  unfold storeMobileHandshake
  split <;> exact ⟨rfl,rfl,rfl⟩

theorem handshake_coherent {mobileDhPublicKey mobileNonce : String} :
    Coherent (session.storeMobileHandshake mobileDhPublicKey mobileNonce).1 := by
  intro text bytes stored decoded
  unfold storeMobileHandshake at stored ⊢
  cases found : base64urlDecode mobileDhPublicKey with
  | some other =>
      simp only [found,Option.some.injEq] at stored ⊢
      subst text
      simpa [found] using decoded
  | none =>
      simp only [found,Option.some.injEq] at stored
      subst text
      rw [found] at decoded
      cases decoded

theorem verified_proof {exchanges : Bytes → Bool} {auth : Option PairingAuth}
    (verified : session.verifyPairingAuth exchanges auth = some true) :
    ∃ proof, auth = some proof ∧ session.shortSecret = some proof.shortSecret ∧
      session.mobileDhPublicKeyBytes = some proof.mobileDhPublicKey ∧
      proof.sharedSecret = ⟨session.pcKeyResolver.privateKey,proof.mobileDhPublicKey⟩ := by
  unfold verifyPairingAuth at verified
  split at verified
  · rename_i secret bytes
    dsimp only at verified
    split at verified
    · obtain ⟨proof,rfl,same⟩ := Option.map_eq_some_iff.mp verified
      have same := of_decide_eq_true same
      subst same
      exact ⟨_,rfl,secret,bytes,rfl⟩
    · cases verified
  · cases verified

def filing : TrustRequest → Option (Opened × String)
  | .confirm _ _ _ (.certified o certificatePem) | .confirm _ _ _ (.removed o certificatePem) => some (o,certificatePem)
  | _ => none

inductive Moved (exchanges : Bytes → Bool) (w : Registry) (t : TrustRequest) (w' : Registry) : Prop where
  | looks (sessions : w'.sessions = w.sessions) (objects : w'.objects = w.objects) (created : w'.created = w.created)
      (checks : w.checks ⊆ w'.checks) (deliveries : w'.deliveries = w.deliveries)
      (keychain : ∀ deviceId certificatePem, w'.keychain deviceId = some certificatePem →
        w.keychain deviceId = some certificatePem ∨ ∃ o, filing t = some (o,certificatePem))
  | creates (sessionId : String) (flowType : TrustFlowType) (optCode stashId : Option String) (nonce : Bytes)
      (created : w' = w.createSession sessionId flowType optCode stashId nonce)
  | keeps (i : Nat) (session next : TrustSession) (here : w.objects i = some session) (modified : w' = w.modify i next)
      (keeps : Keeps exchanges session next) (coherent : Coherent session → Coherent next)
      (sessionId : next.sessionId = session.sessionId) (isTrusted : next.isTrusted = session.isTrusted)
      (mobileCertificatePem : next.mobileCertificatePem = session.mobileCertificatePem)
  | stores (i : Nat) (session : TrustSession) (sessionId : String) (body : TrustHandshakeRequest)
      (from_ : t = .handshake sessionId body (.storing i)) (here : w.objects i = some session)
      (modified : w' = w.modify i (session.storeMobileHandshake body.mobileDhPublicKey body.mobileNonce).1)
  | certifies (o : Opened) (session : TrustSession) (certificatePem : String)
      (provenBy : ∃ sessionId correlationId envelope, t = .confirm sessionId correlationId envelope (.accepted o))
      (here : w.objects o.session = some session)
      (modified : w' = {w.modify o.session (session.storeMobileCertificate certificatePem) with
        deliveries:=w.deliveries ++ [⟨o.session,o.key,certificatePem⟩]})
  | trusts (o : Opened) (session : TrustSession)
      (provenBy : ∃ sessionId correlationId envelope, t = .confirm sessionId correlationId envelope (.filed o))
      (here : w.objects o.session = some session) (modified : w' = w.modify o.session session.markTrusted)

theorem looks_same {exchanges : Bytes → Bool} : Moved exchanges w t w := .looks rfl rfl rfl (List.Subset.refl _) rfl fun _ _ here => .inl here

theorem handshake_moved {sessionId : String} {body : TrustHandshakeRequest} {stage stage' : HandshakeStage}
    (taken : stepHandshake code w sessionId body stage outside = some (w',stage')) :
    Moved code.exchanges w (.handshake sessionId body stage) w' := by
  cases stage with
  | arrived => cases taken; exact looks_same
  | creating => cases taken; exact .creates sessionId .mobileToPc none none outside.urandom rfl
  | bootstrapping i =>
      obtain ⟨session,-,moved⟩ := Option.map_eq_some_iff.mp taken
      cases moved
      exact looks_same
  | storing i =>
      obtain ⟨session,here,moved⟩ := Option.map_eq_some_iff.mp taken
      cases moved
      exact .stores i session sessionId body rfl here rfl
  | establishing i =>
      obtain ⟨session,here,moved⟩ := Option.map_eq_some_iff.mp taken
      cases moved
      refine .keeps i session _ here rfl establish_keeps establish_coherent ?_ ?_ ?_
      all_goals
        unfold establishSessionKey
        split
        · rfl
        · dsimp only
          split <;> rfl
  | responding i =>
      obtain ⟨session,here,moved⟩ := Option.map_eq_some_iff.mp taken
      cases moved
      exact .keeps i session _ here rfl derive_keeps (fun before => before) rfl rfl rfl
  | answered => cases taken

theorem name_moved {exchanges : Bytes → Bool} {name : Option String} (here : w.objects i = some session) :
    Moved exchanges w t (w.modify i (session.setPeerDeviceName name)) := by
  refine .keeps i session _ here rfl (same_keeps name_same) (same_coherent name_same) ?_ ?_ ?_
  all_goals
    unfold setPeerDeviceName
    split
    · split <;> rfl
    · rfl

theorem apply_moved {sessionId : String} {envelope : Option TrustEnvelope} {stage stage' : ApplyStage}
    (taken : stepApply w sessionId envelope stage outside = some (w',stage')) :
    Moved code.exchanges w (.apply sessionId envelope stage) w' := by
  cases stage with
  | arrived => cases taken; exact looks_same
  | found | established | sealing =>
      obtain ⟨session,-,moved⟩ := Option.map_eq_some_iff.mp taken
      cases moved
      exact looks_same
  | opened o =>
      obtain ⟨session,here,moved⟩ := Option.map_eq_some_iff.mp taken
      cases moved
      exact name_moved here
  | named o =>
      obtain ⟨session,here,moved⟩ := Option.map_eq_some_iff.mp taken
      cases moved
      exact .keeps o.session session _ here rfl pin_keeps (fun before => before) rfl rfl rfl
  | answered => cases taken

theorem store_keychain {deviceId other certificatePem : String} {stored : Option String}
    (here : (w.store deviceId stored).keychain other = some certificatePem) :
    w.keychain other = some certificatePem ∨ stored = some certificatePem := by
  by_cases same : other = deviceId
  · subst other
    simp only [Registry.store,Function.update_self] at here
    exact .inr here
  · simp only [Registry.store,Function.update_of_ne same] at here
    exact .inl here

theorem confirm_moved {sessionId correlationId : String} {envelope : Option TrustEnvelope} {stage stage' : ConfirmStage}
    (taken : stepConfirm code w sessionId correlationId envelope stage outside = some (w',stage')) :
    Moved code.exchanges w (.confirm sessionId correlationId envelope stage) w' := by
  cases stage with
  | arrived => cases taken; exact looks_same
  | found | established | sealing =>
      obtain ⟨session,-,moved⟩ := Option.map_eq_some_iff.mp taken
      cases moved
      exact looks_same
  | opened o =>
      obtain ⟨session,here,moved⟩ := Option.map_eq_some_iff.mp taken
      cases moved
      exact name_moved here
  | named o =>
      obtain ⟨session,-,moved⟩ := Option.map_eq_some_iff.mp taken
      split at moved
      · cases moved; exact looks_same
      · split at moved
        · cases moved; exact looks_same
        · cases moved; exact .looks rfl rfl rfl (List.subset_append_left _ _) rfl fun _ _ here => .inl here
  | accepted o =>
      obtain ⟨session,here,moved⟩ := Option.map_eq_some_iff.mp taken
      split at moved
      · cases moved; exact looks_same
      · cases moved; exact .certifies o session _ ⟨_,_,_,rfl⟩ here rfl
  | certified o certificatePem =>
      cases taken
      split
      · refine .looks rfl rfl rfl (List.Subset.refl _) rfl fun deviceId other here => ?_
        exact (store_keychain here).imp_right nofun
      · exact looks_same
  | removed o certificatePem =>
      simp only [stepConfirm] at taken
      split at taken
      · cases taken
        refine .looks rfl rfl rfl (List.Subset.refl _) rfl fun deviceId other here => ?_
        exact (store_keychain here).imp_right fun same => ⟨o,by cases same; rfl⟩
      · cases taken; exact looks_same
  | filed o =>
      obtain ⟨session,here,moved⟩ := Option.map_eq_some_iff.mp taken
      cases moved
      exact .trusts o session ⟨_,_,_,rfl⟩ here rfl
  | answered => cases taken

theorem trust_moved (taken : stepTrust code w t outside = some (w',t')) : Moved code.exchanges w t w' := by
  cases t with
  | handshake sessionId body stage =>
      obtain ⟨next,moved,same⟩ := Option.map_eq_some_iff.mp taken
      cases same
      exact handshake_moved moved
  | apply sessionId envelope stage =>
      obtain ⟨next,moved,same⟩ := Option.map_eq_some_iff.mp taken
      cases same
      exact apply_moved moved
  | confirm sessionId correlationId envelope stage =>
      obtain ⟨next,moved,same⟩ := Option.map_eq_some_iff.mp taken
      cases same
      exact confirm_moved moved

theorem moved_checks {exchanges : Bytes → Bool} (moved : Moved exchanges w t w') : w.checks ⊆ w'.checks := by
  cases moved with
  | looks _ _ _ checks => exact checks
  | creates _ _ _ _ _ created => subst created; exact List.Subset.refl _
  | keeps _ _ _ _ modified => subst modified; exact List.Subset.refl _
  | stores _ _ _ _ _ _ modified => subst modified; exact List.Subset.refl _
  | certifies _ _ _ _ _ modified => subst modified; exact List.Subset.refl _
  | trusts _ _ _ _ modified => subst modified; exact List.Subset.refl _

theorem moved_deliveries {exchanges : Bytes → Bool} (moved : Moved exchanges w t w') : w.deliveries ⊆ w'.deliveries := by
  cases moved with
  | looks _ _ _ _ deliveries => rw [deliveries]; exact List.Subset.refl _
  | creates _ _ _ _ _ created => subst created; exact List.Subset.refl _
  | keeps _ _ _ _ modified => subst modified; exact List.Subset.refl _
  | stores _ _ _ _ _ _ modified => subst modified; exact List.Subset.refl _
  | certifies _ _ _ _ _ modified => subst modified; exact List.subset_append_left _ _
  | trusts _ _ _ _ modified => subst modified; exact List.Subset.refl _

def Fresh (w : Registry) : Prop := ∀ i, w.created ≤ i → w.objects i = none

theorem object_below (fresh : Fresh w) (here : w.objects i = some session) : i < w.created := by
  by_contra beyond
  rw [fresh i (Nat.le_of_not_lt beyond)] at here
  cases here

theorem moved_fresh {exchanges : Bytes → Bool} (fresh : Fresh w) (moved : Moved exchanges w t w') : Fresh w' := by
  have modified : ∀ j session next, w.objects j = some session → ∀ i, w.created ≤ i →
      Function.update w.objects j (some next) i = none := by
    intro j session next here i beyond
    have below := object_below fresh here
    rw [Function.update_of_ne (by omega)]
    exact fresh i beyond
  cases moved with
  | looks _ objects created => unfold Fresh; rw [objects,created]; exact fresh
  | creates _ _ _ _ _ created =>
      subst created
      intro i beyond
      have beyond : w.created + 1 ≤ i := beyond
      simp only [Registry.createSession]
      rw [Function.update_of_ne (by omega)]
      exact fresh i (by omega)
  | keeps j session next here same => subst same; exact modified j session next here
  | stores j session _ _ _ here same => subst same; exact modified j session _ here
  | certifies o session _ _ here same => subst same; exact modified o.session session _ here
  | trusts o session _ here same => subst same; exact modified o.session session _ here

def provenBy : TrustRequest → Option Opened
  | .confirm _ _ _ (.accepted o) | .confirm _ _ _ (.certified o _) | .confirm _ _ _ (.removed o _)
  | .confirm _ _ _ (.filed o) => some o
  | _ => none

theorem proven_origin (taken : stepTrust code w t outside = some (w',t')) (mine : provenBy t' = some o) :
    provenBy t = some o ∨ ∃ sessionId correlationId envelope session auth,
      t = .confirm sessionId correlationId envelope (.named o) ∧ w.objects o.session = some session ∧
      o.payload.pairingAuth = some auth ∧ session.verifyPairingAuth code.exchanges auth = some true ∧
      w' = {w with checks:=w.checks ++ [⟨o.session,o.key,auth,true⟩]} := by
  cases t with
  | handshake sessionId body stage =>
      obtain ⟨next,moved,same⟩ := Option.map_eq_some_iff.mp taken
      cases same
      cases mine
  | apply sessionId envelope stage =>
      obtain ⟨next,moved,same⟩ := Option.map_eq_some_iff.mp taken
      cases same
      cases mine
  | confirm sessionId correlationId envelope stage =>
      obtain ⟨⟨after,stage'⟩,moved,same⟩ := Option.map_eq_some_iff.mp taken
      cases same
      cases stage with
      | arrived =>
          cases moved
          cases found : w.sessions sessionId <;> simp [found,provenBy] at mine
      | found i =>
          obtain ⟨session,-,moved⟩ := Option.map_eq_some_iff.mp moved
          cases moved
          dsimp only at mine
          split at mine <;> cases mine
      | established i =>
          obtain ⟨session,-,moved⟩ := Option.map_eq_some_iff.mp moved
          cases moved
          dsimp only at mine
          split at mine <;> cases mine
      | opened o' =>
          obtain ⟨session,-,moved⟩ := Option.map_eq_some_iff.mp moved
          cases moved
          cases mine
      | named o' =>
          obtain ⟨session,here,moved⟩ := Option.map_eq_some_iff.mp moved
          split at moved
          · cases moved; cases mine
          · rename_i auth carried
            split at moved
            · cases moved; cases mine
            · rename_i accepted verified
              cases accepted with
              | false => cases moved; cases mine
              | true =>
                  cases moved
                  cases mine
                  exact .inr ⟨_,_,_,session,auth,rfl,here,carried,verified,rfl⟩
      | accepted o' =>
          obtain ⟨session,here,moved⟩ := Option.map_eq_some_iff.mp moved
          split at moved <;> cases moved <;> exact .inl mine
      | certified o' certificatePem => cases moved; exact .inl mine
      | removed o' certificatePem =>
          simp only [stepConfirm] at moved
          split at moved
          · cases moved; exact .inl mine
          · cases moved; cases mine
      | filed o' =>
          obtain ⟨session,-,moved⟩ := Option.map_eq_some_iff.mp moved
          cases moved
          cases mine
      | sealing o' =>
          obtain ⟨session,-,moved⟩ := Option.map_eq_some_iff.mp moved
          cases moved
          cases mine
      | answered answer => cases moved

-- A session object stays the session it is, and once trusted it is trusted.
theorem moved_object {exchanges : Bytes → Bool} (fresh : Fresh w) (moved : Moved exchanges w t w')
    (here : w.objects i = some session) : ∃ next, w'.objects i = some next ∧ next.sessionId = session.sessionId ∧
      (session.isTrusted = true → next.isTrusted = true) := by
  have modified : ∀ j before after, w.objects j = some before → after.sessionId = before.sessionId →
      (before.isTrusted = true → after.isTrusted = true) →
      ∃ next, Function.update w.objects j (some after) i = some next ∧ next.sessionId = session.sessionId ∧
        (session.isTrusted = true → next.isTrusted = true) := by
    intro j before after there sessionId isTrusted
    by_cases same : i = j
    · subst j
      obtain rfl := Option.some.inj (here.symm.trans there)
      exact ⟨after,by simp,sessionId,isTrusted⟩
    · exact ⟨session,by rw [Function.update_of_ne same,here],rfl,id⟩
  cases moved with
  | looks _ objects => exact ⟨session,by rw [objects,here],rfl,id⟩
  | creates _ _ _ _ _ created =>
      subst created
      have below := object_below fresh here
      refine ⟨session,?_,rfl,id⟩
      simp only [Registry.createSession]
      rw [Function.update_of_ne (by omega),here]
  | keeps j before after there same _ _ sessionId isTrusted =>
      subst same
      exact modified j before after there sessionId (by rw [isTrusted]; exact id)
  | stores j before _ body _ there same =>
      subst same
      obtain ⟨sessionId,isTrusted,-⟩ := handshake_fields 
      exact modified j before _ there sessionId (by rw [isTrusted]; exact id)
  | certifies o before _ _ there same => subst same; exact modified o.session before _ there rfl id
  | trusts o before _ there same => subst same; exact modified o.session before _ there rfl fun _ => rfl

-- A certificate enters the keychain from the confirm that is filing it.
theorem moved_keychain {exchanges : Bytes → Bool} (moved : Moved exchanges w t w') {deviceId certificatePem : String}
    (here : w'.keychain deviceId = some certificatePem) :
    w.keychain deviceId = some certificatePem ∨ ∃ o, filing t = some (o,certificatePem) := by
  cases moved with
  | looks _ _ _ _ _ keychain => exact keychain deviceId certificatePem here
  | creates _ _ _ _ _ created => subst created; exact .inl here
  | keeps _ _ _ _ same => subst same; exact .inl here
  | stores _ _ _ _ _ _ same => subst same; exact .inl here
  | certifies _ _ _ _ _ same => subst same; exact .inl here
  | trusts _ _ _ _ same => subst same; exact .inl here

theorem filing_origin {certificatePem : String} (taken : stepTrust code w t outside = some (w',t'))
    (mine : filing t' = some (o,certificatePem)) :
    filing t = some (o,certificatePem) ∨ (⟨o.session,o.key,certificatePem⟩ : Delivery) ∈ w'.deliveries := by
  cases t with
  | handshake sessionId body stage =>
      obtain ⟨next,moved,same⟩ := Option.map_eq_some_iff.mp taken
      cases same
      cases mine
  | apply sessionId envelope stage =>
      obtain ⟨next,moved,same⟩ := Option.map_eq_some_iff.mp taken
      cases same
      cases mine
  | confirm sessionId correlationId envelope stage =>
      obtain ⟨⟨after,stage'⟩,moved,same⟩ := Option.map_eq_some_iff.mp taken
      cases same
      cases stage with
      | arrived =>
          cases moved
          cases found : w.sessions sessionId <;> simp [found,filing] at mine
      | found i | established i =>
          obtain ⟨session,-,moved⟩ := Option.map_eq_some_iff.mp moved
          cases moved
          dsimp only at mine
          split at mine <;> cases mine
      | opened o' | filed o' | sealing o' =>
          obtain ⟨session,-,moved⟩ := Option.map_eq_some_iff.mp moved
          cases moved
          cases mine
      | named o' =>
          obtain ⟨session,-,moved⟩ := Option.map_eq_some_iff.mp moved
          split at moved
          · cases moved; cases mine
          · split at moved
            · cases moved; cases mine
            · rename_i accepted verified
              cases accepted <;> cases moved <;> cases mine
      | accepted o' =>
          obtain ⟨session,-,moved⟩ := Option.map_eq_some_iff.mp moved
          split at moved
          · cases moved; cases mine
          · cases moved
            cases mine
            exact .inr (List.mem_append_right _ (List.mem_singleton_self _))
      | certified o' certificatePem => cases moved; exact .inl mine
      | removed o' certificatePem =>
          simp only [stepConfirm] at moved
          split at moved <;> cases moved <;> cases mine
      | answered answer => cases moved

end ImageSearch.TrustSteps
