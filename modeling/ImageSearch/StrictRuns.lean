import ImageSearch.PhoneRuns

namespace ImageSearch.StrictRuns
open Transitions Threads PhoneUploads PhoneRuns LanUploads

def Encrypted (phone : PhoneLibraries) (trustKeyBase64 : String) (request : Request) : Prop :=
  match request.body with
  | .json body => ∃ fields sessionID nonce, encryptPayloadObject phone fields trustKeyBase64 sessionID nonce = some body
  | .chunk data => ∃ chunk nonce, encryptBinaryChunk phone chunk trustKeyBase64 nonce = some data

-- A strict record of the shared key, as far as it has been negotiated.
structure Strict (trustKeyBase64 : String) (desktop : TrustedDesktopRecord) : Prop where
  strict : desktop.strictSecurityEnabled = true
  key : desktop.sharedKeyBase64 = trustKeyBase64

structure Secured (trustKeyBase64 : String) (desktop : TrustedDesktopRecord) : Prop extends Strict trustKeyBase64 desktop where
  encrypted : desktop.encryptionEnabled = true

-- The copies that the calls hold: the run's, before and after the negotiation, and those
-- that stopTransfer and completeTransfer have loaded.
def Holds (trustKeyBase64 : String) (loaded : TrustedDesktopRecord → Prop) : Task → Prop
  | .resetting desktop | .fetching desktop | .emptying desktop | .negotiating desktop _ => Strict trustKeyBase64 desktop
  | .saving desktop _ | .starting desktop _ | .started desktop _ | .reportingStop desktop _ | .opening desktop _
  | .transferring desktop _ _ _ | .recording desktop _ _ _ | .terminating desktop _ _ _ _ | .draining desktop =>
    Secured trustKeyBase64 desktop
  | .stopLoaded desktop _ | .completeLoaded desktop _ => loaded desktop
  | _ => True

def sendsWith : Task → Option TrustedDesktopRecord
  | .starting desktop _ | .reportingStop desktop _ | .transferring desktop _ _ _ | .recording desktop _ _ _
  | .terminating desktop _ _ _ _ | .draining desktop | .stopLoaded desktop _ | .completeLoaded desktop _ => some desktop
  | _ => none

def loads : Task → Bool
  | .stopping _ | .completing _ => true
  | _ => false

def loadsSecured : Condition Service Task Input Unit where
  own w task _ := loads task = true → ∀ desktop ∈ w.stored, desktop.encryptionEnabled = true

variable {phone : PhoneLibraries} {trustKeyBase64 : String} {desktop updated : TrustedDesktopRecord} {w w' : Service}
  {task task' : Task} {input : Input} {outgoing : Outgoing} {loaded : TrustedDesktopRecord → Prop} {request : Request} {overLan saved : Bool} {answer : Exchange}

theorem encoded (secured : Secured trustKeyBase64 desktop) (sent : encodeRequest phone desktop outgoing = some request) :
    Encrypted phone trustKeyBase64 request := by
  cases outgoing with
  | json operation fields nonce =>
      obtain ⟨body,encoded,rfl⟩ := Option.map_eq_some_iff.mp sent
      simp only [encodeRequestBody,secured.encrypted,if_true,secured.key] at encoded
      exact ⟨fields,_,nonce,encoded⟩
  | chunk data nonce =>
      obtain ⟨body,encoded,rfl⟩ := Option.map_eq_some_iff.mp sent
      simp only [chunkPayloadData,secured.encrypted,if_true,secured.key] at encoded
      exact ⟨data,nonce,encoded⟩

theorem send_encrypted (secured : Secured trustKeyBase64 desktop)
    (before : ∀ request ∈ w.sent, Encrypted phone trustKeyBase64 request) :
    ∀ request ∈ (w.send phone overLan desktop outgoing).sent, Encrypted phone trustKeyBase64 request := by
  intro request member
  unfold Service.send at member
  split at member
  · rcases List.mem_append.mp member with new | old
    · exact encoded secured (Option.mem_toList.mp new)
    · exact before request old
  · exact before request member

@[simp] theorem send_stored : (w.send phone overLan desktop outgoing).stored = w.stored := by
  unfold Service.send
  split <;> rfl

-- A strict record comes out of the negotiation with encryption on, or not at all.
theorem negotiated (strict : Strict trustKeyBase64 desktop)
    (agreed : negotiateTransferEncryptionCapabilityIfNeeded desktop answer = .ok (updated,saved)) :
    Secured trustKeyBase64 updated := by
  cases answer with
  | unsupported => simp [negotiateTransferEncryptionCapabilityIfNeeded,strict.strict] at agreed
  | failed => simp [negotiateTransferEncryptionCapabilityIfNeeded,strict.strict] at agreed
  | accepted encryptionEnabled =>
      cases encryptionEnabled with
      | false => simp [negotiateTransferEncryptionCapabilityIfNeeded,strict.strict] at agreed
      | true =>
          simp only [negotiateTransferEncryptionCapabilityIfNeeded,strict.strict,Bool.not_true,Bool.and_false,
            Bool.false_eq_true,if_false,Except.ok.injEq,Prod.mk.injEq] at agreed
          obtain ⟨rfl,-⟩ := agreed
          exact ⟨⟨rfl,strict.key⟩,rfl⟩

structure Effects (phone : PhoneLibraries) (task : Task) (w w' : Service) : Prop where
  stored : w'.stored = w.stored ∨ ∃ desktop totalCount, task = .saving desktop totalCount ∧ w'.stored = some desktop
  sent : w'.sent = w.sent ∨ ∃ desktop ∈ sendsWith task, ∃ overLan outgoing,
    w'.sent = (w.send phone overLan desktop outgoing).sent

theorem effects_none (stored : w'.stored = w.stored) (sent : w'.sent = w.sent) : Effects phone task w w' :=
  ⟨.inl stored,.inl sent⟩

theorem effects_send {reports : List Report} (sends : sendsWith task = some desktop) :
    Effects phone task w {w.send phone overLan desktop outgoing with reports} :=
  ⟨.inl send_stored,.inr ⟨desktop,sends,overLan,outgoing,rfl⟩⟩

theorem run_kept (strict : ∀ desktop ∈ w.stored, Strict trustKeyBase64 desktop) (held : Holds trustKeyBase64 loaded task)
    (taken : stepRun phone w task input = some (w',task')) :
    Effects phone task w w' ∧ Holds trustKeyBase64 loaded task' := by
  unfold stepRun at taken
  split at taken
  · split at taken
    · cases taken
      exact ⟨effects_none rfl rfl,trivial⟩
    · rename_i desktop there
      cases taken
      exact ⟨effects_none rfl rfl,strict desktop there⟩
  · cases taken
    exact ⟨effects_none rfl rfl,held⟩
  · split at taken
    · cases taken
      exact ⟨effects_none rfl rfl,trivial⟩
    · cases taken
      exact ⟨effects_none rfl rfl,held⟩
    · split at taken
      · cases taken
        exact ⟨effects_none rfl rfl,trivial⟩
      · cases taken
        exact ⟨effects_none rfl rfl,held⟩
  · cases taken
    exact ⟨effects_none rfl rfl,trivial⟩
  · split at taken
    · cases taken
      exact ⟨effects_none rfl rfl,trivial⟩
    · rename_i updatedDesktop saved agreed
      have secured := negotiated held agreed
      split at taken <;> cases taken <;> exact ⟨effects_none rfl rfl,secured⟩
  · cases taken
    exact ⟨⟨.inr ⟨_,_,rfl,rfl⟩,.inl rfl⟩,held⟩
  · cases taken
    exact ⟨effects_send rfl,held⟩
  · split at taken
    · cases taken
      exact ⟨effects_none rfl rfl,trivial⟩
    · split at taken <;> cases taken <;> exact ⟨effects_none rfl rfl,held⟩
  · cases taken
    exact ⟨effects_send rfl,trivial⟩
  · cases taken
    exact ⟨effects_none rfl rfl,held⟩
  · cases taken
    exact ⟨effects_send rfl,held⟩
  · dsimp only at taken
    split at taken <;> cases taken <;> exact ⟨effects_none rfl rfl,held⟩
  · split at taken
    · split at taken
      · cases taken
        exact ⟨effects_none rfl rfl,trivial⟩
      · cases taken
    · cases taken
      exact ⟨effects_none rfl rfl,trivial⟩
    · cases taken
      exact ⟨effects_none rfl rfl,trivial⟩
  · cases taken
    exact ⟨effects_send rfl,held⟩
  · cases taken
    exact ⟨effects_none rfl rfl,held⟩
  · cases taken
    exact ⟨effects_send rfl,held⟩
  · cases taken
    exact ⟨effects_none rfl rfl,held⟩
  · cases taken
    exact ⟨effects_send rfl,held⟩
  · cases taken
    exact ⟨effects_none rfl rfl,trivial⟩
  · cases taken
    exact ⟨effects_none rfl rfl,trivial⟩
  · cases taken
    exact ⟨effects_none rfl rfl,trivial⟩
  · cases taken
    exact ⟨effects_none rfl rfl,trivial⟩
  · cases taken

theorem step_kept (strict : ∀ desktop ∈ w.stored, Strict trustKeyBase64 desktop) (held : Holds trustKeyBase64 loaded task)
    (loading : loads task = true → ∀ desktop ∈ w.stored, loaded desktop)
    (taken : stepTask phone w task input = some (w',task')) :
    Effects phone task w w' ∧ Holds trustKeyBase64 loaded task' := by
  unfold stepTask at taken
  split at taken
  · unfold enter at taken
    split at taken
    · split at taken
      · cases taken
      · cases taken
        exact ⟨effects_none rfl rfl,trivial⟩
    · split at taken <;> cases taken <;> exact ⟨effects_none rfl rfl,trivial⟩
    · cases taken
      exact ⟨effects_none rfl rfl,trivial⟩
    · cases taken
      exact ⟨effects_none rfl rfl,trivial⟩
    · cases taken
      exact ⟨effects_none rfl rfl,trivial⟩
    · cases taken
  · cases taken
    exact ⟨effects_none rfl rfl,trivial⟩
  · split at taken
    · cases taken
      exact ⟨effects_none rfl rfl,trivial⟩
    · rename_i desktop there
      cases taken
      exact ⟨effects_none rfl rfl,loading rfl desktop there⟩
  · cases taken
    exact ⟨effects_send rfl,trivial⟩
  · split at taken
    · cases taken
      exact ⟨effects_none rfl rfl,trivial⟩
    · rename_i desktop there
      cases taken
      exact ⟨effects_none rfl rfl,loading rfl desktop there⟩
  · cases taken
    exact ⟨effects_send rfl,trivial⟩
  · split at taken <;> cases taken <;> exact ⟨effects_none rfl rfl,trivial⟩
  · cases taken
    exact ⟨effects_none rfl rfl,trivial⟩
  · exact run_kept strict held taken

-- A record is replaced only by one whose encryption was negotiated.
theorem stored_kept (strict : ∀ desktop ∈ w.stored, Strict trustKeyBase64 desktop) (held : Holds trustKeyBase64 loaded task)
    (effects : Effects phone task w w') :
    (∀ desktop ∈ w'.stored, Strict trustKeyBase64 desktop) ∧
      (w'.stored = w.stored ∨ ∃ desktop, w'.stored = some desktop ∧ Secured trustKeyBase64 desktop) := by
  rcases effects.stored with same | ⟨desktop,totalCount,rfl,saved⟩
  · rw [same]
    exact ⟨strict,.inl rfl⟩
  · have secured : Secured trustKeyBase64 desktop := held
    refine ⟨?_,.inr ⟨desktop,saved,secured⟩⟩
    intro other there
    rw [saved] at there
    cases there
    exact secured.toStrict

theorem sender_secured (held : Holds trustKeyBase64 (Secured trustKeyBase64) task) (sends : sendsWith task = some desktop) :
    Secured trustKeyBase64 desktop := by
  cases task <;> cases sends <;> exact held

section Runs
variable {Index : Type} [DecidableEq Index] {s next : Pool Index Service Task}

def copied (trustKeyBase64 : String) (loaded : TrustedDesktopRecord → Prop) : Assertions Service Task where
  world w := ∀ desktop ∈ w.stored, Strict trustKeyBase64 desktop
  thread _ := Holds trustKeyBase64 loaded

def sealed (phone : PhoneLibraries) (trustKeyBase64 : String) : Assertions Service Task where
  world w := (∀ desktop ∈ w.stored, Strict trustKeyBase64 desktop) ∧
    ∀ request ∈ w.sent, Encrypted phone trustKeyBase64 request
  thread _ := Holds trustKeyBase64 (Secured trustKeyBase64)

theorem copied_stable : Stable (copied trustKeyBase64 (Strict trustKeyBase64)) (stepTask phone) (fun _ (_ : Unit) => none) {} where
  own strict held _ taken := by
    obtain ⟨effects,held'⟩ := step_kept strict held (fun _ => strict) taken
    exact ⟨(stored_kept strict held effects).1,held'⟩
  other _ _ held _ _ _ _ _ := ⟨held,trivial,trivial⟩
  eventWorld _ taken := by cases taken
  eventThread _ held _ _ := held

theorem sealed_stable : Stable (sealed phone trustKeyBase64) (stepTask phone) (fun _ (_ : Unit) => none) loadsSecured where
  own {w task input w' task'} world held allowed taken := by
    obtain ⟨strict,before⟩ := world
    have loading : loads task = true → ∀ desktop ∈ w.stored, Secured trustKeyBase64 desktop := by
      intro reads desktop there
      exact ⟨strict desktop there,allowed reads desktop there⟩
    obtain ⟨effects,held'⟩ := step_kept strict held loading taken
    refine ⟨⟨(stored_kept strict held effects).1,?_⟩,held'⟩
    rcases effects.sent with same | ⟨desktop,sends,overLan,outgoing,sent⟩
    · rw [same]
      exact before
    · rw [sent]
      exact send_encrypted (sender_secured held sends) before
  other _ _ held _ _ _ _ _ := ⟨held,trivial,trivial⟩
  eventWorld _ taken := by cases taken
  eventThread _ held _ _ := held

omit [DecidableEq Index] in
theorem launched_copied (strict : Strict trustKeyBase64 desktop) :
    (copied trustKeyBase64 loaded).Hold (launched (some desktop) : Pool Index Service Task) := by
  refine ⟨?_,fun _ => trivial,fun _ _ _ => trivial⟩
  intro other there
  cases there
  exact strict

-- No step turns the encryption of a strict record off; and where stopTransfer and
-- completeTransfer find it on, nothing that is sent is in clear.
theorem strict_requests_encrypted (phone : PhoneLibraries) (desktop : TrustedDesktopRecord)
    (strict : desktop.strictSecurityEnabled = true) :
    (∀ s : Pool Index Service Task, Reachable (service phone) (launched (some desktop)) s → ∀ move next,
      (service phone).step s move = some next → ∀ before ∈ s.world.stored, before.encryptionEnabled = true →
      ∃ after, next.world.stored = some after ∧ after.encryptionEnabled = true ∧
        after.strictSecurityEnabled = true ∧ after.sharedKeyBase64 = desktop.sharedKeyBase64) ∧
    ∀ s : Pool Index Service Task, Reaches (service phone) loadsSecured.Admits (launched (some desktop)) s →
      ∀ request ∈ s.world.sent, Encrypted phone desktop.sharedKeyBase64 request := by
  have record : Strict desktop.sharedKeyBase64 desktop := ⟨strict,rfl⟩
  constructor
  · intro s path move next taken before there encrypted
    have weak : Reaches (service phone) (Condition.Admits {}) (launched (some desktop)) s :=
      reaches_weaken (fun _ move _ => by cases move <;> simp [Condition.Admits]) path
    have hold := hold_reaches copied_stable (launched_copied record) weak
    have secured : Secured desktop.sharedKeyBase64 before := ⟨hold.world before there,encrypted⟩
    cases move with
    | environment event => cases taken
    | thread i input =>
        obtain ⟨world',task',moved,rfl⟩ := thread_parts taken
        obtain ⟨effects,-⟩ := step_kept hold.world (hold.thread i) (fun _ => hold.world) moved
        rcases (stored_kept hold.world (hold.thread i) effects).2 with same | ⟨after,stored,secured⟩
        · exact ⟨before,same.trans there,encrypted,secured.strict,secured.key⟩
        · exact ⟨after,stored,secured.encrypted,secured.strict,secured.key⟩
  · intro s path
    have copies : (copied desktop.sharedKeyBase64 (Strict desktop.sharedKeyBase64)).Hold
        (launched (some desktop) : Pool Index Service Task) := launched_copied record
    have start : (sealed phone desktop.sharedKeyBase64).Hold (launched (some desktop) : Pool Index Service Task) :=
      ⟨⟨copies.world,by simp [launched]⟩,fun _ => trivial,fun _ _ _ => trivial⟩
    exact (hold_reaches sealed_stable start path).world.2

end Runs

instance (w : Service) (task : Task) (input : Input) : Decidable (loadsSecured.own w task input) :=
  inferInstanceAs (Decidable (loads task = true → ∀ desktop ∈ w.stored, desktop.encryptionEnabled = true))

instance (w : Service) (task : Task) (input : Input) (other : Task) : Decidable (loadsSecured.beside w task input other) :=
  inferInstanceAs (Decidable True)

instance (w : Service) (event : Unit) (other : Task) : Decidable (loadsSecured.event w event other) :=
  inferInstanceAs (Decidable True)

def inClear (request : Request) : Bool :=
  match request.body with
  | .json body => match Payload.get body "schema" with
    | .string schema => schema != mobileEncryptionSchema
    | _ => true
  | .chunk _ => false

theorem encrypted_marked (encrypted : Encrypted phone trustKeyBase64 request) : inClear request = false := by
  obtain ⟨operation,body⟩ := request
  cases body with
  | chunk data => rfl
  | json body =>
      obtain ⟨fields,sessionID,nonce,sealed⟩ := encrypted
      obtain ⟨key,-,rfl⟩ := Option.map_eq_some_iff.mp sealed
      rfl

def strictRecord (encryptionEnabled : Bool) : TrustedDesktopRecord :=
  ⟨"trust-key","session-1","phone-1",encryptionEnabled,true⟩

def exchangeThen (answer : Exchange) : List (Move (Fin 1) Input Unit) :=
  [.startTransfer,.resolved .lan,.resolved .lan,.fetched (.ok 1),.exchanged answer].map (.thread 0)

def completion : List (Move (Fin 1) Input Unit) :=
  [.completeTransfer,.resolved .lan,.post true "proof" sampleNonce].map (.thread 0)

-- The exchange fails, so the run sends nothing; the completion after it goes in clear.
theorem completion_in_clear : ¬ ∀ (phone : PhoneLibraries) (desktop : TrustedDesktopRecord),
    desktop.strictSecurityEnabled = true →
    ∀ s : Pool (Fin 1) Service Task, Reachable (service phone) (launched (some desktop)) s →
      ∀ request ∈ s.world.sent, Encrypted phone desktop.sharedKeyBase64 request := by
  intro all
  obtain ⟨s,path,seen⟩ := checkedRun_exhibits (service samplePhone) (fun _ _ => True)
    (launched (some (strictRecord false)) : Pool (Fin 1) Service Task)
    (exchangeThen .failed ++ .thread 0 (.resolved .lan) :: completion) (fun s => s.world.sent.any inClear) (by decide +kernel)
  obtain ⟨request,member,clear⟩ := List.any_eq_true.mp seen
  rw [encrypted_marked (all samplePhone (strictRecord false) rfl s path request member)] at clear
  cases clear

-- The same record once the exchange has succeeded: its start and its completion are sealed.
theorem negotiated_requests_encrypted : ∃ s : Pool (Fin 1) Service Task,
    s.world.sent.map Request.operation = [.complete,.start] ∧
      ∀ request ∈ s.world.sent, Encrypted samplePhone "trust-key" request := by
  obtain ⟨s,path,seen⟩ := checkedRun_exhibits (service samplePhone) loadsSecured.Admits
    (launched (some (strictRecord false)) : Pool (Fin 1) Service Task)
    (exchangeThen (.accepted true) ++ [.resolved .lan,.post true "proof" sampleNonce,.answered (some "offline"),
      .resolved .lan].map (.thread 0) ++ completion) (fun s => s.world.sent.map Request.operation == [.complete,.start])
    (by decide +kernel)
  exact ⟨s,by simpa using seen,(strict_requests_encrypted samplePhone (strictRecord false) rfl).2 s path⟩

end ImageSearch.StrictRuns
