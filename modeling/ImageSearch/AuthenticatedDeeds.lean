import ImageSearch.UsbAdapters

namespace ImageSearch.AuthenticatedDeeds
open Payload Transitions Threads AssetUploadStream AoaStreams UsbAdapters

variable {adapter : Adapter} {sha256 : String → String} {encryption : PayloadEncryption} {w w' : UsbAdapter}
  {t t' u : Worker} {input : Input} {attempt : Attempt} {connection : Nat}

-- A message for which nothing is done on any stream: it is refused, or ends the session.
def inert : Message → Bool
  | .broken => true
  | .chunk _ _ => false
  | .text _ value => (parseEnvelope value).isNone

def busy : Worker → Bool
  | .handling _ _ messages | .replying _ _ messages => !messages.all inert
  | .appending _ _ _ _ _ | .dispatching _ _ _ _ => true
  | _ => false

-- A proof is accepted only while the configuration that the loop read is in force, and a
-- connection gives no message once it has been replaced.
def keepsConfig (sha256 : String → String) (w : UsbAdapter) : Worker → Input → Bool
  | .verifying attempt _ rand proof,.proceed =>
    w.generation = attempt.generation ||
      w.bootstrapConfig.all fun config => verifyAuthDigest sha256 config rand proof != .accepted
  | .serving attempt _,.read messages => w.generation = attempt.generation || messages.all inert
  | _,_ => true

def reconfiguresIdle (w : UsbAdapter) : Event → Worker → Bool
  | .configureBootstrap config,u => w.bootstrapConfig = some config || !busy u
  | _,_ => true

def steady (sha256 : String → String) : Condition UsbAdapter Worker Input Event where
  own w t input := keepsConfig sha256 w t input = true
  event w e u := reconfiguresIdle w e u = true

def Proven (sha256 : String → String) (w : UsbAdapter) (config : UsbBootstrapConfig) (connection : Nat) : Prop :=
  ∃ challenge ∈ w.challenges, challenge.connection = connection ∧ challenge.config = config ∧
    (connection,sha256 (config.oneTimePasscode ++ challenge.rand)) ∈ w.proofs

def Authentic (sha256 : String → String) (w : UsbAdapter) (acted : Acted) : Prop :=
  acted.current = acted.captured ∧ ∃ config, acted.inForce = some config ∧ Proven sha256 w config acted.connection

def Sound (sha256 : String → String) (w : UsbAdapter) : Prop := ∀ acted ∈ w.acted, Authentic sha256 w acted

structure Captured (w : UsbAdapter) (attempt : Attempt) : Prop where
  earlier : attempt.generation ≤ w.generation
  inForce : w.generation = attempt.generation → w.bootstrapConfig = some attempt.config

def Fits (sha256 : String → String) (w : UsbAdapter) : Worker → Prop
  | .probing attempt | .opening attempt | .registering attempt | .challenging attempt _ => Captured w attempt
  | .answering attempt connection rand | .listening attempt connection rand =>
    Captured w attempt ∧ ⟨connection,attempt.config,rand⟩ ∈ w.challenges
  | .verifying attempt connection rand proof =>
    Captured w attempt ∧ ⟨connection,attempt.config,rand⟩ ∈ w.challenges ∧ (connection,proof) ∈ w.proofs
  | .accepted attempt connection | .polling attempt connection | .serving attempt connection =>
    Captured w attempt ∧ Proven sha256 w attempt.config connection
  | .handling attempt connection messages | .replying attempt connection messages =>
    Captured w attempt ∧ Proven sha256 w attempt.config connection ∧
      (w.generation = attempt.generation ∨ messages.all inert = true)
  | .appending attempt connection _ _ _ | .dispatching attempt connection _ _ =>
    Captured w attempt ∧ Proven sha256 w attempt.config connection ∧ w.generation = attempt.generation
  | _ => True

structure Grows (w w' : UsbAdapter) : Prop where
  generation : w'.generation = w.generation
  config : w'.bootstrapConfig = w.bootstrapConfig
  challenges : ∀ challenge ∈ w.challenges, challenge ∈ w'.challenges
  proofs : ∀ proof ∈ w.proofs, proof ∈ w'.proofs

theorem grows_captured (grows : Grows w w') (old : Captured w attempt) : Captured w' attempt := by
  refine ⟨?_,fun same => ?_⟩
  · rw [grows.generation]; exact old.earlier
  · rw [grows.config]
    exact old.inForce (grows.generation.symm.trans same)

theorem proven_grows {config : UsbBootstrapConfig} (challenges : ∀ challenge ∈ w.challenges, challenge ∈ w'.challenges)
    (proofs : ∀ proof ∈ w.proofs, proof ∈ w'.proofs) (old : Proven sha256 w config connection) :
    Proven sha256 w' config connection := by
  obtain ⟨challenge,issued,here,announced,sent⟩ := old
  exact ⟨challenge,challenges _ issued,here,announced,proofs _ sent⟩

theorem grows_fits (grows : Grows w w') (old : Fits sha256 w u) : Fits sha256 w' u := by
  have captured : ∀ {attempt}, Captured w attempt → Captured w' attempt := grows_captured grows
  have proven : ∀ {config connection}, Proven sha256 w config connection → Proven sha256 w' config connection :=
    proven_grows grows.challenges grows.proofs
  have same : ∀ {attempt : Attempt}, w.generation = attempt.generation → w'.generation = attempt.generation :=
    fun old => grows.generation.trans old
  cases u with
  | probing attempt => exact captured old
  | opening attempt => exact captured old
  | registering attempt => exact captured old
  | challenging attempt _ => exact captured old
  | answering attempt _ _ => exact ⟨captured old.1,grows.challenges _ old.2⟩
  | listening attempt _ _ => exact ⟨captured old.1,grows.challenges _ old.2⟩
  | verifying attempt _ _ _ => exact ⟨captured old.1,grows.challenges _ old.2.1,grows.proofs _ old.2.2⟩
  | accepted attempt _ => exact ⟨captured old.1,proven old.2⟩
  | polling attempt _ => exact ⟨captured old.1,proven old.2⟩
  | serving attempt _ => exact ⟨captured old.1,proven old.2⟩
  | handling attempt _ _ => exact ⟨captured old.1,proven old.2.1,old.2.2.imp same id⟩
  | replying attempt _ _ => exact ⟨captured old.1,proven old.2.1,old.2.2.imp same id⟩
  | appending attempt _ _ _ _ => exact ⟨captured old.1,proven old.2.1,same old.2.2⟩
  | dispatching attempt _ _ _ => exact ⟨captured old.1,proven old.2.1,same old.2.2⟩
  | unborn => trivial
  | checking _ => trivial
  | configuring _ => trivial
  | leaving _ _ => trivial
  | readying _ _ => trivial
  | waiting _ => trivial
  | ended => trivial

structure Silent (w w' : UsbAdapter) : Prop extends Grows w w' where
  acted : w'.acted = w.acted

theorem silent_refl (w : UsbAdapter) : Silent w w := ⟨⟨rfl,rfl,fun _ there => there,fun _ there => there⟩,rfl⟩

theorem silent_trans {w'' : UsbAdapter} (one : Silent w w') (two : Silent w' w'') : Silent w w'' where
  generation := two.generation.trans one.generation
  config := two.config.trans one.config
  challenges _ there := two.challenges _ (one.challenges _ there)
  proofs _ there := two.proofs _ (one.proofs _ there)
  acted := two.acted.trans one.acted

theorem authentic_grows {acted : Acted} (challenges : ∀ challenge ∈ w.challenges, challenge ∈ w'.challenges)
    (proofs : ∀ proof ∈ w.proofs, proof ∈ w'.proofs) (old : Authentic sha256 w acted) : Authentic sha256 w' acted := by
  obtain ⟨same,config,inForce,proven⟩ := old
  exact ⟨same,config,inForce,proven_grows challenges proofs proven⟩

theorem sound_silent (silent : Silent w w') (sound : Sound sha256 w) : Sound sha256 w' := by
  intro acted there
  rw [silent.acted] at there
  exact authentic_grows silent.challenges silent.proofs (sound acted there)

theorem silent_tell (w : UsbAdapter) (thread : Nat) : Silent w (w.tell thread) :=
  ⟨⟨rfl,rfl,fun _ there => there,fun _ there => there⟩,rfl⟩

theorem silent_exit (w : UsbAdapter) (thread : Nat) : Silent w (w.exit thread) :=
  ⟨⟨rfl,rfl,fun _ there => there,fun _ there => there⟩,rfl⟩

theorem silent_detach (w : UsbAdapter) : Silent w w.detach :=
  ⟨⟨rfl,rfl,fun _ there => there,fun _ there => there⟩,rfl⟩

theorem silent_stream (w : UsbAdapter) (stream : TransferAssetUploadStream) : Silent w {w with assetUploadStream:=stream} :=
  ⟨⟨rfl,rfl,fun _ there => there,fun _ there => there⟩,rfl⟩

theorem silent_challenge (w : UsbAdapter) (challenge : Challenge) :
    Silent w {w with challenges:=challenge :: w.challenges} :=
  ⟨⟨rfl,rfl,fun _ there => List.mem_cons_of_mem _ there,fun _ there => there⟩,rfl⟩

theorem silent_proof (w : UsbAdapter) (proof : Nat × String) : Silent w {w with proofs:=proof :: w.proofs} :=
  ⟨⟨rfl,rfl,fun _ there => there,fun _ there => List.mem_cons_of_mem _ there⟩,rfl⟩

theorem silent_register (w : UsbAdapter) : Silent w (w.register adapter) := by
  cases adapter <;> exact ⟨⟨rfl,rfl,fun _ there => there,fun _ there => there⟩,rfl⟩

theorem silent_ready (w : UsbAdapter) : Silent w (w.setReadyState adapter) := by
  cases adapter <;> exact ⟨⟨rfl,rfl,fun _ there => there,fun _ there => there⟩,rfl⟩

theorem fits_leave (thread : Nat) (dies : Bool) : Fits sha256 w (leave adapter thread dies) := by
  cases adapter <;> trivial

theorem sound_act {deed : Deed} (sound : Sound sha256 w) (captured : Captured w attempt)
    (proven : Proven sha256 w attempt.config connection) (same : w.generation = attempt.generation) :
    Sound sha256 (w.act attempt connection deed) := by
  intro acted there
  rcases List.mem_cons.mp there with rfl | before
  · exact ⟨same,attempt.config,captured.inForce same,proven⟩
  · exact sound acted before

theorem grows_act (w : UsbAdapter) (deed : Deed) : Grows w (w.act attempt connection deed) :=
  ⟨rfl,rfl,fun _ there => there,fun _ there => there⟩

def Keeps (sha256 : String → String) (w w' : UsbAdapter) : Prop := Grows w w' ∧ (Sound sha256 w → Sound sha256 w')

theorem keeps_silent (silent : Silent w w') : Keeps sha256 w w' := ⟨silent.toGrows,sound_silent silent⟩

theorem keeps_act {deed : Deed} {stream : TransferAssetUploadStream} (captured : Captured w attempt)
    (proven : Proven sha256 w attempt.config connection) (same : w.generation = attempt.generation) :
    Keeps sha256 w ({w with assetUploadStream:=stream}.act attempt connection deed) := by
  have silent := silent_stream w stream
  refine ⟨⟨rfl,rfl,fun _ there => there,fun _ there => there⟩,fun sound => ?_⟩
  have proven' : Proven sha256 {w with assetUploadStream:=stream} attempt.config connection :=
    proven_grows (fun _ there => there) (fun _ there => there) proven
  exact sound_act (sound_silent silent sound) (grows_captured silent.toGrows captured) proven' same

theorem appended_keeps {requestId : String} {payload : Bytes} {messages : List Message} (captured : Captured w attempt)
    (proven : Proven sha256 w attempt.config connection) (same : w.generation = attempt.generation) :
    Keeps sha256 w (appended adapter w attempt connection requestId payload messages).1 ∧
      Fits sha256 (appended adapter w attempt connection requestId payload messages).1
        (appended adapter w attempt connection requestId payload messages).2 := by
  unfold appended
  split
  · rename_i stream _
    dsimp only
    have silent := silent_stream w stream
    have goesOn : Fits sha256 {w with assetUploadStream:=stream} (.handling attempt connection messages) :=
      grows_fits silent.toGrows ⟨captured,proven,.inl same⟩
    split
    · exact ⟨keeps_silent silent,goesOn⟩
    · have kept : Keeps sha256 w ({w with assetUploadStream:=stream}.act attempt connection (.append requestId)) :=
        keeps_act captured proven same
      exact ⟨kept,grows_fits (grows_act _ _) goesOn⟩
  · rename_i stream _
    split
    · exact ⟨keeps_silent (silent_stream w _),fits_leave _ _⟩
    · exact ⟨keeps_silent (silent_stream w _),grows_fits (silent_stream w _).toGrows ⟨captured,proven,.inl same⟩⟩

theorem dispatch_inert {frameId : String} {value : Option Json} (stream : TransferAssetUploadStream)
    (none_ : inert (.text frameId value) = true) : dispatchEnvelope encryption stream value = (.refused,stream) := by
  unfold dispatchEnvelope
  rw [Option.isNone_iff_eq_none.mp none_]

theorem handled_keeps {message : Message} {messages : List Message} (captured : Captured w attempt)
    (proven : Proven sha256 w attempt.config connection)
    (ready : w.generation = attempt.generation ∨ (message :: messages).all inert = true) :
    Keeps sha256 w (handled adapter encryption w attempt connection message messages).1 ∧
      Fits sha256 (handled adapter encryption w attempt connection message messages).1
        (handled adapter encryption w attempt connection message messages).2 := by
  have later : w.generation = attempt.generation ∨ messages.all inert = true :=
    ready.imp id fun quiet => by simp_all
  have idle : Keeps sha256 w w := keeps_silent (silent_refl w)
  cases message with
  | broken => exact ⟨idle,fits_leave _ _⟩
  | chunk requestId payload =>
    have same : w.generation = attempt.generation := ready.resolve_right (by simp [inert])
    unfold handled
    dsimp only
    split
    · exact ⟨idle,captured,proven,same⟩
    · split
      · exact ⟨idle,captured,proven,same⟩
      · exact ⟨idle,fits_leave _ _⟩
  | text frameId value =>
    unfold handled
    dsimp only
    split
    · rename_i stream _
      have silent := silent_stream w stream
      exact ⟨keeps_silent silent,grows_fits silent.toGrows ⟨captured,proven,later⟩⟩
    all_goals
      rename_i asked stream dispatched
      -- The message is not one that is refused, so the configuration is still in force.
      have same : w.generation = attempt.generation := by
        refine ready.resolve_right fun quiet => ?_
        have alone : inert (.text frameId value) = true := by simp_all
        rw [dispatch_inert _ alone] at dispatched
        cases dispatched
    · have kept : Keeps sha256 w ({w with assetUploadStream:=stream}.act attempt connection (.start asked)) :=
        keeps_act captured proven same
      exact ⟨kept,grows_fits kept.1 ⟨captured,proven,.inl same⟩⟩
    · have kept : Keeps sha256 w ({w with assetUploadStream:=stream}.act attempt connection (.complete asked)) :=
        keeps_act captured proven same
      exact ⟨kept,grows_fits kept.1 ⟨captured,proven,same⟩⟩
    · have silent := silent_stream w stream
      exact ⟨keeps_silent silent,grows_fits silent.toGrows ⟨captured,proven,same⟩⟩

theorem verified_fits {rand proof : String} (captured : Captured w attempt)
    (issued : ⟨connection,attempt.config,rand⟩ ∈ w.challenges) (sent : (connection,proof) ∈ w.proofs)
    (kept : keepsConfig sha256 w (.verifying attempt connection rand proof) .proceed = true) :
    Fits sha256 w (verified adapter sha256 w attempt connection rand proof) := by
  unfold verified
  cases inForce : w.bootstrapConfig with
  | none => exact fits_leave _ _
  | some config =>
    dsimp only
    cases outcome : verifyAuthDigest sha256 config rand proof with
    | rejected => exact fits_leave _ _
    | raised => exact fits_leave _ _
    | accepted =>
      have same : w.generation = attempt.generation := by
        simpa [keepsConfig,inForce,outcome] using kept
      have announced := captured.inForce same
      rw [inForce] at announced
      cases announced
      refine ⟨captured,⟨connection,attempt.config,rand⟩,issued,rfl,rfl,?_⟩
      rw [accepted_proof outcome]
      exact sent

theorem step_keeps (fits : Fits sha256 w t) (kept : keepsConfig sha256 w t input = true)
    (taken : stepWorker adapter sha256 encryption w t input = some (w',t')) : Keeps sha256 w w' ∧ Fits sha256 w' t' := by
  have idle : Keeps sha256 w w := keeps_silent (silent_refl w)
  unfold stepWorker at taken
  split at taken
  · split at taken
    · cases taken; exact ⟨keeps_silent ⟨⟨rfl,rfl,fun _ there => there,fun _ there => there⟩,rfl⟩,trivial⟩
    · cases taken
  · split at taken
    · cases taken; exact ⟨keeps_silent (silent_trans (silent_tell w _) (silent_exit _ _)),trivial⟩
    · cases taken; exact ⟨idle,trivial⟩
  · split at taken
    · cases taken
      rename_i inForce
      exact ⟨idle,Nat.le_refl _,fun _ => inForce⟩
    · cases taken; exact ⟨idle,trivial⟩
    · cases taken; exact ⟨keeps_silent (silent_exit w _),trivial⟩
  · cases taken; exact ⟨idle,trivial⟩
  · split at taken
    · cases taken
      have told := silent_tell w
      exact ⟨keeps_silent (told _),grows_captured (told _).toGrows fits⟩
    · cases taken; exact ⟨idle,fits⟩
  · split at taken
    · cases taken; exact ⟨idle,fits⟩
    · cases taken; exact ⟨idle,trivial⟩
    · cases taken; exact ⟨idle,fits⟩
  · cases taken
    have registered := @silent_register adapter w
    exact ⟨keeps_silent registered,grows_captured registered.toGrows fits⟩
  · split at taken
    · cases taken
    · cases taken
      have silent := silent_challenge w
      exact ⟨keeps_silent (silent _),grows_captured (silent _).toGrows fits,List.mem_cons_self ..⟩
  · split at taken
    · cases taken; exact ⟨keeps_silent (silent_tell w _),fits_leave _ _⟩
    · cases taken; exact ⟨idle,fits⟩
  · cases taken; exact ⟨idle,fits_leave _ _⟩
  · cases taken; exact ⟨idle,fits⟩
  · split at taken
    · split at taken
      · cases taken; exact ⟨idle,fits⟩
      · cases taken; exact ⟨idle,fits_leave _ _⟩
      · cases taken
        have silent := silent_proof w
        exact ⟨keeps_silent (silent _),grows_captured (silent _).toGrows fits.1,fits.2,List.mem_cons_self ..⟩
    · cases taken
  · cases taken
    exact ⟨idle,verified_fits fits.1 fits.2.1 fits.2.2 kept⟩
  · cases taken
    have silent : Silent w {w with state:=if w.state = .stopped then .stopped else .connected} :=
      ⟨⟨rfl,rfl,fun _ there => there,fun _ there => there⟩,rfl⟩
    exact ⟨keeps_silent silent,grows_fits silent.toGrows fits⟩
  · split at taken
    · cases taken; exact ⟨keeps_silent (silent_tell w _),fits_leave _ _⟩
    · cases taken; exact ⟨idle,fits⟩
  · cases taken; exact ⟨idle,fits⟩
  · split at taken
    · cases taken
      refine ⟨idle,fits.1,fits.2,?_⟩
      simpa [keepsConfig] using kept
    · cases taken
  · split at taken
    · cases taken; exact ⟨idle,fits.1,fits.2.1⟩
    · obtain ⟨captured,proven,ready⟩ := fits
      have done := @handled_keeps adapter _ encryption _ _ _ _ _ captured proven ready
      simp only [Option.some.injEq] at taken
      rw [taken] at done
      exact done
  · obtain ⟨captured,proven,same⟩ := fits
    rename_i requestId payload messages
    have done := @appended_keeps adapter _ _ _ _ requestId payload messages captured
      proven same
    simp only [Option.some.injEq] at taken
    rw [taken] at done
    exact done
  · cases taken
    obtain ⟨captured,proven,same⟩ := fits
    exact ⟨⟨grows_act w _,fun sound => sound_act sound captured proven same⟩,
      grows_fits (grows_act w _) ⟨captured,proven,.inl same⟩⟩
  · cases taken
    obtain ⟨captured,proven,same⟩ := fits
    exact ⟨⟨grows_act w _,fun sound => sound_act sound captured proven same⟩,fits_leave _ _⟩
  · cases taken; exact ⟨idle,fits⟩
  · cases taken; exact ⟨idle,trivial⟩
  · cases taken; exact ⟨idle,fits_leave _ _⟩
  · cases taken; exact ⟨idle,fits_leave _ _⟩
  · cases taken; exact ⟨idle,fits_leave _ _⟩
  · cases taken; exact ⟨idle,fits_leave _ _⟩
  · cases taken; exact ⟨keeps_silent (silent_detach w),trivial⟩
  · split at taken
    · cases taken; exact ⟨keeps_silent (silent_trans (silent_ready w) (silent_exit _ _)),trivial⟩
    · cases taken; exact ⟨keeps_silent (silent_ready w),trivial⟩
  · cases taken; exact ⟨idle,trivial⟩
  · cases taken

section Events
variable {config : UsbBootstrapConfig}

theorem replaced_captured (new : w.bootstrapConfig ≠ some config) (old : Captured w attempt) :
    Captured (w.configureBootstrap config) attempt := by
  have later : (w.configureBootstrap config).generation = w.generation + 1 := by
    simp [UsbAdapter.configureBootstrap,UsbAdapter.detach,new]
  refine ⟨?_,fun same => ?_⟩
  · rw [later]
    exact Nat.le_succ_of_le old.earlier
  · have earlier := old.earlier
    rw [later] at same
    omega

theorem replaced_fits (new : w.bootstrapConfig ≠ some config) (idle : busy u = false) (old : Fits sha256 w u) :
    Fits sha256 (w.configureBootstrap config) u := by
  have captured : ∀ {attempt}, Captured w attempt → Captured (w.configureBootstrap config) attempt := replaced_captured new
  have proven : ∀ {announced connection}, Proven sha256 w announced connection →
      Proven sha256 (w.configureBootstrap config) announced connection :=
    proven_grows (fun _ there => there) (fun _ there => there)
  cases u with
  | probing attempt => exact captured old
  | opening attempt => exact captured old
  | registering attempt => exact captured old
  | challenging attempt _ => exact captured old
  | answering attempt _ _ => exact ⟨captured old.1,old.2⟩
  | listening attempt _ _ => exact ⟨captured old.1,old.2⟩
  | verifying attempt _ _ _ => exact ⟨captured old.1,old.2⟩
  | accepted attempt _ => exact ⟨captured old.1,proven old.2⟩
  | polling attempt _ => exact ⟨captured old.1,proven old.2⟩
  | serving attempt _ => exact ⟨captured old.1,proven old.2⟩
  | handling attempt _ messages =>
    exact ⟨captured old.1,proven old.2.1,.inr (by simpa only [busy,Bool.not_eq_false'] using idle)⟩
  | replying attempt _ messages =>
    exact ⟨captured old.1,proven old.2.1,.inr (by simpa only [busy,Bool.not_eq_false'] using idle)⟩
  | appending _ _ _ _ _ => cases idle
  | dispatching _ _ _ _ => cases idle
  | unborn => trivial
  | checking _ => trivial
  | configuring _ => trivial
  | leaving _ _ => trivial
  | readying _ _ => trivial
  | waiting _ => trivial
  | ended => trivial

theorem silent_reconfigure (same : w.bootstrapConfig = some config) : Silent w (w.configureBootstrap config) := by
  refine ⟨⟨?_,same.symm,fun _ there => there,fun _ there => there⟩,rfl⟩
  simp [UsbAdapter.configureBootstrap,UsbAdapter.detach,same]

theorem silent_start (w : UsbAdapter) : Silent w w.start := by
  unfold UsbAdapter.start
  split
  · exact silent_refl w
  · dsimp only
    split
    · exact ⟨⟨rfl,rfl,fun _ there => there,fun _ there => there⟩,rfl⟩
    · exact ⟨⟨rfl,rfl,fun _ there => there,fun _ there => there⟩,rfl⟩

theorem silent_stop (w : UsbAdapter) : Silent w w.stop :=
  ⟨⟨rfl,rfl,fun _ there => there,fun _ there => there⟩,rfl⟩

theorem event_silent {event : Event} (taken : stepCaller w event = some w') :
    Silent w w' ∨ ∃ config, event = .configureBootstrap config ∧ w.bootstrapConfig ≠ some config ∧
      w' = w.configureBootstrap config := by
  cases event with
  | configureBootstrap config =>
    cases taken
    by_cases same : w.bootstrapConfig = some config
    · exact .inl (silent_reconfigure same)
    · exact .inr ⟨config,rfl,same,rfl⟩
  | start => cases taken; exact .inl (silent_start w)
  | launch thread =>
    simp only [stepCaller] at taken
    split at taken
    · cases taken; exact .inl ⟨⟨rfl,rfl,fun _ there => there,fun _ there => there⟩,rfl⟩
    · cases taken
  | stop => cases taken; exact .inl (silent_stop w)

end Events

section Runs
variable {Index : Type} {s : Pool Index UsbAdapter Worker}

def proofs (sha256 : String → String) : Assertions UsbAdapter Worker where
  world := Sound sha256
  thread := Fits sha256

theorem stable : Stable (proofs sha256) (stepWorker adapter sha256 encryption) stepCaller (steady sha256) where
  own world fits kept taken := by
    obtain ⟨⟨-,sound⟩,fits'⟩ := step_keeps fits kept taken
    exact ⟨sound world,fits'⟩
  other _ mover old _ _ kept _ taken := by
    obtain ⟨⟨grows,-⟩,-⟩ := step_keeps mover kept taken
    exact ⟨grows_fits grows old,trivial,trivial⟩
  eventWorld world taken := by
    rcases event_silent taken with silent | ⟨config,-,-,rfl⟩
    · exact sound_silent silent world
    · exact fun acted there => authentic_grows (fun _ there => there) (fun _ there => there) (world acted there)
  eventThread _ old idle taken := by
    rcases event_silent taken with silent | ⟨config,rfl,new,rfl⟩
    · exact grows_fits silent.toGrows old
    · refine replaced_fits new ?_ old
      simpa [steady,reconfiguresIdle,new] using idle

variable [DecidableEq Index]

theorem deeds_authenticated (adapter : Adapter) (sha256 : String → String) (encryption : PayloadEncryption)
    (reached : Reaches (usbAdapter adapter sha256 encryption) (steady sha256).Admits created s) :
    ∀ acted ∈ s.world.acted, acted.current = acted.captured ∧ ∃ challenge ∈ s.world.challenges,
      challenge.connection = acted.connection ∧ acted.inForce = some challenge.config ∧
        (acted.connection,sha256 (challenge.config.oneTimePasscode ++ challenge.rand)) ∈ s.world.proofs := by
  have start : (proofs sha256).Hold (created : Pool Index UsbAdapter Worker) :=
    ⟨fun _ there => (nomatch there),fun _ => trivial,fun _ _ _ => trivial⟩
  have holds := hold_reaches stable start reached
  intro acted there
  obtain ⟨same,config,inForce,challenge,issued,here,rfl,sent⟩ := holds.world acted there
  exact ⟨same,challenge,issued,here,inForce,sent⟩

end Runs

def clearPayloads : PayloadEncryption := ⟨fun fields => .ok (fields,none),fun _ bytes => .ok bytes⟩

def firstConfig : UsbBootstrapConfig := ⟨"session","passcode",5000,20,by decide +kernel,by decide +kernel⟩

def secondConfig : UsbBootstrapConfig := ⟨"other","changed",5000,20,by decide +kernel,by decide +kernel⟩

def proofMessage (digest : String) : Message := .text aoaAuthChallengeRequestId (some (.object [
  ("schema",.string mobileTransportEnvelopeSchema),("request_id",.string usbAuthChallengeRequestId),
  ("status_code",.int 200),("body",.object [("proof",.string digest)])]))

def statusMessage : Message := .text "" (some (.object [("schema",.string mobileTransportEnvelopeSchema),
  ("operation",.string "transfer.status"),("request_id",.string "request"),("body",.object [])]))

def launches : List (Move (Fin 1) Input Event) :=
  .environment (.configureBootstrap firstConfig) :: .environment .start :: .environment (.launch 0) ::
    ([.run 0,.proceed,.proceed,.probed true,.opened true,.proceed,.challenged "rand",.proceed] : List Input).map (.thread 0)

def proves (digest : String) : List (Move (Fin 1) Input Event) := [.thread 0 (.read [proofMessage digest])]

def serves : List (Move (Fin 1) Input Event) :=
  ([.proceed,.proceed,.proceed,.read [statusMessage],.proceed] : List Input).map (.thread 0)

def dispatches : List (Move (Fin 1) Input Event) := [.thread 0 .proceed]

def sample (adapter : Adapter) : System (Pool (Fin 1) UsbAdapter Worker) (Move (Fin 1) Input Event) :=
  usbAdapter adapter id clearPayloads

instance (w : UsbAdapter) (t : Worker) (input : Input) : Decidable ((steady id).own w t input) :=
  inferInstanceAs (Decidable (keepsConfig id w t input = true))

instance (w : UsbAdapter) (t : Worker) (input : Input) (other : Worker) : Decidable ((steady id).beside w t input other) :=
  inferInstanceAs (Decidable True)

instance (w : UsbAdapter) (event : Event) (other : Worker) : Decidable ((steady id).event w event other) :=
  inferInstanceAs (Decidable (reconfiguresIdle w event other = true))

def DispatchesProven (adapter : Adapter) : Prop :=
  ∃ s : Pool (Fin 1) UsbAdapter Worker, Reaches (sample adapter) (steady id).Admits created s ∧
    s.world.acted.map Acted.deed = [.dispatch "transfer.status"] ∧
    ∀ acted ∈ s.world.acted, acted.current = acted.captured ∧ ∃ challenge ∈ s.world.challenges,
      challenge.connection = acted.connection ∧ acted.inForce = some challenge.config ∧
        (acted.connection,challenge.config.oneTimePasscode ++ challenge.rand) ∈ s.world.proofs

theorem status_authenticated : DispatchesProven .usbWebSocket ∧ DispatchesProven .aoa := by
  have each : ∀ adapter, DispatchesProven adapter := by
    intro adapter
    obtain ⟨s,path,seen⟩ := checkedRun_exhibits (sample adapter) (steady id).Admits created
      (launches ++ proves "passcoderand" ++ serves ++ dispatches)
      (fun s => s.world.acted.map Acted.deed == [.dispatch "transfer.status"]) (by cases adapter <;> decide +kernel)
    exact ⟨s,path,by simpa using seen,deeds_authenticated adapter id clearPayloads path⟩
  exact ⟨each .usbWebSocket,each .aoa⟩

-- A reconfiguration between a message's receipt and its dispatch; and one between the
-- challenge and its verification, with the proof of the new passcode.
def ServesReplaced (adapter : Adapter) : Prop :=
  (∃ s : Pool (Fin 1) UsbAdapter Worker, Reachable (sample adapter) created s ∧
    ∃ acted ∈ s.world.acted, acted.captured < acted.current) ∧
  ∃ s : Pool (Fin 1) UsbAdapter Worker, Reachable (sample adapter) created s ∧
    ∃ acted ∈ s.world.acted, ¬ ∃ challenge ∈ s.world.challenges, challenge.connection = acted.connection ∧
      (acted.connection,challenge.config.oneTimePasscode ++ challenge.rand) ∈ s.world.proofs

theorem replaced_session_served : ServesReplaced .usbWebSocket ∧ ServesReplaced .aoa := by
  have each : ∀ adapter, ServesReplaced adapter := by
    intro adapter
    constructor
    · obtain ⟨s,path,seen⟩ := checkedRun_exhibits (sample adapter) (fun _ _ => True) created
        (launches ++ proves "passcoderand" ++ serves ++ .environment (.configureBootstrap secondConfig) :: dispatches)
        (fun s => s.world.acted.any fun acted => acted.captured < acted.current) (by cases adapter <;> decide +kernel)
      obtain ⟨acted,there,late⟩ := List.any_eq_true.mp seen
      exact ⟨s,path,acted,there,of_decide_eq_true late⟩
    · obtain ⟨s,path,seen⟩ := checkedRun_exhibits (sample adapter) (fun _ _ => True) created
        (launches ++ proves "changedrand" ++ .environment (.configureBootstrap secondConfig) :: serves ++ dispatches)
        (fun s => s.world.acted.any fun acted => decide (¬ ∃ challenge ∈ s.world.challenges,
          challenge.connection = acted.connection ∧
            (acted.connection,challenge.config.oneTimePasscode ++ challenge.rand) ∈ s.world.proofs))
        (by cases adapter <;> decide +kernel)
      obtain ⟨acted,there,unproven⟩ := List.any_eq_true.mp seen
      exact ⟨s,path,acted,there,of_decide_eq_true unproven⟩
  exact ⟨each .usbWebSocket,each .aoa⟩

end ImageSearch.AuthenticatedDeeds
