import ImageSearch.AoaUploads
import ImageSearch.ConnectionGenerations

namespace ImageSearch.LostLinks
open Transitions Threads PhoneConnection ConnectionThreads AoaUploads

variable {client client' : AoaClient} {requestId : String} {phase phase' : Upload} {input : UploadInput}

def LinkError (error : AoaTransportError) : Prop :=
  (∃ state, state ≠ .connected ∧ error = .connectionUnavailable state) ∨ error = .connectionLost

theorem unavailable_classified : ∀ state : AoaTransportState,
    isAoaConnectionError (AoaTransportError.connectionUnavailable state).message = true := by
  intro state
  cases state <;> decide +kernel

theorem link_classified {error : AoaTransportError} (link : LinkError error) : isAoaConnectionError error.message = true := by
  rcases link with ⟨state,_,rfl⟩ | rfl
  · exact unavailable_classified state
  · decide +kernel

-- While connected a chunk or a completion finds its stream registered, and no wait for
-- the final response comes to its timeout.
def findsStream (client : AoaClient) (requestId : String) : Bool :=
  client.state ≠ .connected || (client.pendingStreamingResponses.get requestId).isSome

def keepsStream (client : AoaClient) : Party → Turn → Bool
  | .upload requestId (.between _),.upload (.chunk _) => findsStream client requestId
  | .upload requestId (.between _),.upload (.finish _) => findsStream client requestId
  | .upload _ (.waiting _ _),.upload .timeout => false
  | _,_ => true

def streamsKept : Condition AoaClient Party Turn Event where
  own client party turn := keepsStream client party turn = true

def PhaseFits : Upload → Prop
  | .removing _ (.error error) => LinkError error
  | .broken _ error | .reconnecting _ error => LinkError error
  | .failed error givenUp => LinkError error ∧ givenUp ≠ .unclassified
  | _ => True

def PartyFits : Party → Prop
  | .upload _ phase => PhaseFits phase
  | .thread _ => True

def MailFits (client : AoaClient) : Prop :=
  ∀ queue error, client.mailboxes queue = some (.error error) → error = .connectionLost

def recognised : Assertions AoaClient Party where
  world := MailFits
  thread _ party := PartyFits party

theorem mail_take (fits : MailFits client) (queue : Nat) : MailFits (client.take queue) := by
  intro other error held
  by_cases same : other = queue
  · subst same
    simp [AoaClient.take] at held
  · simp only [AoaClient.take,Function.update_of_ne same] at held
    exact fits other error held

theorem mail_offer (fits : MailFits client) (queue : Nat) (payload : Envelope) :
    MailFits (client.offer queue (.success payload)) := by
  intro other error held
  by_cases same : other = queue
  · subst same
    simp only [AoaClient.offer,Function.update_self] at held
    cases before : client.mailboxes other with
    | none => simp [before] at held
    | some result =>
        rw [before,Option.some_or] at held
        exact fits other error (before.trans held)
  · simp only [AoaClient.offer,Function.update_of_ne same] at held
    exact fits other error held

theorem mail_woken (fits : MailFits client) (woken : client'.mailboxes = client.wakeAll) : MailFits client' := by
  intro queue error held
  rw [woken,AoaClient.wakeAll] at held
  split at held
  · cases before : client.mailboxes queue with
    | none =>
        rw [before] at held
        cases held
        rfl
    | some result =>
        rw [before,Option.some_or] at held
        exact fits queue error (before.trans held)
  · exact fits queue error held

theorem mail_same (fits : MailFits client) (same : client'.mailboxes = client.mailboxes) : MailFits client' := by
  intro queue error held
  exact fits queue error (same ▸ held)

theorem offers_success {activity : Activity} {x : Input} {queue : Nat} {result : ResponseResult}
    (offered : ConnectionGenerations.changeOf client activity x = .offered queue result) :
    ∃ payload, result = .success payload := by
  unfold ConnectionGenerations.changeOf at offered
  split at offered
  · split at offered <;> cases offered
  · split at offered <;> cases offered
  · cases offered
  · cases offered
  · rename_i payload rest
    cases offered
    exact ⟨payload,rfl⟩
  · cases offered
  · cases offered

theorem mail_thread {activity activity' : Activity} {x : Input} (fits : MailFits client)
    (taken : activityStep client activity x = some (client',activity')) : MailFits client' := by
  have made := ConnectionGenerations.step_change taken
  cases changed : ConnectionGenerations.changeOf client activity x with
  | quiet =>
      rw [changed] at made
      exact mail_same fits made.mailboxes
  | registered kind requestId =>
      rw [changed] at made
      cases made
      exact mail_same fits ConnectionGenerations.registering_mailboxes
  | taken queue =>
      rw [changed] at made
      cases made
      exact mail_take fits queue
  | removed kind requestId =>
      rw [changed] at made
      cases made
      exact mail_same fits ConnectionGenerations.removed_mailboxes
  | offered queue result =>
      obtain ⟨payload,rfl⟩ := offers_success changed
      rw [changed] at made
      cases made
      exact mail_offer fits queue payload
  | closed =>
      rw [changed] at made
      exact mail_woken fits made.mailboxes

theorem mail_event {event : Event} (fits : MailFits client) (taken : eventStep client event = some client') :
    MailFits client' := by
  rcases ConnectionGenerations.event_change taken with quiet | closed
  · exact mail_same fits quiet.mailboxes
  · exact mail_woken fits closed.mailboxes

section Enter
variable {error : AoaTransportError}

theorem begin_refused (refused : client.enterBeginStreaming requestId = .error error) : LinkError error := by
  by_cases connected : client.state = .connected
  · rw [enterBeginStreaming_connected connected] at refused
    cases refused
  · rw [enterBeginStreaming_apart connected] at refused
    cases refused
    exact .inl ⟨client.state,connected,rfl⟩

theorem begin_registers {queue : Nat} (began : client.enterBeginStreaming requestId = .ok (client',queue)) :
    client' = ConnectionGenerations.registering client requestId .streaming := by
  by_cases connected : client.state = .connected
  · rw [enterBeginStreaming_connected connected] at began
    cases began
    rfl
  · rw [enterBeginStreaming_apart connected] at began
    cases began

theorem chunk_refused (finds : findsStream client requestId = true) (refused : client.enterSendChunk requestId = .error error) :
    LinkError error := by
  by_cases connected : client.state = .connected
  · simp only [findsStream,connected,ne_eq,not_true_eq_false,decide_false,Bool.false_or] at finds
    obtain ⟨queue,found⟩ := Option.isSome_iff_exists.mp finds
    simp [AoaClient.enterSendChunk,AoaClient.requireConnected,connected,found,bind,Except.bind,pure,Except.pure] at refused
  · simp [AoaClient.enterSendChunk,AoaClient.requireConnected,connected,bind,Except.bind] at refused
    exact .inl ⟨client.state,connected,refused.symm⟩

theorem finish_refused (finds : findsStream client requestId = true)
    (refused : client.enterFinishStreaming requestId = .error error) : LinkError error := by
  by_cases connected : client.state = .connected
  · simp only [findsStream,connected,ne_eq,not_true_eq_false,decide_false,Bool.false_or] at finds
    obtain ⟨queue,found⟩ := Option.isSome_iff_exists.mp finds
    simp [AoaClient.enterFinishStreaming,connected,found] at refused
  · simp [AoaClient.enterFinishStreaming,connected] at refused
    exact .inr refused.symm

end Enter

-- Every error an upload meets is one of the link, and every one of the link is recognised.
theorem upload_fits (mail : MailFits client) (fits : PhaseFits phase)
    (allowed : keepsStream client (.upload requestId phase) (.upload input) = true)
    (taken : uploadStep requestId client phase input = some (client',phase')) : PhaseFits phase' := by
  unfold uploadStep at taken
  split at taken
  · split at taken
    · cases taken
      trivial
    · rename_i refused
      cases taken
      exact begin_refused refused
  · split at taken <;> cases taken
    trivial
  · split at taken
    · cases taken
      trivial
    · rename_i refused
      cases taken
      exact chunk_refused allowed refused
  · split at taken
    · cases taken
      trivial
    · rename_i refused
      cases taken
      exact finish_refused allowed refused
  · split at taken <;> cases taken
    trivial
  · rename_i attempt queue
    obtain ⟨result,held,moved⟩ := Option.map_eq_some_iff.mp taken
    cases moved
    cases result with
    | success payload => trivial
    | error error => exact .inr (mail queue error held)
  · cases allowed
  · rename_i attempt result
    cases taken
    cases result with
    | success payload => trivial
    | error error => exact fits
  · rename_i attempt error
    split at taken
    · rename_i unclassified
      simp [link_classified fits] at unclassified
    · split at taken <;> cases taken
      · exact fits
      · exact ⟨fits,by decide⟩
  · split at taken <;> cases taken
    trivial
  · split at taken <;> cases taken
    exact ⟨fits,by decide⟩
  · cases taken

theorem upload_mail (mail : MailFits client) (taken : uploadStep requestId client phase input = some (client',phase')) :
    MailFits client' := by
  unfold uploadStep at taken
  split at taken
  · split at taken
    · rename_i began
      cases taken
      rw [begin_registers began]
      exact mail_same mail ConnectionGenerations.registering_mailboxes
    · cases taken
      exact mail
  · split at taken <;> cases taken
    exact mail
  · split at taken <;> cases taken <;> exact mail
  · split at taken <;> cases taken <;> exact mail
  · split at taken <;> cases taken
    exact mail
  · rename_i attempt queue
    obtain ⟨result,held,moved⟩ := Option.map_eq_some_iff.mp taken
    cases moved
    exact mail_take mail queue
  · split at taken <;> cases taken
    exact mail
  · cases taken
    exact mail_same mail ConnectionGenerations.removed_mailboxes
  · split at taken
    · cases taken
      exact mail
    · split at taken <;> cases taken <;> exact mail
  · split at taken <;> cases taken
    exact mail
  · split at taken <;> cases taken
    exact mail
  · cases taken

theorem party_step {party party' : Party} {turn : Turn} (mail : MailFits client) (fits : PartyFits party)
    (allowed : keepsStream client party turn = true) (taken : partyStep client party turn = some (client',party')) :
    MailFits client' ∧ PartyFits party' := by
  unfold partyStep at taken
  split at taken
  · obtain ⟨⟨after,phase'⟩,moved,same⟩ := Option.map_eq_some_iff.mp taken
    cases same
    exact ⟨upload_mail mail moved,upload_fits mail fits allowed moved⟩
  · obtain ⟨⟨after,activity'⟩,moved,same⟩ := Option.map_eq_some_iff.mp taken
    cases same
    exact ⟨mail_thread mail moved,trivial⟩
  · cases taken

theorem recognised_stable : Stable recognised partyStep eventStep streamsKept where
  own := fun mail fits allowed taken => party_step mail fits allowed taken
  other := fun _ _ fits _ _ _ _ _ => ⟨fits,trivial,trivial⟩
  eventWorld := fun mail taken => mail_event mail taken
  eventThread := fun _ fits _ _ => fits

section Runs
variable {Index : Type*} [DecidableEq Index] {start s : Uploads Index}

-- A lost link is waited for, and an asset fails only when the retries are used up or the
-- link does not come back; a refusal is an answer, and no error at all.
structure LinksRecognised (s : Uploads Index) : Prop where
  broken : ∀ i requestId attempt error, s.threads i = .upload requestId (.broken attempt error) →
    LinkError error ∧ isAoaConnectionError error.message = true
  failed : ∀ i requestId error givenUp, s.threads i = .upload requestId (.failed error givenUp) →
    LinkError error ∧ givenUp ≠ .unclassified
  refused : ∀ i requestId attempt payload next, s.threads i = .upload requestId (.removing attempt (.success payload)) →
    (uploads Index).step s (.thread i (.upload .go)) = some next → next.threads i = .upload requestId (.answered payload)

omit [DecidableEq Index] in
theorem launched_holds (launched : Launched start) : recognised.Hold start := by
  refine ⟨fun queue error held => ?_,fun i => ?_,fun _ _ _ => trivial⟩
  · rw [launched.world] at held
    cases held
  · rcases launched.parties i with ⟨requestId,starting⟩ | idle
    · rw [starting]
      trivial
    · rw [idle]
      trivial

theorem lost_links_recognised (launched : Launched start) (path : Reaches (uploads Index) streamsKept.Admits start s) :
    LinksRecognised s := by
  have hold := hold_reaches recognised_stable (launched_holds launched) path
  have fits : ∀ i, PartyFits (s.threads i) := hold.thread
  refine ⟨fun i requestId attempt error broken => ?_,fun i requestId error givenUp failed => ?_,?_⟩
  · have link := fits i
    rw [broken] at link
    exact ⟨link,link_classified link⟩
  · have link := fits i
    rw [failed] at link
    exact link
  · intro i requestId attempt payload next removing taken
    obtain ⟨client',party',moved,rfl⟩ := thread_parts taken
    rw [removing] at moved
    cases moved
    simp

end Runs

instance (client : AoaClient) (party : Party) (turn : Turn) : Decidable (streamsKept.own client party turn) :=
  inferInstanceAs (Decidable (_ = true))
instance (client : AoaClient) (party other : Party) (turn : Turn) : Decidable (streamsKept.beside client party turn other) :=
  inferInstanceAs (Decidable True)
instance (client : AoaClient) (event : Event) (party : Party) : Decidable (streamsKept.event client event party) :=
  inferInstanceAs (Decidable True)

def oneUpload : Uploads (Fin 3) := ⟨.new,fun i => if i = 0 then .upload "1" (.starting 0) else .thread .idle⟩

theorem oneUpload_launched : Launched oneUpload := by
  refine ⟨rfl,fun i => ?_⟩
  by_cases first : i = 0
  · exact .inl ⟨"1",by simp [oneUpload,first]⟩
  · exact .inr (by simp [oneUpload,first])

def connects (reader : Fin 3) (generation : Nat) (opens : Event) : List (Move (Fin 3) Turn Event) :=
  .environment opens :: ([.start (.reader generation),.go,
    .frames [.challenge "challenge" (.accepted ConnectionGenerations.sampleEnvelope)],.go,.go,.go,.go].map
      fun input => .thread reader (.thread input))

def prepares : Event := .prepareBootstrap ⟨"session","code",1⟩ (some .opened)

def starts : List (Move (Fin 3) Turn Event) :=
  connects 1 2 prepares ++ [.thread 0 (.upload (.start ConnectionGenerations.sampleEnvelope)),.thread 0 (.upload .go)]

-- The link is lost and back between the start and the first chunk.
def reconnectsBeforeChunk : List (Move (Fin 3) Turn Event) :=
  starts ++ connects 2 4 (.openAccessory .opened) ++ [.thread 0 (.upload (.chunk [1])),.thread 0 (.upload .go)]

def losesLinkBeforeChunk : List (Move (Fin 3) Turn Event) :=
  starts ++ [.environment .detached,.thread 0 (.upload (.chunk [1]))]

def failedUnclassified (s : Uploads (Fin 3)) : Bool :=
  match s.threads 0 with
  | .upload _ (.failed _ .unclassified) => true
  | _ => false

def linkBroken (s : Uploads (Fin 3)) : Bool :=
  match s.threads 0 with
  | .upload _ (.broken _ _) => true
  | _ => false

theorem linkBroken_parts {s : Uploads (Fin 3)} (seen : linkBroken s = true) :
    ∃ requestId attempt error, s.threads 0 = .upload requestId (.broken attempt error) := by
  unfold linkBroken at seen
  split at seen
  · rename_i requestId attempt error broken
    exact ⟨requestId,attempt,error,broken⟩
  · cases seen

theorem reconnected_link_unrecognised : ¬ ∀ start s : Uploads (Fin 3), Launched start →
    Reaches (uploads (Fin 3)) (fun _ _ => True) start s → LinksRecognised s := by
  intro all
  obtain ⟨s,path,seen⟩ := checkedRun_exhibits (uploads (Fin 3)) (fun _ _ => True) oneUpload reconnectsBeforeChunk
    failedUnclassified (by decide +kernel)
  unfold failedUnclassified at seen
  split at seen
  · rename_i requestId error failed
    exact ((all oneUpload s oneUpload_launched path).failed 0 requestId error .unclassified failed).2 rfl
  · cases seen

theorem detached_link_recognised : ∃ s : Uploads (Fin 3), Reaches (uploads (Fin 3)) streamsKept.Admits oneUpload s ∧
    (∃ requestId attempt error, s.threads 0 = .upload requestId (.broken attempt error) ∧
      isAoaConnectionError error.message = true) ∧ LinksRecognised s := by
  obtain ⟨s,path,seen⟩ := checkedRun_exhibits (uploads (Fin 3)) streamsKept.Admits oneUpload losesLinkBeforeChunk
    linkBroken (by decide +kernel)
  have recognised := lost_links_recognised oneUpload_launched path
  obtain ⟨requestId,attempt,error,broken⟩ := linkBroken_parts seen
  exact ⟨s,path,⟨requestId,attempt,error,broken,(recognised.broken 0 requestId attempt error broken).2⟩,recognised⟩

end ImageSearch.LostLinks
