import ImageSearch.SharedStashes

namespace ImageSearch.GuessedCodes
open Payload Transitions Threads TrustSessions TrustSession SharedStashes

variable {code : PeerCode} {d d' : Desktop} {request request' : ShareRequest} {outside : Outside} {event : ShareEvent}
  {stashId : String}

-- At most `maxAttempts` wrong codes are tried before a stash is invalidated, with the last of
-- them it is, and no stash is read once it has been.
structure Bounded (d : Desktop) : Prop where
  tried : ∀ stashId entry, d.stashes stashId = some entry → d.wrongCodes stashId ≤ entry.maxAttempts
  invalidated : ∀ stashId entry, d.stashes stashId = some entry → entry.maxAttempts ≤ d.wrongCodes stashId →
    entry.expired = true
  granted : ∀ grant ∈ d.grants, grant.standing = true

def triedCode (code : PeerCode) (d : Desktop) : ShareRequest → Option Attempt
  | .trust t => (provenCode code d t).bind fun tried => tried.1.map fun stashId =>
      ⟨stashId,tried.2.1,tried.2.2,d.standing stashId⟩
  | .message p (.auth (some optCode)) .arrived => do
      let peer ← d.peers[p]?
      let session ← (d.registry.sessions peer.sessionId).bind d.registry.objects
      let stashId ← session.stashId
      some ⟨stashId,optCode,session.verifyOpt optCode,d.standing stashId⟩
  | _ => none

-- A wrong code is tried while fewer than `maxAttempts` will have been.
def fewGuesses (code : PeerCode) (d : Desktop) (request : ShareRequest) : Bool :=
  (triedCode code d request).all fun attempt => !attempt.wrong ||
    (d.stashes attempt.stashId).all fun entry => d.wrongCodes attempt.stashId + 1 < entry.maxAttempts

def fewerGuesses (code : PeerCode) : Condition Desktop ShareRequest Outside ShareEvent where
  own d request _ := fewGuesses code d request = true

-- What a request's step does: it tries the one code or none, and reads what stands.
structure Tries (d d' : Desktop) (attempt : Option Attempt) : Prop where
  attempts : d'.attempts = d.attempts ++ attempt.toList
  grants : ∀ grant ∈ d'.grants, grant ∈ d.grants ∨ grant.standing = true
  stashes : ∀ stashId entry, d.stashes stashId = some entry → ∃ next, d'.stashes stashId = some next ∧
    next.maxAttempts = entry.maxAttempts ∧ (entry.expired = true → next.expired = true)
  unknown : ∀ stashId, d.stashes stashId = none → d'.stashes stashId = none
  unchanged : attempt.isSome = true → d'.stashes = d.stashes

theorem retrieves_tries (retrieves : Retrieves d d') : Tries d d' none :=
  ⟨by simp [retrieves.attempts],retrieves.grants,retrieves.stashes,retrieves.unknown,nofun⟩

theorem same_tries {attempt : Option Attempt} (attempts : d'.attempts = d.attempts ++ attempt.toList)
    (grants : d'.grants = d.grants) (stashes : d'.stashes = d.stashes) : Tries d d' attempt := by
  refine ⟨attempts,?_,?_,?_,fun _ => stashes⟩
  · rw [grants]; exact fun _ member => .inl member
  · rw [stashes]; exact fun _ entry here => ⟨entry,here,rfl,id⟩
  · rw [stashes]; exact fun _ here => here

theorem tried_tries {tried : Option String} {optCode : String} {right : Bool} {w : Registry} {peers : List WebRTCPeer} :
    Tries d {d.tries tried optCode right with registry:=w,peers:=peers}
      (tried.map fun stashId => ⟨stashId,optCode,right,d.standing stashId⟩) := by
  cases tried with
  | none => exact same_tries (by simp [Desktop.tries]) rfl rfl
  | some stashId => exact same_tries rfl rfl rfl

theorem trust_tries {t : TrustRequest} (taken : stepShare code d (.trust t) outside = some (d',request')) :
    Tries d d' (triedCode code d (.trust t)) := by
  obtain ⟨next,-,same⟩ := Option.map_eq_some_iff.mp taken
  cases same
  cases tried : provenCode code d t with
  | none =>
      simp only [triedCode,tried,Option.elim_none,Option.bind_none]
      exact same_tries (by simp) rfl rfl
  | some tried' =>
      simp only [triedCode,tried,Option.elim_some,Option.bind_some]
      exact tried_tries

theorem auth_tries {p : Nat} {peer : WebRTCPeer} {optCode : String} (here : d.peers[p]? = some peer) :
    Tries d (handleAuth d p peer (some optCode)).1 (triedCode code d (.message p (.auth (some optCode)) .arrived)) := by
  simp only [triedCode,here,Option.bind_eq_bind,Option.bind_some,handleAuth]
  cases found : (d.registry.sessions peer.sessionId).bind d.registry.objects with
  | none => exact retrieves_tries retrieves_refl
  | some session =>
      simp only [Option.bind_some]
      have tries : ∀ w peers, Tries d {d.tries session.stashId optCode (session.verifyOpt optCode) with
          registry:=w,peers:=peers} (session.stashId.bind fun stashId =>
            some ⟨stashId,optCode,session.verifyOpt optCode,d.standing stashId⟩) := by
        intro w peers
        cases session.stashId with
        | none => exact tried_tries
        | some stashId => exact tried_tries
      split
      · exact tries _ _
      · exact tries _ _

theorem message_tries {p : Nat} {message : ControlMessage} {stage stage' : MessageStage}
    (moved : stepMessage d p message stage outside = some (d',stage')) :
    Tries d d' (triedCode code d (.message p message stage)) := by
  have retrieves : (∀ optCode, message = .auth (some optCode) → stage ≠ .arrived) → Tries d d' none := by
    intro other
    rcases message_moved moved with retrieves | ⟨_,_,optCode,_,-,auth,arrived,-,-⟩
    · exact retrieves_tries retrieves
    · exact absurd arrived (other optCode auth)
  cases message with
  | auth optCode =>
      cases optCode with
      | none => exact retrieves nofun
      | some optCode =>
          cases stage with
          | arrived =>
              obtain ⟨peer,here,moved⟩ := Option.map_eq_some_iff.mp moved
              have same := congrArg Prod.fst moved
              dsimp only at same
              rw [← same]
              exact auth_tries here
          | reading | answered => exact retrieves nofun
  | manifest | download | other => exact retrieves nofun

theorem share_tries (taken : stepShare code d request outside = some (d',request')) :
    Tries d d' (triedCode code d request) := by
  cases request with
  | trust t => exact trust_tries taken
  | transfer asked stage =>
      obtain ⟨next,moved,same⟩ := Option.map_eq_some_iff.mp taken
      cases same
      exact retrieves_tries (transfer_retrieves moved)
  | message p message stage =>
      obtain ⟨next,moved,same⟩ := Option.map_eq_some_iff.mp taken
      cases same
      exact message_tries moved

theorem wrong_standing {attempt : Attempt} (wrong : attempt.wrong = true) : attempt.standing = true := by
  simp only [Attempt.wrong,Bool.and_eq_true] at wrong
  exact wrong.1.1.1

theorem tries_wrong {attempt : Option Attempt} (tries : Tries d d' attempt) :
    d'.wrongCodes stashId = d.wrongCodes stashId +
      if attempt.any (fun attempt => attempt.stashId = stashId && attempt.wrong) then 1 else 0 := by
  unfold Desktop.wrongCodes
  rw [tries.attempts,List.countP_append]
  cases attempt with
  | none => rfl
  | some attempt => simp [List.countP_singleton]

theorem standing_parts (standing : d.standing stashId = true) :
    ∃ entry, d.stashes stashId = some entry ∧ entry.expired = false := by
  obtain ⟨entry,here,stands⟩ := (Option.any_eq_true ..).mp standing
  exact ⟨entry,here,by simpa using stands⟩

theorem tried_standing {attempt : Attempt} (tried : triedCode code d request = some attempt) :
    attempt.standing = d.standing attempt.stashId := by
  cases request with
  | trust t =>
      obtain ⟨attempted,-,same⟩ := Option.bind_eq_some_iff.mp tried
      obtain ⟨stashId,-,rfl⟩ := Option.map_eq_some_iff.mp same
      rfl
  | transfer asked stage => cases tried
  | message p message stage =>
      cases message with
      | auth optCode =>
          cases optCode with
          | none => cases tried
          | some optCode =>
              cases stage with
              | arrived =>
                  simp only [triedCode,Option.bind_eq_bind,Option.bind_eq_some_iff] at tried
                  obtain ⟨_,-,_,-,_,-,same⟩ := tried
                  cases same
                  rfl
              | reading | answered => cases tried
      | manifest | download | other => cases tried

theorem no_wrong {attempt : Option Attempt} (tries : Tries d d' attempt)
    (right : attempt.any (fun attempt => attempt.stashId = stashId && attempt.wrong) = false) :
    d'.wrongCodes stashId = d.wrongCodes stashId := by
  rw [tries_wrong tries,right]
  rfl

theorem tries_entry {attempt : Option Attempt} {next : StashEntry} (tries : Tries d d' attempt)
    (there : d'.stashes stashId = some next) : ∃ entry, d.stashes stashId = some entry ∧
      next.maxAttempts = entry.maxAttempts ∧ (entry.expired = true → next.expired = true) := by
  cases here : d.stashes stashId with
  | none =>
      rw [tries.unknown stashId here] at there
      cases there
  | some entry =>
      obtain ⟨next',found,maxAttempts,expired⟩ := tries.stashes stashId entry here
      obtain rfl := Option.some.inj (there.symm.trans found)
      exact ⟨entry,rfl,maxAttempts,expired⟩

theorem few_bounded (bounded : Bounded d) (taken : stepShare code d request outside = some (d',request'))
    (few : fewGuesses code d request = true) : Bounded d' := by
  have tries := share_tries taken
  have counted : ∀ stashId next, d'.stashes stashId = some next → d'.wrongCodes stashId ≤ next.maxAttempts ∧
      (next.maxAttempts ≤ d'.wrongCodes stashId → next.expired = true) := by
    intro stashId next there
    obtain ⟨entry,here,maxAttempts,expired⟩ := tries_entry tries there
    rw [maxAttempts]
    by_cases wrong : (triedCode code d request).any (fun attempt => attempt.stashId = stashId && attempt.wrong) = true
    · obtain ⟨attempt,tried,mine⟩ := (Option.any_eq_true ..).mp wrong
      simp only [Bool.and_eq_true,decide_eq_true_eq] at mine
      obtain ⟨rfl,mistaken⟩ := mine
      have below : d.wrongCodes attempt.stashId + 1 < entry.maxAttempts := by
        simpa [fewGuesses,tried,mistaken,here] using few
      rw [tries_wrong tries,if_pos wrong]
      exact ⟨by omega,fun full => by omega⟩
    · rw [no_wrong tries (Bool.eq_false_of_not_eq_true wrong)]
      exact ⟨bounded.tried stashId entry here,fun full => expired (bounded.invalidated stashId entry here full)⟩
  refine ⟨fun stashId next there => (counted stashId next there).1,fun stashId next there => (counted stashId next there).2,?_⟩
  intro grant member
  rcases tries.grants grant member with old | stood
  · exact bounded.granted grant old
  · exact stood

-- The code counts no guesses, so the one that reaches `maxAttempts` leaves the stash standing.
theorem bounded_few (taken : stepShare code d request outside = some (d',request')) (bounded : Bounded d') :
    fewGuesses code d request = true := by
  have tries := share_tries taken
  cases tried : triedCode code d request with
  | none => simp [fewGuesses,tried]
  | some attempt =>
      rw [tried] at tries
      cases wrong : attempt.wrong with
      | false => simp [fewGuesses,tried,wrong]
      | true =>
          have standing : d.standing attempt.stashId = true := by
            rw [← tried_standing tried]
            exact wrong_standing wrong
          obtain ⟨entry,here,stands⟩ := standing_parts standing
          have there : d'.stashes attempt.stashId = some entry := by rw [tries.unchanged rfl,here]
          have count : d'.wrongCodes attempt.stashId = d.wrongCodes attempt.stashId + 1 := by
            rw [tries_wrong tries]
            simp [wrong]
          have below : d.wrongCodes attempt.stashId + 1 < entry.maxAttempts := by
            by_contra full
            have expired := bounded.invalidated _ entry there (by omega)
            rw [stands] at expired
            cases expired
          simp [fewGuesses,tried,wrong,here,below]

def Counted (d : Desktop) : Prop := ∀ stashId, d.stashes stashId = none → d.wrongCodes stashId = 0

structure Guessing (d : Desktop) : Prop where
  bounded : Bounded d
  counted : Counted d

def guessing : Assertions Desktop ShareRequest where
  world := Guessing

theorem share_counted (counted : Counted d) (taken : stepShare code d request outside = some (d',request')) : Counted d' := by
  have tries := share_tries taken
  intro stashId absent
  have before : d.stashes stashId = none := by
    cases here : d.stashes stashId with
    | none => rfl
    | some entry =>
        obtain ⟨next,there,-⟩ := tries.stashes stashId entry here
        rw [absent] at there
        cases there
  have right : (triedCode code d request).any (fun attempt => attempt.stashId = stashId && attempt.wrong) = false := by
    by_contra some_
    obtain ⟨attempt,tried,mine⟩ := (Option.any_eq_true ..).mp (Bool.eq_true_of_not_eq_false some_)
    simp only [Bool.and_eq_true,decide_eq_true_eq] at mine
    obtain ⟨rfl,mistaken⟩ := mine
    have standing := wrong_standing mistaken
    rw [tried_standing tried] at standing
    obtain ⟨entry,here,-⟩ := standing_parts standing
    rw [before] at here
    cases here
  rw [no_wrong tries right]
  exact counted stashId before

theorem update_guessing {entry next : StashEntry} (held : Guessing d) (here : d.stashes stashId = some entry)
    (maxAttempts : next.maxAttempts = entry.maxAttempts) (expired : entry.expired = true → next.expired = true) :
    Guessing (d.update stashId next) := by
  have tries := retrieves_tries (update_retrieves here maxAttempts expired)
  have same : ∀ name, (d.update stashId next).wrongCodes name = d.wrongCodes name := fun _ => rfl
  refine ⟨⟨?_,?_,held.bounded.granted⟩,?_⟩
  · intro name after there
    obtain ⟨before,found,limit,-⟩ := tries_entry tries there
    rw [same,limit]
    exact held.bounded.tried name before found
  · intro name after there full
    obtain ⟨before,found,limit,kept⟩ := tries_entry tries there
    rw [same,limit] at full
    exact kept (held.bounded.invalidated name before found full)
  · intro name absent
    rw [same]
    apply held.counted
    cases found : d.stashes name with
    | none => rfl
    | some before =>
        obtain ⟨after,there,-⟩ := tries.stashes name before found
        rw [absent] at there
        cases there

theorem trigger_guessing {sessionId : String} {files : List FileEntry} {drawn : Nat} {nonce : Bytes} (held : Guessing d)
    (absent : d.stashes stashId = none) : Guessing (handleTrigger d stashId sessionId files drawn nonce) := by
  have same : ∀ name, (handleTrigger d stashId sessionId files drawn nonce).wrongCodes name = d.wrongCodes name := fun _ => rfl
  have zero := held.counted stashId absent
  refine ⟨⟨?_,?_,held.bounded.granted⟩,?_⟩
  · intro name entry there
    rw [same]
    simp only [handleTrigger] at there
    by_cases mine : name = stashId
    · subst name
      rw [zero]
      exact Nat.zero_le _
    · rw [Function.update_of_ne mine] at there
      exact held.bounded.tried name entry there
  · intro name entry there full
    rw [same] at full
    simp only [handleTrigger] at there
    by_cases mine : name = stashId
    · subst name
      rw [Function.update_self] at there
      cases there
      rw [zero] at full
      cases full
    · rw [Function.update_of_ne mine] at there
      exact held.bounded.invalidated name entry there full
  · intro name gone
    rw [same]
    simp only [handleTrigger] at gone
    by_cases mine : name = stashId
    · subst name
      exact zero
    · rw [Function.update_of_ne mine] at gone
      exact held.counted name gone

theorem event_guessing (held : Guessing d) (taken : shareEvent d event = some d') : Guessing d' := by
  cases event with
  | trigger stashId sessionId files drawn nonce =>
      simp only [shareEvent] at taken
      split at taken
      · rename_i absent
        cases taken
        exact trigger_guessing held (Option.isNone_iff_eq_none.mp absent)
      · cases taken
  | cancel stashId =>
      obtain ⟨entry,here,moved⟩ := Option.map_eq_some_iff.mp taken
      split at moved
      · cases moved; exact held
      · cases moved; exact update_guessing held here rfl fun _ => rfl
  | timer stashId =>
      obtain ⟨entry,here,moved⟩ := Option.bind_eq_some_iff.mp taken
      split at moved
      · cases moved
      · split at moved
        · cases moved; exact held
        · cases moved; exact update_guessing held here rfl fun _ => rfl
  | tick seconds => cases taken; exact ⟨⟨held.bounded.tried,held.bounded.invalidated,held.bounded.granted⟩,held.counted⟩

theorem guessing_stable : Stable guessing (stepShare code) shareEvent (fewerGuesses code) where
  own held _ few taken := ⟨⟨few_bounded held.bounded taken few,share_counted held.counted taken⟩,trivial⟩
  other _ _ _ _ _ _ _ _ := ⟨trivial,trivial,trivial⟩
  eventWorld := event_guessing
  eventThread _ _ _ _ := trivial

structure Starts {Index : Type*} (s : Pool Index Desktop ShareRequest) : Prop where
  stashes : ∀ stashId, s.world.stashes stashId = none
  attempts : s.world.attempts = []
  grants : s.world.grants = []

theorem starts_hold {Index : Type*} {s : Pool Index Desktop ShareRequest} (start : Starts s) : guessing.Hold s := by
  refine ⟨⟨⟨?_,?_,?_⟩,?_⟩,fun _ => trivial,fun _ _ _ => trivial⟩
  · intro stashId entry here
    rw [start.stashes stashId] at here
    cases here
  · intro stashId entry here
    rw [start.stashes stashId] at here
    cases here
  · intro grant member
    rw [start.grants] at member
    cases member
  · intro stashId _
    simp [Desktop.wrongCodes,start.attempts]

theorem guesses_bounded {Index : Type*} [DecidableEq Index] (code : PeerCode)
    {start next : Pool Index Desktop ShareRequest} (starts : Starts start)
    (path : Reaches (sharePool Index code) (fewerGuesses code).Admits start next) : Bounded next.world :=
  (hold_reaches guessing_stable (starts_hold starts) path).world.bounded

-- The runs that meet the condition are the runs through bounded states.
theorem bounded_runs {Index : Type*} [DecidableEq Index] {start next : Pool Index Desktop ShareRequest}
    (starts : Starts start) : Reaches (sharePool Index code) (fewerGuesses code).Admits start next ↔
      Reaches (sharePool Index code) (fun s move => ∀ after, (sharePool Index code).step s move = some after →
        Bounded after.world) start next := by
  constructor
  · intro path
    induction path with
    | refl => exact reaches_refl
    | tail before step ih =>
        obtain ⟨move,allowed,taken⟩ := step
        refine reaches_step ih (fun after taken' => ?_) taken
        have held := hold_reaches guessing_stable (starts_hold starts) (reaches_step before allowed taken')
        exact held.world.bounded
  · intro path
    induction path with
    | refl => exact reaches_refl
    | tail _ step ih =>
        obtain ⟨move,allowed,taken⟩ := step
        refine reaches_step ih ?_ taken
        cases move with
        | thread i input =>
            obtain ⟨world',thread',moved,rfl⟩ := thread_parts taken
            exact ⟨bounded_few moved (allowed _ taken),fun _ _ => trivial⟩
        | environment event => exact fun _ => trivial

instance (d : Desktop) (t : ShareRequest) (x : Outside) : Decidable ((fewerGuesses code).own d t x) :=
  inferInstanceAs (Decidable (fewGuesses code d t = true))
instance (d : Desktop) (t u : ShareRequest) (x : Outside) : Decidable ((fewerGuesses code).beside d t x u) :=
  inferInstanceAs (Decidable True)
instance (d : Desktop) (e : ShareEvent) (u : ShareRequest) : Decidable ((fewerGuesses code).event d e u) :=
  inferInstanceAs (Decidable True)

def noPeerCode : PeerCode := ⟨sampleCode,fun _ => none⟩

def sampleMessages (Index : Type*) (message : Index → ControlMessage) : Pool Index Desktop ShareRequest :=
  ⟨{},fun i => .message 0 (message i) .arrived⟩

theorem sampleMessages_start {Index : Type*} {message : Index → ControlMessage} : Starts (sampleMessages Index message) :=
  ⟨fun _ => rfl,rfl,rfl⟩

def guessedMessage (i : Fin 6) : ControlMessage :=
  if i = 5 then .manifest else if i = 4 then .auth (some "123456") else .auth (some "000000")

def sampleStash : ShareEvent := .trigger "stash-1" "1" [{content:=some "hello"}] 123456 [7]

def isManifest (request : ShareRequest) : Bool :=
  match request with
  | .message _ _ (.answered (.retrieved (.manifest _))) => true
  | _ => false

-- Four wrong codes, and the stash is still there for the right one.
theorem guesses_unbounded : ¬ ∀ (code : PeerCode) (start next : Pool (Fin 6) Desktop ShareRequest), Starts start →
    Reachable (sharePool (Fin 6) code) start next → Bounded next.world := by
  intro all
  obtain ⟨next,path,seen⟩ := checkedRun_exhibits (sharePool (Fin 6) noPeerCode) (fun _ _ => True)
    (sampleMessages (Fin 6) guessedMessage)
    ([.environment sampleStash] ++ [0,1,2,3,4,5].map fun i => .thread i {})
    (fun next => ((next.world.stashes "stash-1").any fun entry => entry.maxAttempts < next.world.wrongCodes "stash-1") &&
      isManifest (next.threads 5)) (by decide +kernel)
  simp only [Bool.and_eq_true] at seen
  obtain ⟨entry,here,passed⟩ := (Option.any_eq_true ..).mp seen.1
  have bounded := all noPeerCode _ next sampleMessages_start path
  exact absurd (bounded.tried "stash-1" entry here) (by simpa using passed)

def scannedMessage (i : Fin 3) : ControlMessage :=
  if i = 0 then .auth (some "000000") else if i = 1 then .auth (some "123456") else .manifest

theorem one_guess_bounded : ∃ next, Reaches (sharePool (Fin 3) noPeerCode) (fewerGuesses noPeerCode).Admits
    (sampleMessages (Fin 3) scannedMessage) next ∧ Bounded next.world ∧ next.world.wrongCodes "stash-1" = 1 ∧
    isManifest (next.threads 2) = true := by
  obtain ⟨next,path,seen⟩ := checkedRun_exhibits (sharePool (Fin 3) noPeerCode) (fewerGuesses noPeerCode).Admits
    (sampleMessages (Fin 3) scannedMessage) ([.environment sampleStash] ++ [0,1,2].map fun i => .thread i {})
    (fun next => next.world.wrongCodes "stash-1" = 1 && isManifest (next.threads 2)) (by decide +kernel)
  simp only [Bool.and_eq_true,decide_eq_true_eq] at seen
  exact ⟨next,path,guesses_bounded noPeerCode sampleMessages_start path,seen⟩

theorem one_guess_runs : ∃ next, Reaches (sharePool (Fin 3) noPeerCode) (fun s move => ∀ after,
    (sharePool (Fin 3) noPeerCode).step s move = some after → Bounded after.world)
    (sampleMessages (Fin 3) scannedMessage) next ∧ next.world.wrongCodes "stash-1" = 1 := by
  obtain ⟨next,path,seen⟩ := checkedRun_exhibits (sharePool (Fin 3) noPeerCode) (fewerGuesses noPeerCode).Admits
    (sampleMessages (Fin 3) scannedMessage) ([.environment sampleStash] ++ [0,1,2].map fun i => .thread i {})
    (fun next => next.world.wrongCodes "stash-1" = 1) (by decide +kernel)
  exact ⟨next,(bounded_runs sampleMessages_start).mp path,of_decide_eq_true seen⟩

end ImageSearch.GuessedCodes
