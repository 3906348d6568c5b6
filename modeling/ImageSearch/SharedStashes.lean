import ImageSearch.TrustSessions

namespace ImageSearch.SharedStashes
open Payload Transitions Threads TrustSessions

def optCodeTtlSeconds : Nat := 300
def maxClaimAttempts : Nat := 3

structure FileEntry where
  filePath : String := ""
  filename : Option String := none
  contentType : String := "application/octet-stream"
  sizeBytes : Nat := 0
  content : Option String := none
  deriving DecidableEq, Repr

def FileEntry.entryType (entry : FileEntry) : String :=
  match entry.content with
  | some _ =>
    if entry.contentType = "text/html" then "html"
    else if entry.contentType = "text/uri-list" then "link" else "text"
  | none => "file"

-- Nothing reads or writes `attemptCount` and `maxAttempts` after the entry is made.
structure StashEntry where
  files : List FileEntry
  optCode : String
  createdAt : Nat
  expiresAt : Nat
  attemptCount : Nat := 0
  maxAttempts : Nat := maxClaimAttempts
  claimed : Bool := false
  expired : Bool := false
  deriving DecidableEq, Repr

def StashEntry.invalidate (entry : StashEntry) : StashEntry := {entry with expired:=true,claimed:=false}

def StashEntry.claim (entry : StashEntry) : StashEntry := {entry with claimed:=true}

def generateOptCode (drawn : Nat) : String :=
  String.ofList ([drawn / 100000 % 10,drawn / 10000 % 10,drawn / 1000 % 10,drawn / 100 % 10,drawn / 10 % 10,drawn % 10].map
    Nat.digitChar)

structure ManifestItem where
  index : Nat
  type : String
  contentType : String
  content : Option String
  filename : String
  sizeBytes : Nat
  deriving DecidableEq, Repr

def manifestItem (entry : FileEntry) (index : Nat) : ManifestItem :=
  match entry.content with
  | some content => ⟨index,entry.entryType,entry.contentType,some content,"",0⟩
  | none => ⟨index,entry.entryType,entry.contentType,none,entry.filename.getD "",entry.sizeBytes⟩

inductive Retrieved where
  | manifest (files : List ManifestItem)
  | file (bytes : Bytes) (contentType filename : String)
  | refused (status : Nat)
  deriving DecidableEq, Repr

-- One WebRTCPeer for each stash; it asks the registry by the id of its session.
structure WebRTCPeer where
  sessionId : String
  stashId : String
  authenticated : Bool := false
  deriving DecidableEq, Repr

-- Ghost: a code compared with that of a session, and whether the stash of the session
-- stood then; and a retrieval that was let through, and whether its stash stood.
structure Attempt where
  stashId : String
  optCode : String
  right : Bool
  standing : Bool
  deriving DecidableEq, Repr

structure Grant where
  stashId : String
  standing : Bool
  deriving DecidableEq, Repr

-- A six-digit code, and not the session's, while the stash stood.
def Attempt.wrong (attempt : Attempt) : Bool :=
  attempt.standing && !attempt.right && attempt.optCode.toList.length = 6 && attempt.optCode.toList.all Char.isDigit

structure Desktop where
  registry : Registry := {}
  stashes : String → Option StashEntry := fun _ => none
  peers : List WebRTCPeer := []
  clock : Nat := 0
  attempts : List Attempt := []
  grants : List Grant := []

namespace Desktop

def standing (d : Desktop) (stashId : String) : Bool := (d.stashes stashId).any fun entry => !entry.expired

def wrongCodes (d : Desktop) (stashId : String) : Nat :=
  d.attempts.countP fun attempt => attempt.stashId = stashId && attempt.wrong

def update (d : Desktop) (stashId : String) (entry : StashEntry) : Desktop :=
  {d with stashes:=Function.update d.stashes stashId (some entry)}

def tries (d : Desktop) (stashId : Option String) (optCode : String) (right : Bool) : Desktop :=
  match stashId with
  | some stashId => {d with attempts:=d.attempts ++ [⟨stashId,optCode,right,d.standing stashId⟩]}
  | none => d

def grant (d : Desktop) (stashId : String) : Desktop :=
  {d with grants:=d.grants ++ [⟨stashId,d.standing stashId⟩]}

end Desktop

-- What retrieve_stash_file does next once its checks let it through.
inductive FileStep where
  | refused (status : Nat)
  | inline (content : String) (entry : FileEntry)
  | reading (entry : FileEntry)
  deriving DecidableEq, Repr

def retrieveStashContent (d : Desktop) (stashId : String) : Desktop × Retrieved :=
  match d.stashes (strip stashId) with
  | none => (d,.refused 404)
  | some entry =>
    if entry.expired || entry.claimed then (d,.refused 410)
    else if entry.expiresAt < d.clock then (d.update (strip stashId) entry.invalidate,.refused 410)
    else if entry.files = [] then (d,.refused 500)
    else (d.grant (strip stashId),.manifest (entry.files.zipIdx.map fun file => manifestItem file.1 file.2))

def checkStashFile (d : Desktop) (stashId : String) (fileIndex : Int) : FileStep :=
  match d.stashes (strip stashId) with
  | none => .refused 404
  | some entry =>
    if entry.expired then .refused 410
    else if entry.files = [] || fileIndex < 0 then .refused 400
    else
      match entry.files[fileIndex.toNat]? with
      | none => .refused 400
      | some file => file.content.elim (.reading file) fun content => .inline content file

-- The first file that is fetched claims the stash; what cannot be read invalidates it.
def claimStash (d : Desktop) (stashId : String) : Desktop :=
  (d.stashes (strip stashId)).elim d fun entry => d.update (strip stashId) entry.claim

def loseStash (d : Desktop) (stashId : String) : Desktop :=
  (d.stashes (strip stashId)).elim d fun entry => d.update (strip stashId) entry.invalidate

inductive TransferKind where
  | text
  | image
  | manifest
  | download (fileIndex : Int)
  deriving DecidableEq, Repr

-- ECDSA is ideal: a signature names the key pair it was made with and what it signs.
structure SessionSignature where
  publicKey : Nat
  sessionId : String
  deriving DecidableEq, Repr

-- The signature headers; `some none` is a text that is no base64 or no signature.
structure TransferRequest where
  kind : TransferKind
  sessionId : String
  peerDeviceId : String
  signature : Option (Option SessionSignature)
  algorithm : String
  deriving DecidableEq, Repr

inductive TransferAnswer where
  | delivered
  | retrieved (result : Retrieved)
  | failed (code : ErrorCode)
  | raised
  deriving DecidableEq, Repr

inductive TransferStage where
  | arrived
  | loading
  | verified (certificatePem : String)
  | unregistered (certificatePem : String)
  | found (certificatePem : String) (session : Nat)
  | trusted (certificatePem : String) (session : Nat)
  | reading (certificatePem : String) (session : Nat) (stashId : String) (entry : FileEntry)
  | served (certificatePem : String) (session : Nat) (answer : TransferAnswer)
  | answered (answer : TransferAnswer)
  deriving DecidableEq, Repr

inductive ControlMessage where
  | auth (optCode : Option String)
  | manifest
  | download (index : Int)
  | other
  deriving DecidableEq, Repr

inductive ControlAnswer where
  | authOk
  | authError
  | authRequired
  | retrieved (result : Retrieved)
  | none
  deriving DecidableEq, Repr

inductive MessageStage where
  | arrived
  | reading (stashId : String) (entry : FileEntry)
  | answered (answer : ControlAnswer)
  deriving DecidableEq, Repr

inductive ShareRequest where
  | trust (t : TrustRequest)
  | transfer (request : TransferRequest) (stage : TransferStage)
  | message (peer : Nat) (message : ControlMessage) (stage : MessageStage)
  deriving DecidableEq, Repr

-- With the public key of a certificate, none where it does not parse or is no EC key.
structure PeerCode extends Outlying where
  publicKey : String → Option Nat

variable (code : PeerCode)

def verifySessionSignature (certificatePem : String) (request : TransferRequest) : Bool :=
  (code.publicKey certificatePem).any fun publicKey => request.signature = some (some ⟨publicKey,request.sessionId⟩)

def extractSignatureHeaders (request : TransferRequest) : TransferStage :=
  if request.sessionId = "" || request.peerDeviceId = "" || request.signature.isNone || request.algorithm = "" then
    .answered (.failed .invalidRequest)
  else if request.algorithm ≠ "ecdsa-sha256" then .answered (.failed .sessionSignatureInvalid)
  else .loading

def serveStash (d : Desktop) (certificatePem : String) (i : Nat) (stashId : String) (kind : TransferKind) :
    Desktop × TransferStage :=
  match kind with
  | .download fileIndex =>
    match checkStashFile d stashId fileIndex with
    | .refused status => (d,.served certificatePem i (.retrieved (.refused status)))
    | .inline content entry => (claimStash (d.grant (strip stashId)) stashId,
        .served certificatePem i (.retrieved (.file content.toUTF8.data.toList entry.contentType (entry.filename.getD ""))))
    | .reading entry => (d.grant (strip stashId),.reading certificatePem i stashId entry)
  | _ =>
    let result := retrieveStashContent d stashId
    (result.1,.served certificatePem i (.retrieved result.2))

def stepTransfer (d : Desktop) (request : TransferRequest) (stage : TransferStage) (outside : Outside) :
    Option (Desktop × TransferStage) :=
  match stage with
  | .arrived => some (d,extractSignatureHeaders request)
  | .loading => some (d,
      match d.registry.keychain request.peerDeviceId with
      | none => .answered (.failed .trustedKeyNotFound)
      | some certificatePem =>
        if verifySessionSignature code certificatePem request then .verified certificatePem
        else .answered (.failed .sessionSignatureInvalid))
  | .verified certificatePem => some (d,
      match d.registry.sessions request.sessionId with
      | some i => .found certificatePem i
      | none =>
        match request.kind with
        | .text | .image => .unregistered certificatePem
        | .manifest | .download _ => .answered (.failed .sessionNotFound))
  -- _try_create_revisit_session: no trust session, the signature alone admits it.
  | .unregistered _ => some (d,.answered (if outside.returns then .delivered else .failed .sessionNotFound))
  | .found certificatePem i => (d.registry.objects i).map fun session =>
      (d,if session.isTrusted then .trusted certificatePem i else .answered (.failed .trustRequired))
  | .trusted certificatePem i => (d.registry.objects i).map fun session =>
      match request.kind,session.stashId with
      | .text,_ | .image,_ => (d,.served certificatePem i (if outside.returns then .delivered else .raised))
      | _,none => (d,.served certificatePem i (.failed .invalidRequest))
      | kind,some stashId => serveStash d certificatePem i stashId kind
  | .reading certificatePem i stashId entry =>
      if outside.returns then
        some (claimStash d stashId,
          .served certificatePem i (.retrieved (.file outside.contents entry.contentType (entry.filename.getD ""))))
      else some (loseStash d stashId,.served certificatePem i (.retrieved (.refused 404)))
  | .served _ _ _ | .answered _ => none

-- _handle_auth. The code of a session object never changes, so the lookup decides.
def handleAuth (d : Desktop) (p : Nat) (peer : WebRTCPeer) (optCode : Option String) : Desktop × ControlAnswer :=
  match (d.registry.sessions peer.sessionId).bind d.registry.objects,optCode with
  | some session,some optCode =>
    let right := session.verifyOpt optCode
    let d := d.tries session.stashId optCode right
    if right then ({d with peers:=d.peers.set p {peer with authenticated:=true}},.authOk) else (d,.authError)
  | _,_ => (d,.authError)

def handleDownload (d : Desktop) (stashId : String) (index : Int) : Desktop × MessageStage :=
  match checkStashFile d stashId index with
  | .refused status => (d,.answered (.retrieved (.refused status)))
  | .inline content entry => (claimStash (d.grant (strip stashId)) stashId,
      .answered (.retrieved (.file content.toUTF8.data.toList entry.contentType (entry.filename.getD ""))))
  | .reading entry => (d.grant (strip stashId),.reading stashId entry)

def stepMessage (d : Desktop) (p : Nat) (message : ControlMessage) (stage : MessageStage) (outside : Outside) :
    Option (Desktop × MessageStage) :=
  match stage with
  | .arrived => d.peers[p]?.map fun peer =>
      match message with
      | .auth optCode =>
        let result := handleAuth d p peer optCode
        (result.1,.answered result.2)
      | .manifest =>
        if peer.authenticated then
          let result := retrieveStashContent d peer.stashId
          (result.1,.answered (.retrieved result.2))
        else (d,.answered .authRequired)
      | .download index =>
        if peer.authenticated then handleDownload d peer.stashId index else (d,.answered .authRequired)
      | .other => (d,.answered .none)
  | .reading stashId entry =>
      if outside.returns then
        some (claimStash d stashId,
          .answered (.retrieved (.file outside.contents entry.contentType (entry.filename.getD ""))))
      else some (loseStash d stashId,.answered (.retrieved (.refused 404)))
  | .answered _ => none

-- The code a confirm's proof was made with, where verify_pairing_auth compares it.
def provenCode (d : Desktop) : TrustRequest → Option (Option String × String × Bool)
  | .confirm _ _ _ (.named o) => do
    let session ← d.registry.objects o.session
    let auth ← (← o.payload.pairingAuth)
    let _ ← session.verifyPairingAuth code.exchanges (some auth)
    some (session.stashId,auth.shortSecret,session.verifyOpt auth.shortSecret)
  | _ => none

def stepShare (d : Desktop) (t : ShareRequest) (outside : Outside) : Option (Desktop × ShareRequest) :=
  match t with
  | .trust t => (stepTrust code.toOutlying d.registry t outside).map fun next =>
      let d' := (provenCode code d t).elim d fun tried => d.tries tried.1 tried.2.1 tried.2.2
      ({d' with registry:=next.1},.trust next.2)
  | .transfer request stage =>
      (stepTransfer code d request stage outside).map fun next => (next.1,.transfer request next.2)
  | .message p message stage => (stepMessage d p message stage outside).map fun next => (next.1,.message p message next.2)

inductive ShareEvent where
  | trigger (stashId sessionId : String) (files : List FileEntry) (drawn : Nat) (nonce : Bytes)
  | cancel (stashId : String)
  | timer (stashId : String)
  | tick (seconds : Nat)
  deriving DecidableEq, Repr

-- The stash, its session and its peer; nobody else knows the new id (a uuid4) before.
def handleTrigger (d : Desktop) (stashId sessionId : String) (files : List FileEntry) (drawn : Nat) (nonce : Bytes) :
    Desktop :=
  let optCode := generateOptCode drawn
  {d with
    stashes:=Function.update d.stashes stashId (some ⟨files,optCode,d.clock,d.clock + optCodeTtlSeconds,0,maxClaimAttempts,false,false⟩)
    registry:=triggerSession d.registry ⟨sessionId,optCode,stashId,nonce⟩
    peers:=d.peers ++ [⟨sessionId,stashId,false⟩]}

-- A timer that was cancelled would find the stash claimed or expired already.
def shareEvent (d : Desktop) : ShareEvent → Option Desktop
  | .trigger stashId sessionId files drawn nonce =>
      if (d.stashes stashId).isNone then some (handleTrigger d stashId sessionId files drawn nonce) else none
  | .cancel stashId => (d.stashes stashId).map fun entry =>
      if entry.claimed || entry.expired then d else d.update stashId entry.invalidate
  | .timer stashId => (d.stashes stashId).bind fun entry =>
      if d.clock < entry.createdAt + optCodeTtlSeconds then none
      else some (if entry.claimed then d else d.update stashId {entry with expired:=true})
  | .tick seconds => some {d with clock:=d.clock + seconds}

def sharePool (Index : Type*) [DecidableEq Index] (code : PeerCode) :
    System (Pool Index Desktop ShareRequest) (Move Index Outside ShareEvent) :=
  pool (stepShare code) shareEvent

variable {code : PeerCode} {d d' : Desktop} {outside : Outside} {stashId : String}

-- What a retrieval does to the desktop: a grant is of a stash that stands, and no stash is
-- taken back once it has expired.
structure Retrieves (d d' : Desktop) : Prop where
  registry : d'.registry = d.registry
  attempts : d'.attempts = d.attempts
  peers : d'.peers = d.peers
  grants : ∀ grant ∈ d'.grants, grant ∈ d.grants ∨ grant.standing = true
  stashes : ∀ stashId entry, d.stashes stashId = some entry → ∃ next, d'.stashes stashId = some next ∧
    next.maxAttempts = entry.maxAttempts ∧ (entry.expired = true → next.expired = true)
  unknown : ∀ stashId, d.stashes stashId = none → d'.stashes stashId = none

theorem retrieves_refl : Retrieves d d :=
  ⟨rfl,rfl,rfl,fun _ member => .inl member,fun _ entry here => ⟨entry,here,rfl,id⟩,fun _ here => here⟩

theorem update_retrieves {entry next : StashEntry} (here : d.stashes stashId = some entry)
    (maxAttempts : next.maxAttempts = entry.maxAttempts) (expired : entry.expired = true → next.expired = true) :
    Retrieves d (d.update stashId next) := by
  refine ⟨rfl,rfl,rfl,fun _ member => .inl member,?_,?_⟩
  · intro other old there
    simp only [Desktop.update]
    by_cases same : other = stashId
    · subst other
      obtain rfl := Option.some.inj (here.symm.trans there)
      exact ⟨next,Function.update_self ..,maxAttempts,expired⟩
    · exact ⟨old,by rw [Function.update_of_ne same]; exact there,rfl,id⟩
  · intro other absent
    simp only [Desktop.update]
    by_cases same : other = stashId
    · subst other
      rw [here] at absent
      cases absent
    · rw [Function.update_of_ne same]
      exact absent

theorem claim_retrieves : Retrieves d (claimStash d stashId) := by
  unfold claimStash
  cases here : d.stashes (strip stashId) with
  | none => exact retrieves_refl
  | some entry => exact update_retrieves here rfl id

theorem lose_retrieves : Retrieves d (loseStash d stashId) := by
  unfold loseStash
  cases here : d.stashes (strip stashId) with
  | none => exact retrieves_refl
  | some entry => exact update_retrieves here rfl fun _ => rfl

theorem grant_retrieves (standing : d.standing stashId = true) : Retrieves d (d.grant stashId) := by
  refine ⟨rfl,rfl,rfl,?_,fun _ entry here => ⟨entry,here,rfl,id⟩,fun _ here => here⟩
  intro grant member
  rcases List.mem_append.mp member with old | new
  · exact .inl old
  · obtain rfl := List.mem_singleton.mp new
    exact .inr standing

theorem granted_claim_retrieves {other : String} (standing : d.standing stashId = true) :
    Retrieves d (claimStash (d.grant stashId) other) := by
  have granted := grant_retrieves standing
  have claimed : Retrieves (d.grant stashId) (claimStash (d.grant stashId) other) := claim_retrieves
  refine ⟨claimed.registry,claimed.attempts,claimed.peers,?_,?_,fun name here => claimed.unknown name here⟩
  · intro grant member
    rcases claimed.grants grant member with old | stood
    · exact granted.grants grant old
    · exact .inr stood
  · exact fun name entry here => claimed.stashes name entry here

theorem content_retrieves : Retrieves d (retrieveStashContent d stashId).1 := by
  unfold retrieveStashContent
  cases here : d.stashes (strip stashId) with
  | none => exact retrieves_refl
  | some entry =>
      dsimp only
      split
      · exact retrieves_refl
      · rename_i open_
        split
        · exact update_retrieves here rfl fun _ => rfl
        · split
          · exact retrieves_refl
          · apply grant_retrieves
            simp only [Bool.or_eq_true,not_or,Bool.not_eq_true] at open_
            simp [Desktop.standing,here,open_.1]

theorem checked_standing {index : Int} (through : ∀ status, checkStashFile d stashId index ≠ .refused status) :
    d.standing (strip stashId) = true := by
  cases here : d.stashes (strip stashId) with
  | none => exact (through 404 (by simp [checkStashFile,here])).elim
  | some entry =>
      cases expired : entry.expired with
      | true => exact (through 410 (by simp [checkStashFile,here,expired])).elim
      | false => simp [Desktop.standing,here,expired]

theorem serve_retrieves {certificatePem : String} {i : Nat} {kind : TransferKind} :
    Retrieves d (serveStash d certificatePem i stashId kind).1 := by
  cases kind with
  | download index =>
      simp only [serveStash]
      split
      · exact retrieves_refl
      · rename_i through
        exact granted_claim_retrieves (checked_standing fun status refused => nomatch through.symm.trans refused)
      · rename_i through
        exact grant_retrieves (checked_standing fun status refused => nomatch through.symm.trans refused)
  | text | image | manifest => exact content_retrieves

theorem transfer_retrieves {request : TransferRequest} {stage stage' : TransferStage}
    (taken : stepTransfer code d request stage outside = some (d',stage')) : Retrieves d d' := by
  cases stage with
  | arrived | loading | verified | unregistered => cases taken; exact retrieves_refl
  | found certificatePem i =>
      obtain ⟨session,-,moved⟩ := Option.map_eq_some_iff.mp taken
      cases moved
      exact retrieves_refl
  | trusted certificatePem i =>
      obtain ⟨session,-,moved⟩ := Option.map_eq_some_iff.mp taken
      split at moved
      · cases moved; exact retrieves_refl
      · cases moved; exact retrieves_refl
      · cases moved; exact retrieves_refl
      · have same := congrArg Prod.fst moved
        dsimp only at same
        rw [← same]
        exact serve_retrieves
  | reading certificatePem i stashId entry =>
      simp only [stepTransfer] at taken
      split at taken
      · cases taken; exact claim_retrieves
      · cases taken; exact lose_retrieves
  | served | answered => cases taken

-- A message retrieves, or tries a code against the session its peer's id is registered for.
theorem message_moved {p : Nat} {message : ControlMessage} {stage stage' : MessageStage}
    (taken : stepMessage d p message stage outside = some (d',stage')) :
    Retrieves d d' ∨ ∃ peer session optCode peers, d.peers[p]? = some peer ∧ message = .auth (some optCode) ∧ stage = .arrived ∧
      (d.registry.sessions peer.sessionId).bind d.registry.objects = some session ∧
      d' = {d.tries session.stashId optCode (session.verifyOpt optCode) with peers:=peers} := by
  cases stage with
  | arrived =>
      obtain ⟨peer,here,moved⟩ := Option.map_eq_some_iff.mp taken
      cases message with
      | auth optCode =>
          have same := congrArg Prod.fst moved
          dsimp only [handleAuth] at same
          rw [← same]
          split
          · rename_i session optCode found
            refine .inr ⟨peer,session,optCode,?_⟩
            split
            · exact ⟨_,here,rfl,rfl,found,rfl⟩
            · refine ⟨d.peers,here,rfl,rfl,found,?_⟩
              unfold Desktop.tries
              split <;> rfl
          · exact .inl retrieves_refl
      | manifest =>
          refine .inl ?_
          dsimp only at moved
          split at moved
          · have same := congrArg Prod.fst moved
            dsimp only at same
            rw [← same]
            exact content_retrieves
          · cases moved; exact retrieves_refl
      | download index =>
          refine .inl ?_
          dsimp only at moved
          split at moved
          · have same := congrArg Prod.fst moved
            dsimp only [handleDownload] at same
            rw [← same]
            split
            · exact retrieves_refl
            · rename_i through
              exact granted_claim_retrieves (checked_standing fun status refused => nomatch through.symm.trans refused)
            · rename_i through
              exact grant_retrieves (checked_standing fun status refused => nomatch through.symm.trans refused)
          · cases moved; exact retrieves_refl
      | other => cases moved; exact .inl retrieves_refl
  | reading stashId entry =>
      simp only [stepMessage] at taken
      split at taken
      · cases taken; exact .inl claim_retrieves
      · cases taken; exact .inl lose_retrieves
  | answered => cases taken

theorem tries_registry {tried : Option String} {optCode : String} {right : Bool} :
    (d.tries tried optCode right).registry = d.registry := by
  unfold Desktop.tries
  split <;> rfl

theorem message_registry {p : Nat} {message : ControlMessage} {stage stage' : MessageStage}
    (taken : stepMessage d p message stage outside = some (d',stage')) : d'.registry = d.registry := by
  rcases message_moved taken with retrieves | ⟨peer,session,optCode,peers,-,-,-,-,rfl⟩
  · exact retrieves.registry
  · exact tries_registry

end ImageSearch.SharedStashes
