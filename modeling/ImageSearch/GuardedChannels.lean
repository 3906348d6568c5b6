import ImageSearch.DataChannels

namespace ImageSearch.GuardedChannels
open Payload TrustSessions DataChannels
open SharedStashes hiding handleAuth handleDownload

abbrev Delivery := Surroundings × Message

variable (py : Python)

def peerAfter (peer : WebRTCPeer) (deliveries : List Delivery) : WebRTCPeer :=
  deliveries.foldl (fun peer delivery => (onMessage py delivery.1 peer delivery.2).peer) peer

def authenticates (sessionId : String) (delivery : Delivery) : Bool :=
  match readControlMessage py delivery.2 with
  | .value (.object fields) =>
    match fields.lookup "msg" with
    | some (.string "auth") => verifies delivery.1.desktop sessionId ((fields.lookup "opt_code").getD (.string ""))
    | _ => false
  | _ => false

def packs (channelOpen : Bool) (index size : Nat) : Bool := index < fieldLimit && (!channelOpen || size ≤ fieldLimit)

def harmlessFile (s : Surroundings) (index : Nat) : FileStep → Bool
  | .refused _ => true
  | .inline content _ => packs s.channelOpen index content.toUTF8.data.toList.length
  | .reading _ =>
    match s.disk with
    | .probeRaised => false
    | .unreadable => true
    | .holds bytes => packs s.channelOpen index bytes.length

def harmlessDownload (s : Surroundings) (peer : WebRTCPeer) (index : Json) : Bool :=
  !peer.authenticated || (checkIndex py s.desktop peer.stashId index).any (harmlessFile s ((asInt index).getD 0).toNat)

-- The message is UTF-8, json.loads reads it as an object or null or reports that it is no JSON,
-- and a download that is let through asks for a file by an index that can be compared and used,
-- of at most four GiB.
def harmless (s : Surroundings) (peer : WebRTCPeer) (message : Message) : Bool :=
  match readControlMessage py message with
  | .raised => false
  | .decodeError | .value .null => true
  | .value (.object fields) =>
    match fields.lookup "msg" with
    | some (.string "download") => harmlessDownload py s peer ((fields.lookup "index").getD (.int 0))
    | _ => true
  | .value _ => false

variable {py} {s : Surroundings} {peer : WebRTCPeer} {message : Message} {fields : Fields} {bytes : Bytes} {index : Nat}

theorem closed_chunks (chunks offset : Nat) (small : offset < fieldLimit) :
    (sendChunks false index bytes (chunks + 1) offset).2 = true ↔ fieldLimit ≤ index := by
  unfold sendChunks
  by_cases big : fieldLimit ≤ index
  · simp [big]
  · simp [big,Nat.not_le.mpr small]

theorem huge_chunks (big : fieldLimit ≤ index) (channelOpen : Bool) (chunks offset : Nat) :
    (sendChunks channelOpen index bytes (chunks + 1) offset).2 = true := by
  unfold sendChunks
  rw [if_pos (Or.inl big)]

theorem open_chunks (small : index < fieldLimit) (chunks k : Nat) (within : (k + chunks) * maxMessageSize ≤ bytes.length) :
    (sendChunks true index bytes (chunks + 1) (k * maxMessageSize)).2 = true ↔ fieldLimit ≤ (k + chunks) * maxMessageSize := by
  induction chunks generalizing k with
  | zero =>
      unfold sendChunks
      by_cases late : fieldLimit ≤ k * maxMessageSize
      · simp [late]
      · simp [late,Nat.not_le.mpr small,sendChunks]
  | succ chunks ih =>
      unfold sendChunks
      by_cases late : fieldLimit ≤ k * maxMessageSize
      · have later : fieldLimit ≤ (k + (chunks + 1)) * maxMessageSize :=
          late.trans (Nat.mul_le_mul_right _ (by omega))
        simp only [late,or_true,if_true,later]
      · have full : ((bytes.drop (k * maxMessageSize)).take maxMessageSize).length = maxMessageSize := by
          rw [List.length_take,List.length_drop]
          unfold maxMessageSize at *
          omega
        have next : k * maxMessageSize + maxMessageSize = (k + 1) * maxMessageSize := by
          unfold maxMessageSize
          omega
        rw [if_neg (by simp [late,Nat.not_le.mpr small]),if_pos rfl]
        dsimp only
        have count : k + 1 + chunks = k + (chunks + 1) := by omega
        rw [full,next,ih (k + 1) (by rwa [count]),count]

theorem count_positive (size : Nat) : estimateChunkCount size = estimateChunkCount size - 1 + 1 := by
  unfold estimateChunkCount maxMessageSize
  split <;> omega

theorem count_bounds (size : Nat) : (estimateChunkCount size - 1) * maxMessageSize ≤ size ∧
    (fieldLimit ≤ (estimateChunkCount size - 1) * maxMessageSize ↔ fieldLimit < size) := by
  unfold estimateChunkCount maxMessageSize fieldLimit
  split <;> omega

theorem chunks_raise (channelOpen : Bool) (index : Nat) (bytes : Bytes) :
    (sendChunks channelOpen index bytes (estimateChunkCount bytes.length) 0).2 = !packs channelOpen index bytes.length := by
  have bounds := count_bounds bytes.length
  rw [count_positive,Bool.eq_iff_iff]
  unfold packs
  by_cases big : fieldLimit ≤ index
  · rw [huge_chunks big]
    simp [Nat.not_lt.mpr big]
  · cases channelOpen with
    | false =>
        rw [closed_chunks _ _ (by decide)]
        simp
    | true =>
        have started := open_chunks (Nat.not_le.mp big) (estimateChunkCount bytes.length - 1) 0 (by rw [Nat.zero_add]; exact bounds.1)
        rw [Nat.zero_mul,Nat.zero_add] at started
        rw [started,bounds.2]
        simp [Nat.not_le.mp big]

theorem file_raises (channelOpen : Bool) (index : Json) (bytes : Bytes) (file : FileEntry) :
    (sendFile channelOpen index bytes file).2 = !packs channelOpen ((asInt index).getD 0).toNat bytes.length := by
  rw [← chunks_raise]
  unfold sendFile
  dsimp only
  split
  · rename_i raised
    exact raised.symm
  · rename_i fine
    exact (Bool.not_eq_true _ ▸ fine).symm

theorem download_raises : (handleDownload py s peer fields).raised =
    !harmlessDownload py s peer ((fields.lookup "index").getD (.int 0)) := by
  unfold handleDownload harmlessDownload
  generalize (fields.lookup "index").getD (.int 0) = index
  dsimp only
  cases peer.authenticated with
  | false => rfl
  | true =>
      simp only [if_true,Bool.not_true,Bool.false_or]
      cases checkIndex py s.desktop peer.stashId index with
      | none => rfl
      | some step =>
          cases step with
          | refused status => rfl
          | inline content file => exact file_raises s.channelOpen index _ file
          | reading file =>
              simp only [Option.any_some,harmlessFile]
              cases s.disk with
              | probeRaised => rfl
              | unreadable => rfl
              | holds bytes => exact file_raises s.channelOpen index bytes file

theorem manifest_quiet : (handleManifest s peer).raised = false := by
  unfold handleManifest authRequired
  split
  · split <;> rfl
  · rfl

theorem auth_quiet : (handleAuth s peer fields).raised = false := by
  unfold handleAuth
  split <;> rfl

theorem message_raises : (onMessage py s peer message).raised = !harmless py s peer message := by
  unfold onMessage harmless
  cases readControlMessage py message with
  | raised => rfl
  | decodeError => rfl
  | value json =>
      cases json with
      | null => rfl
      | object fields =>
          dsimp only
          split
          · rename_i kind
            simp only [kind]
            exact auth_quiet
          · rename_i kind
            simp only [kind]
            exact manifest_quiet
          · rename_i kind
            simp only [kind]
            exact download_raises
          · rename_i other
            split
            · rename_i kind
              exact absurd kind other
            · rfl
      | _ => rfl

theorem control_quiet {ok : Bool} {frame sent : Frame} (quiet : frame.carriesData = false) (member : sent ∈ sendControl ok frame) :
    sent.carriesData = false := by
  unfold sendControl at member
  split at member
  · rw [List.mem_singleton.mp member]
    exact quiet
  · cases member

theorem unauthenticated_quiet {frame : Frame} (fresh : peer.authenticated = false) (sent : frame ∈ (onMessage py s peer message).sent) :
    frame.carriesData = false := by
  unfold onMessage at sent
  split at sent
  · cases sent
  · cases sent
  · cases sent
  · split at sent
    · unfold handleAuth at sent
      split at sent
      · exact control_quiet rfl sent
      · exact control_quiet rfl sent
    · unfold handleManifest at sent
      rw [fresh] at sent
      exact control_quiet rfl sent
    · unfold handleDownload at sent
      rw [fresh] at sent
      exact control_quiet rfl sent
    · cases sent
  · cases sent

theorem auth_peer : (handleAuth s peer fields).peer = {peer with
    authenticated:=peer.authenticated || verifies s.desktop peer.sessionId ((fields.lookup "opt_code").getD (.string ""))} := by
  unfold handleAuth
  split
  · rename_i right
    simp [right]
  · rename_i wrong
    simp [wrong]

theorem manifest_peer : (handleManifest s peer).peer = peer := by
  unfold handleManifest authRequired
  split
  · split <;> rfl
  · rfl

theorem download_peer : (handleDownload py s peer fields).peer = peer := by
  unfold handleDownload authRequired
  dsimp only
  split
  · split
    · rfl
    · rfl
    · rfl
    · split <;> rfl
  · rfl

-- The flag is set by an 'auth' with the session's code alone, and nothing else of the peer changes.
theorem message_peer : (onMessage py s peer message).peer =
    {peer with authenticated:=peer.authenticated || authenticates py peer.sessionId (s,message)} := by
  unfold onMessage authenticates
  cases readControlMessage py message with
  | raised => simp
  | decodeError => simp
  | value json =>
      cases json with
      | object fields =>
          dsimp only
          split
          · rename_i kind
            simp only [kind]
            exact auth_peer
          · rename_i kind
            rw [manifest_peer]
            simp [kind]
          · rename_i kind
            rw [download_peer]
            simp [kind]
          · rename_i other _ _
            split
            · rename_i kind
              exact absurd kind other
            · simp
      | _ => simp

theorem after_peer (peer : WebRTCPeer) (deliveries : List Delivery) : peerAfter py peer deliveries =
    {peer with authenticated:=peer.authenticated || deliveries.any (authenticates py peer.sessionId)} := by
  unfold peerAfter
  induction deliveries generalizing peer with
  | nil => simp
  | cons delivery rest ih =>
      rw [List.foldl_cons,ih,message_peer]
      simp [Bool.or_assoc]

def smallPython : Python where
  loads text :=
    if text = "\x7b\"msg\": \"auth\", \"opt_code\": \"123456\"\x7d" then
      .value (.object [("msg",.string "auth"),("opt_code",.string "123456")])
    else .decodeError
  dumps _ := ""
  format _ := ""
  floatOutside _ _ := false

def quietDesktop : Surroundings := ⟨{},true,.unreadable⟩

end ImageSearch.GuardedChannels
