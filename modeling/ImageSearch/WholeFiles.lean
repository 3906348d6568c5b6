import ImageSearch.FileExchanges

namespace ImageSearch.WholeFiles
open Payload Transitions FileStashes DataChannels WebTransfers SentFiles PageTransfers FileExchanges
open SharedStashes hiding handleAuth handleDownload

variable (code : Languages) (contents : String → Bytes)

section Sending
variable {code contents} {optCode : String} {files : List FileEntry} {peer : WebRTCPeer} {e : Exchange} {d : Desktop} {disk : Disk}
  {k : Nat} {file : FileEntry} {index : Nat} {bytes : Bytes} {entry : StashEntry} {message : Message}

theorem request_read (speaks : Speaks code contents optCode files) {effect : Effect} (known : effect ∈ requests optCode files)
    (asked : encodeRequest code effect = some message) {json : Json} (written : requestJson effect = some json) :
    readControlMessage code.toPython message = .value json := by
  unfold encodeRequest at asked
  rw [written] at asked
  obtain rfl := Option.some.inj asked
  exact speaks.requests effect known json written

theorem auth_answered (speaks : Speaks code contents optCode files) (right : verifies d peer.sessionId (.string optCode) = true)
    (asked : encodeRequest code (.auth optCode) = some message) :
    onMessage code.toPython ⟨d,true,disk⟩ peer message =
      ⟨d,{peer with authenticated:=true},[.authOk (payloadType d peer.stashId)],false⟩ := by
  have read := request_read speaks (by unfold requests; simp) asked rfl
  unfold onMessage
  rw [read]
  change handleAuth _ _ _ = _
  unfold handleAuth
  change (if verifies d peer.sessionId (.string optCode) = true then _ else _) = _
  rw [if_pos right]
  rfl

theorem manifest_answered (speaks : Speaks code contents optCode files) (known : peer.authenticated = true) (some_file : files ≠ [])
    (stashed : d.stashes (strip peer.stashId) = some entry) (same : entry.files = files) (fresh : entry.expired = false)
    (unclaimed : entry.claimed = false) (timely : ¬entry.expiresAt < d.clock) (asked : encodeRequest code .manifest = some message) :
    onMessage code.toPython ⟨d,true,disk⟩ peer message = ⟨d.grant (strip peer.stashId),peer,[manifestFrame files],false⟩ := by
  have read := request_read speaks (by unfold requests; simp) asked rfl
  have retrieved : retrieveStashContent d peer.stashId =
      (d.grant (strip peer.stashId),.manifest (files.zipIdx.map fun file => manifestItem file.1 file.2)) := by
    unfold retrieveStashContent
    rw [stashed]
    simp only [fresh,unclaimed,timely,same,some_file,Bool.or_self,Bool.false_eq_true,if_false]
  unfold onMessage
  rw [read]
  change handleManifest _ _ = _
  unfold handleManifest
  rw [if_pos known,retrieved]
  rfl

theorem file_checked {stashId : String} (here : files[k]? = some file) (on_disk : file.content = none)
    (stashed : d.stashes (strip stashId) = some entry) (same : entry.files = files) (fresh : entry.expired = false) :
    checkStashFile d stashId k = .reading file := by
  have nonempty : files ≠ [] := by
    rintro rfl
    cases here
  unfold checkStashFile
  rw [stashed]
  simp only [fresh,same,nonempty,Bool.false_eq_true,if_false,decide_false,Bool.false_or]
  rw [if_neg (by simp),Int.toNat_natCast,here]
  dsimp only
  rw [on_disk]
  rfl

theorem download_answered (speaks : Speaks code contents optCode files) (known : peer.authenticated = true)
    (here : files[k]? = some file) (on_disk : file.content = none) (stashed : d.stashes (strip peer.stashId) = some entry)
    (same : entry.files = files) (fresh : entry.expired = false) (asked : encodeRequest code (.download k) = some message) :
    let handled := onMessage code.toPython ⟨d,true,readable code contents d peer.stashId message⟩ peer message
    handled.peer = peer ∧ handled.sent = (sendFile true (.int k) (contents file.filePath) file).1 := by
  have bound := (List.getElem?_eq_some_iff.mp here).1
  have member : Effect.download k ∈ requests optCode files := by
    unfold requests
    apply List.mem_append_right
    exact List.mem_map.mpr ⟨k,List.mem_range.mpr bound,rfl⟩
  have read := request_read speaks member asked rfl
  have checked : checkIndex code.toPython d peer.stashId (.int k) = some (.reading file) :=
    congrArg some (file_checked here on_disk stashed same fresh)
  have index : (List.lookup "index" [("msg",Json.string "download"),("index",.int k)]).getD (.int 0) = .int k := rfl
  have disk : readable code contents d peer.stashId message = .holds (contents file.filePath) := by
    unfold readable
    rw [read]
    dsimp only
    rw [index,checked]
  have done : onMessage code.toPython ⟨d,true,.holds (contents file.filePath)⟩ peer message =
      ⟨claimStash d peer.stashId,peer,(sendFile true (.int k) (contents file.filePath) file).1,
        (sendFile true (.int k) (contents file.filePath) file).2⟩ := by
    unfold onMessage
    rw [read]
    change handleDownload _ _ _ _ = _
    unfold handleDownload
    rw [if_pos known]
    rw [index,checked]
  dsimp only
  rw [disk,done]
  exact ⟨rfl,rfl⟩

end Sending

def under (peer : WebRTCPeer) (t : Transfer) (up : List Effect) (down : List Frame) : Exchange :=
  ⟨{peer with authenticated:=true},t,up.filterMap (encodeRequest code),down.map (encodeFrame code)⟩

section Steps
variable {code contents} {optCode payloadType : String} {files : List FileEntry} {peer : WebRTCPeer} {d : Desktop} {t t' : Transfer}
  {k : Nat} {file : FileEntry} {up : List Effect} {down : List Frame} {frame : Frame} {effect : Effect}

theorem page_step (ready : t.channelOpen = true) (handled : handleMessage code t (encodeFrame code frame) = (t',up)) :
    step code contents (under code peer t [] (frame :: down)) .page = some (under code peer t' up down) := by
  unfold step under
  rw [List.map_cons]
  dsimp only
  rw [if_pos ready,handled]
  rfl

theorem desktop_step (known : (requestJson effect).isSome = true)
    (handled : ∀ message, encodeRequest code effect = some message →
      let handled := onMessage code.toPython ⟨d,true,readable code contents d peer.stashId message⟩ {peer with authenticated:=true} message
      handled.peer = {peer with authenticated:=true} ∧ handled.sent = down) :
    step code contents (under code peer t [effect] []) (.desktop d) = some (under code peer t [] down) := by
  obtain ⟨json,written⟩ := Option.isSome_iff_exists.mp known
  have asked : encodeRequest code effect = some (.text (code.stringify json)) := by
    unfold encodeRequest
    rw [written]
    rfl
  obtain ⟨same,sent⟩ := handled _ asked
  unfold step under
  rw [List.filterMap_cons_some asked]
  dsimp only at same sent ⊢
  rw [same,sent]
  rfl

theorem stands_known {e : Exchange} (stands : Stands peer optCode files e d) :
    ∃ entry, d.stashes (strip {peer with authenticated:=true}.stashId) = some entry ∧ entry.files = files ∧ entry.expired = false :=
  let ⟨entry,stashed,same,fresh,_⟩ := stands.entry
  ⟨entry,stashed,same,fresh⟩

theorem asked_step (speaks : Speaks code contents optCode files) (stands : Stands peer optCode files (opened code peer optCode) d) :
    step code contents (opened code peer optCode) (.desktop d) =
      some (under code peer (openChannel optCode).1 [] [.authOk (DataChannels.payloadType d peer.stashId)]) := by
  have answered (disk : Disk) : onMessage code.toPython ⟨d,true,disk⟩ peer _ = _ := auth_answered speaks (stands.verified rfl) rfl
  unfold step opened
  change some _ = _
  dsimp only
  rw [answered]
  rfl

theorem manifest_step (speaks : Speaks code contents optCode files) (some_file : files ≠ [])
    (stands : Stands peer optCode files (under code peer (admitted payloadType) [.manifest] []) d) :
    step code contents (under code peer (admitted payloadType) [.manifest] []) (.desktop d) =
      some (under code peer (admitted payloadType) [] [manifestFrame files]) := by
  obtain ⟨entry,stashed,same,fresh,unclaimed⟩ := stands.entry
  apply desktop_step rfl
  intro message asked
  have answered (disk : Disk) : onMessage code.toPython ⟨d,true,disk⟩ {peer with authenticated:=true} message = _ :=
    manifest_answered speaks rfl some_file stashed same fresh (unclaimed rfl).1 (unclaimed rfl).2 asked
  dsimp only
  rw [answered]
  exact ⟨rfl,rfl⟩

theorem download_step (speaks : Speaks code contents optCode files) (few : k < fieldLimit) (here : files[k]? = some file)
    (on_disk : file.content = none) {e : Exchange} (stands : Stands peer optCode files e d) :
    step code contents (under code peer t [.download k] []) (.desktop d) =
      some (under code peer t [] (startFrame contents file k :: (chunkFrames contents k file ++ endFrames contents k file))) := by
  obtain ⟨entry,stashed,same,fresh⟩ := stands_known stands
  apply desktop_step rfl
  intro message asked
  rw [← file_sent few]
  exact download_answered speaks rfl here on_disk stashed same fresh asked

theorem bye_step (speaks : Speaks code contents optCode files) :
    step code contents (under code peer t [.bye] []) (.desktop d) = some (under code peer t [] []) := by
  apply desktop_step rfl
  intro message asked
  have read := request_read speaks (by unfold requests; simp) asked rfl
  have answered (disk : Disk) : onMessage code.toPython ⟨d,true,disk⟩ {peer with authenticated:=true} message =
      ⟨d,{peer with authenticated:=true},[],false⟩ := by
    unfold onMessage
    rw [read]
    rfl
  dsimp only
  rw [answered]
  exact ⟨rfl,rfl⟩

end Steps

def Small (files : List FileEntry) (k : Nat) : Prop :=
  ∀ i file, i < k → files[i]? = some file → (contents file.filePath).length ≤ fieldLimit

inductive Phase (optCode : String) (files : List FileEntry) (peer : WebRTCPeer) : Exchange → Prop where
  | opened : Phase optCode files peer (opened code peer optCode)
  | admitted {payloadType} (known : payloadType ∈ ["file","text"]) :
      Phase optCode files peer (under code peer (openChannel optCode).1 [] [.authOk payloadType])
  | asking {payloadType} : Phase optCode files peer (under code peer (admitted payloadType) [.manifest] [])
  | listing {payloadType} : Phase optCode files peer (under code peer (admitted payloadType) [] [manifestFrame files])
  | waiting {payloadType k} (more : k < files.length) (small : Small contents files k) :
      Phase optCode files peer (under code peer (waiting contents payloadType files k) [.download k] [])
  | sent {payloadType k file} (here : files[k]? = some file) (small : Small contents files k) :
      Phase optCode files peer (under code peer (waiting contents payloadType files k) []
        (startFrame contents file k :: (chunkFrames contents k file ++ endFrames contents k file)))
  | receiving {payloadType k file before after} (here : files[k]? = some file) (small : Small contents files k)
      (parts : chunkFrames contents k file = before ++ after) :
      Phase optCode files peer (under code peer (receiving contents payloadType files k file (before.map chunkData)) []
        (after ++ endFrames contents k file))
  | complete {payloadType up} (small : Small contents files files.length) (last : up = [.bye] ∨ up = []) :
      Phase optCode files peer (under code peer (complete contents payloadType files) up [])

section Phases
variable {code contents} {optCode payloadType : String} {files : List FileEntry} {peer : WebRTCPeer} {e e' : Exchange} {turn : Turn}
  {k : Nat} {file : FileEntry} {before after : List Frame}

theorem small_next (small : Small contents files k) (here : files[k]? = some file) (fits : (contents file.filePath).length ≤ fieldLimit) :
    Small contents files (k + 1) := by
  intro i other before there
  by_cases earlier : i < k
  · exact small i other earlier there
  · obtain rfl : i = k := by omega
    obtain rfl := Option.some.inj (there.symm.trans here)
    exact fits

theorem chunk_step (speaks : Speaks code contents optCode files) (few : files.length ≤ maxBatchFileCount) (here : files[k]? = some file)
    {frame : Frame} (parts : chunkFrames contents k file = before ++ frame :: after) {down : List Frame} :
    step code contents (under code peer (receiving contents payloadType files k file (before.map chunkData)) [] (frame :: down)) .page =
      some (under code peer (receiving contents payloadType files k file ((before ++ [frame]).map chunkData)) [] down) := by
  have bound := (List.getElem?_eq_some_iff.mp here).1
  have sent : frame ∈ chunkFrames contents k file := by
    rw [parts]
    simp
  obtain ⟨offset,data,rfl⟩ := chunks_shape _ _ sent
  have small : k < 2 ^ 24 := by
    unfold maxBatchFileCount at few
    omega
  rw [List.map_append]
  exact page_step rfl (chunk_handled speaks here small offset data _)

theorem end_step (speaks : Speaks code contents optCode files) (few : files.length ≤ maxBatchFileCount)
    (on_disk : ∀ file ∈ files, file.content = none) (here : files[k]? = some file)
    (fits : (contents file.filePath).length ≤ fieldLimit) :
    step code contents (under code peer (receiving contents payloadType files k file ((chunkFrames contents k file).map chunkData)) []
        [.fileEnd (.int k)]) .page =
      some (if k + 1 < files.length then under code peer (waiting contents payloadType files (k + 1)) [.download (k + 1 : Nat)] []
        else under code peer (complete contents payloadType files) [.bye] []) := by
  have bound := (List.getElem?_eq_some_iff.mp here).1
  have small : k < fieldLimit := by
    unfold maxBatchFileCount at few
    unfold fieldLimit
    omega
  rw [page_step rfl (end_handled speaks here (on_disk file (List.mem_of_getElem? here)) (frames_whole small fits)),
    asking_files on_disk bound]
  split <;> rfl

theorem end_phase (small : Small contents files k) (here : files[k]? = some file) (fits : (contents file.filePath).length ≤ fieldLimit) :
    Phase code contents optCode files peer
      (if k + 1 < files.length then under code peer (waiting contents payloadType files (k + 1)) [.download (k + 1 : Nat)] []
        else under code peer (complete contents payloadType files) [.bye] []) := by
  have later := small_next small here fits
  split
  · rename_i more
    exact .waiting more later
  · rename_i last
    have bound := (List.getElem?_eq_some_iff.mp here).1
    obtain same : k + 1 = files.length := by omega
    rw [same] at later
    exact .complete later (.inl rfl)

theorem phase_step (speaks : Speaks code contents optCode files) (few : files.length ≤ maxBatchFileCount)
    (on_disk : ∀ file ∈ files, file.content = none) (some_file : files ≠ []) (phase : Phase code contents optCode files peer e)
    (stands : standing peer optCode files e turn) (taken : step code contents e turn = some e') :
    Phase code contents optCode files peer e' := by
  cases phase with
  | opened =>
      cases turn with
      | desktop d =>
          rw [asked_step speaks stands] at taken
          obtain rfl := Option.some.inj taken
          apply Phase.admitted
          unfold DataChannels.payloadType
          split <;> decide
      | page => cases taken
  | admitted known =>
      cases turn with
      | desktop d => cases taken
      | page =>
          rw [page_step rfl (authOk_handled speaks known)] at taken
          obtain rfl := Option.some.inj taken
          exact .asking
  | asking =>
      cases turn with
      | desktop d =>
          rw [manifest_step speaks some_file stands] at taken
          obtain rfl := Option.some.inj taken
          exact .listing
      | page => cases taken
  | listing =>
      cases turn with
      | desktop d => cases taken
      | page =>
          rw [page_step rfl (manifest_handled speaks on_disk some_file)] at taken
          obtain rfl := Option.some.inj taken
          exact .waiting (List.length_pos_iff.mpr some_file) fun i _ before => absurd before (Nat.not_lt_zero i)
  | waiting more small =>
      cases turn with
      | desktop d =>
          have here := List.getElem?_eq_getElem more
          rw [download_step speaks (by unfold maxBatchFileCount at few; unfold fieldLimit; omega) here
            (on_disk _ (List.getElem_mem more)) stands] at taken
          obtain rfl := Option.some.inj taken
          exact .sent here small
      | page => cases taken
  | sent here small =>
      rename_i payloadType k file
      cases turn with
      | desktop d => cases taken
      | page =>
          rw [page_step rfl (start_handled speaks here)] at taken
          obtain rfl := Option.some.inj taken
          have parts : chunkFrames contents k file = [] ++ chunkFrames contents k file := rfl
          exact .receiving here small parts
  | receiving here small parts =>
      rename_i payloadType k file before after
      cases turn with
      | desktop d => cases taken
      | page =>
          cases after with
          | cons frame after =>
              rw [List.cons_append,chunk_step speaks few here parts] at taken
              obtain rfl := Option.some.inj taken
              exact .receiving here small (by rw [parts,List.append_assoc]; rfl)
          | nil =>
              rw [List.append_nil] at parts
              unfold endFrames at taken
              by_cases fits : (contents file.filePath).length ≤ fieldLimit
              · rw [if_pos fits,← parts] at taken
                rw [List.nil_append,end_step speaks few on_disk here fits] at taken
                obtain rfl := Option.some.inj taken
                exact end_phase small here fits
              · rw [if_neg fits] at taken
                cases taken
  | complete small last =>
      cases turn with
      | desktop d =>
          rcases last with rfl | rfl
          · rw [bye_step speaks] at taken
            obtain rfl := Option.some.inj taken
            exact .complete small (.inr rfl)
          · cases taken
      | page => cases taken

theorem reached_phase (speaks : Speaks code contents optCode files) (few : files.length ≤ maxBatchFileCount)
    (on_disk : ∀ file ∈ files, file.content = none) (some_file : files ≠ [])
    (reached : Reaches (exchange code contents) (standing peer optCode files) (opened code peer optCode) e) :
    Phase code contents optCode files peer e :=
  reaches_preserves (fun _ _ _ phase stands taken => phase_step speaks few on_disk some_file phase stands taken) .opened reached

-- Only the end shows every file, and it is not reached past a file that is too big.
theorem received_small (phase : Phase code contents optCode files peer e) (received : Received contents files e) :
    Small contents files files.length := by
  cases phase with
  | complete small last => exact small
  | opened | admitted | asking | listing | waiting | sent | receiving => exact absurd received.1 (by intro state; cases state)

theorem complete_received (on_disk : ∀ file ∈ files, file.content = none) {up : List Effect} :
    Received contents files (under code peer (complete contents payloadType files) up []) := by
  refine ⟨rfl,?_⟩
  intro i file here
  refine ⟨wholeRow contents (file,i),rows_whole here,?_⟩
  unfold wholeRow
  rw [on_disk file (List.mem_of_getElem? here)]
  exact ⟨rfl,rfl,rfl⟩

theorem frames_unmistaken (speaks : Speaks code contents optCode files) (small : k < 2 ^ 24) {t : Transfer} {up : List Effect} {down : List Frame}
    (each : ∀ frame ∈ down, (frameJson frame).isSome = true ∨ ∃ offset data, frame = .chunk k offset data) :
    Unmistaken code (under code peer t up down) := by
  intro bytes member
  obtain ⟨frame,sent,same⟩ := List.mem_map.mp member
  rcases each frame sent with text | ⟨offset,data,rfl⟩
  · obtain ⟨json,written⟩ := Option.isSome_iff_exists.mp text
    rw [text_encoded written] at same
    cases same
  · have decoded : decodeWireEvent code (encodeFrame code (.chunk k offset data)) = _ := chunk_decoded speaks small
    rw [same] at decoded
    rw [decoded]
    unfold encodeFrame at same
    cases same
    rfl

theorem file_frames (down : List Frame) (chunks : ∀ frame ∈ down, frame ∈ chunkFrames contents k file) :
    ∀ frame ∈ down ++ endFrames contents k file, (frameJson frame).isSome = true ∨ ∃ offset data, frame = .chunk k offset data := by
  intro frame member
  rcases List.mem_append.mp member with chunk | last
  · exact .inr (chunks_shape _ _ (chunks frame chunk))
  · unfold endFrames at last
    split at last
    · rw [List.mem_singleton.mp last]
      exact .inl rfl
    · cases last

theorem phase_unmistaken (speaks : Speaks code contents optCode files) (few : files.length ≤ maxBatchFileCount)
    (phase : Phase code contents optCode files peer e) : Unmistaken code e := by
  have index {k : Nat} {file : FileEntry} (here : files[k]? = some file) : k < 2 ^ 24 := by
    have bound := (List.getElem?_eq_some_iff.mp here).1
    unfold maxBatchFileCount at few
    omega
  have single {t : Transfer} {up : List Effect} {frame : Frame} (text : (frameJson frame).isSome = true) :
      Unmistaken code (under code peer t up [frame]) := by
    apply frames_unmistaken (k:=0) speaks (by decide)
    intro other member
    rw [List.mem_singleton.mp member]
    exact .inl text
  have silent {t : Transfer} {up : List Effect} : Unmistaken code (under code peer t up []) :=
    fun _ member => absurd member List.not_mem_nil
  cases phase with
  | opened => exact fun _ member => absurd member List.not_mem_nil
  | admitted => exact single rfl
  | asking => exact silent
  | listing => exact single rfl
  | waiting => exact silent
  | sent here =>
      apply frames_unmistaken speaks (index here)
      intro frame member
      rcases List.mem_cons.mp member with rfl | later
      · exact .inl rfl
      · exact file_frames _ (fun _ chunk => chunk) frame later
  | receiving here small parts =>
      apply frames_unmistaken speaks (index here)
      apply file_frames
      intro frame member
      rw [parts]
      exact List.mem_append_right _ member
  | complete => exact silent

end Phases

section Progress
variable {code contents} {optCode payloadType : String} {files : List FileEntry} {peer : WebRTCPeer} {e e' : Exchange} {d : Desktop}
  {k : Nat} {file : FileEntry}

theorem stands_still (stands : Stands peer optCode files e d) (state : e.transfer.state = .authenticating) (early : e.transfer.pending = none) :
    Stands peer optCode files e' d := by
  obtain ⟨verified,entry,stashed,same,fresh,unclaimed⟩ := stands
  exact ⟨fun _ => verified state,entry,stashed,same,fresh,fun _ => unclaimed early⟩

theorem page_reaches (taken : step code contents e .page = some e') :
    Reaches (exchange code contents) (standing peer optCode files) e e' := by
  have allowed : standing peer optCode files e .page := trivial
  exact reaches_step reaches_refl allowed taken

theorem desktop_reaches (stands : Stands peer optCode files e d) (taken : step code contents e (.desktop d) = some e') :
    Reaches (exchange code contents) (standing peer optCode files) e e' := by
  have allowed : standing peer optCode files e (.desktop d) := stands
  exact reaches_step reaches_refl allowed taken

theorem chunks_arrive (speaks : Speaks code contents optCode files) (few : files.length ≤ maxBatchFileCount)
    (on_disk : ∀ file ∈ files, file.content = none) (here : files[k]? = some file)
    (fits : (contents file.filePath).length ≤ fieldLimit) (before after : List Frame) (parts : chunkFrames contents k file = before ++ after) :
    Reaches (exchange code contents) (standing peer optCode files)
      (under code peer (receiving contents payloadType files k file (before.map chunkData)) [] (after ++ endFrames contents k file))
      (if k + 1 < files.length then under code peer (waiting contents payloadType files (k + 1)) [.download (k + 1 : Nat)] []
        else under code peer (complete contents payloadType files) [.bye] []) := by
  induction after generalizing before with
  | nil =>
      rw [List.append_nil] at parts
      unfold endFrames
      rw [if_pos fits,← parts,List.nil_append]
      exact page_reaches (end_step speaks few on_disk here fits)
  | cons frame after ih =>
      have rest := ih (before ++ [frame]) (by rw [parts,List.append_assoc]; rfl)
      exact reaches_trans (page_reaches (chunk_step speaks few here parts)) rest

theorem file_arrives (payloadType : String) (speaks : Speaks code contents optCode files) (few : files.length ≤ maxBatchFileCount)
    (on_disk : ∀ file ∈ files, file.content = none) (stands : ∀ e, Stands peer optCode files e d) (here : files[k]? = some file)
    (fits : (contents file.filePath).length ≤ fieldLimit) :
    Reaches (exchange code contents) (standing peer optCode files)
      (under code peer (waiting contents payloadType files k) [.download k] [])
      (if k + 1 < files.length then under code peer (waiting contents payloadType files (k + 1)) [.download (k + 1 : Nat)] []
        else under code peer (complete contents payloadType files) [.bye] []) := by
  have bound := (List.getElem?_eq_some_iff.mp here).1
  have small : k < fieldLimit := by
    unfold maxBatchFileCount at few
    unfold fieldLimit
    omega
  apply reaches_trans (desktop_reaches (stands _) (download_step speaks small here (on_disk file (List.mem_of_getElem? here)) (stands (opened code peer optCode))))
  apply reaches_trans (page_reaches (page_step rfl (start_handled speaks here)))
  exact chunks_arrive speaks few on_disk here fits [] _ rfl

theorem completes_after (path : Reaches (exchange code contents) (standing peer optCode files) e e')
    (later : Completes code contents optCode files peer e') : Completes code contents optCode files peer e := by
  obtain ⟨last,rest,received⟩ := later
  exact ⟨last,reaches_trans path rest,received⟩

theorem complete_completes (on_disk : ∀ file ∈ files, file.content = none) {up : List Effect} :
    Completes code contents optCode files peer (under code peer (complete contents payloadType files) up []) :=
  ⟨_,reaches_refl,complete_received on_disk⟩

theorem files_arrive (payloadType : String) (speaks : Speaks code contents optCode files) (few : files.length ≤ maxBatchFileCount)
    (on_disk : ∀ file ∈ files, file.content = none) (stands : ∀ e, Stands peer optCode files e d) (fits : Small contents files files.length)
    (left : Nat) (count : k + left = files.length) :
    Completes code contents optCode files peer
      (if k < files.length then under code peer (waiting contents payloadType files k) [.download k] []
        else under code peer (complete contents payloadType files) [.bye] []) := by
  induction left generalizing k with
  | zero =>
      rw [if_neg (by omega)]
      exact complete_completes on_disk
  | succ left ih =>
      have bound : k < files.length := by omega
      have here := List.getElem?_eq_getElem bound
      rw [if_pos bound]
      exact completes_after (file_arrives payloadType speaks few on_disk stands here (fits k _ bound here))
        (ih (by omega))

theorem rest_arrives (payloadType : String) (speaks : Speaks code contents optCode files) (few : files.length ≤ maxBatchFileCount)
    (on_disk : ∀ file ∈ files, file.content = none) (stands : ∀ e, Stands peer optCode files e d) (fits : Small contents files files.length)
    (bound : k ≤ files.length) :
    Completes code contents optCode files peer
      (if k < files.length then under code peer (waiting contents payloadType files k) [.download k] []
        else under code peer (complete contents payloadType files) [.bye] []) :=
  files_arrive payloadType speaks few on_disk stands fits (files.length - k) (by omega)

theorem phase_completes (speaks : Speaks code contents optCode files) (few : files.length ≤ maxBatchFileCount)
    (on_disk : ∀ file ∈ files, file.content = none) (some_file : files ≠ []) (stands : ∀ e, Stands peer optCode files e d)
    (fits : Small contents files files.length) (phase : Phase code contents optCode files peer e) :
    Completes code contents optCode files peer e := by
  have rest (payloadType : String) {k : Nat} (bound : k ≤ files.length) := rest_arrives payloadType speaks few on_disk stands fits bound
  have waited {payloadType : String} {k : Nat} (bound : k < files.length) :
      Completes code contents optCode files peer (under code peer (waiting contents payloadType files k) [.download k] []) := by
    have later := rest payloadType (Nat.le_of_lt bound)
    rwa [if_pos bound] at later
  have listed {payloadType : String} :
      Completes code contents optCode files peer (under code peer (admitted payloadType) [] [manifestFrame files]) :=
    completes_after (page_reaches (page_step rfl (manifest_handled speaks on_disk some_file))) (waited (List.length_pos_iff.mpr some_file))
  have asked {payloadType : String} : Completes code contents optCode files peer (under code peer (admitted payloadType) [.manifest] []) :=
    completes_after (desktop_reaches (stands _) (manifest_step speaks some_file (stands _))) listed
  have known {payloadType : String} (kind : payloadType ∈ ["file","text"]) :
      Completes code contents optCode files peer (under code peer (openChannel optCode).1 [] [.authOk payloadType]) :=
    completes_after (page_reaches (page_step rfl (authOk_handled speaks kind))) asked
  cases phase with
  | opened =>
      apply completes_after (desktop_reaches (stands _) (asked_step speaks (stands _)))
      apply known
      unfold DataChannels.payloadType
      split <;> decide
  | admitted kind => exact known kind
  | asking => exact asked
  | listing => exact listed
  | waiting more => exact waited more
  | sent here =>
      have bound := (List.getElem?_eq_some_iff.mp here).1
      apply completes_after (page_reaches (page_step rfl (start_handled speaks here)))
      exact completes_after (chunks_arrive speaks few on_disk here (fits _ _ bound here) [] _ rfl) (rest _ bound)
  | receiving here small parts =>
      have bound := (List.getElem?_eq_some_iff.mp here).1
      exact completes_after (chunks_arrive speaks few on_disk here (fits _ _ bound here) _ _ parts) (rest _ bound)
  | complete => exact complete_completes on_disk

-- Every run of the exchange can go on until the page shows every file exactly if none has more
-- than four GiB; and no chunk is ever taken for a control message.
theorem channel_whole (speaks : Speaks code contents optCode files) (few : files.length ≤ maxBatchFileCount)
    (on_disk : ∀ file ∈ files, file.content = none) (some_file : files ≠ []) (stands : Stands peer optCode files (opened code peer optCode) d) :
    (∀ e, Reaches (exchange code contents) (standing peer optCode files) (opened code peer optCode) e →
      Unmistaken code e ∧ Completes code contents optCode files peer e) ↔
      ∀ file ∈ files, (contents file.filePath).length ≤ fieldLimit := by
  have phases (e : Exchange) := @reached_phase _ _ _ _ peer e speaks few on_disk some_file
  constructor
  · intro whole file member
    obtain ⟨last,path,received⟩ := (whole _ reaches_refl).2
    obtain ⟨i,here⟩ := List.mem_iff_getElem?.mp member
    exact received_small (phases _ path) received i file (List.getElem?_eq_some_iff.mp here).1 here
  · intro fits e reached
    have small : Small contents files files.length := fun i file _ here => fits file (List.mem_of_getElem? here)
    exact ⟨phase_unmistaken speaks few (phases _ reached),
      phase_completes speaks few on_disk some_file (fun _ => stands_still stands rfl rfl) small (phases _ reached)⟩

end Progress

end ImageSearch.WholeFiles
