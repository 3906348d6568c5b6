import ImageSearch.FileStashes
import ImageSearch.PageTransfers
import ImageSearch.SentFiles

namespace ImageSearch.FileExchanges
open Payload Transitions DataChannels WebTransfers SentFiles PageTransfers
open SharedStashes hiding handleAuth handleDownload

structure Exchange where
  peer : WebRTCPeer
  transfer : Transfer
  up : List Message
  down : List Message

-- Which end takes its next message, and what the desktop holds then.
inductive Turn where
  | desktop (d : Desktop)
  | page

variable (code : Languages) (contents : String → Bytes)

def readable (d : Desktop) (stashId : String) (message : Message) : Disk :=
  match readControlMessage code.toPython message with
  | .value (.object fields) =>
    match checkIndex code.toPython d stashId ((fields.lookup "index").getD (.int 0)) with
    | some (.reading file) => .holds (contents file.filePath)
    | _ => .unreadable
  | _ => .unreadable

def encodeRequest (effect : Effect) : Option Message := (requestJson effect).map fun json => .text (code.stringify json)

def step (e : Exchange) : Turn → Option Exchange
  | .desktop d =>
    match e.up with
    | [] => none
    | message :: rest =>
      let handled := onMessage code.toPython ⟨d,true,readable code contents d e.peer.stashId message⟩ e.peer message
      some {e with peer:=handled.peer,up:=rest,down:=e.down ++ handled.sent.map (encodeFrame code)}
  | .page =>
    match e.down with
    | [] => none
    | message :: rest =>
      if e.transfer.channelOpen then
        let handled := handleMessage code e.transfer message
        some {e with transfer:=handled.1,down:=rest,up:=e.up ++ handled.2.filterMap (encodeRequest code)}
      else none

def exchange : System Exchange Turn where
  step := step code contents

def opened (peer : WebRTCPeer) (optCode : String) : Exchange :=
  let start := openChannel optCode
  ⟨peer,start.1,start.2.filterMap (encodeRequest code),[]⟩

-- The link's code is that of the session until the page is let in, and the stash stands and is
-- not claimed until its manifest is there and does not expire after that.
structure Stands (peer : WebRTCPeer) (optCode : String) (files : List FileEntry) (e : Exchange) (d : Desktop) : Prop where
  verified : e.transfer.state = .authenticating → verifies d peer.sessionId (.string optCode) = true
  entry : ∃ entry, d.stashes (strip peer.stashId) = some entry ∧ entry.files = files ∧ entry.expired = false ∧
    (e.transfer.pending = none → entry.claimed = false ∧ ¬entry.expiresAt < d.clock)

def standing (peer : WebRTCPeer) (optCode : String) (files : List FileEntry) (e : Exchange) : Turn → Prop
  | .desktop d => Stands peer optCode files e d
  | .page => True

def Received (files : List FileEntry) (e : Exchange) : Prop :=
  e.transfer.state = .done ∧ ∀ (i : Nat) (file : FileEntry), files[i]? = some file →
    ∃ shown : FileProgress, e.transfer.files[i]? = some shown ∧ shown.index = i ∧ shown.status = .done ∧ shown.blob = some (contents file.filePath)

-- No chunk under way is read as a control message.
def Unmistaken (e : Exchange) : Prop := ∀ bytes, .binary bytes ∈ e.down → decodeWireEvent code (.binary bytes) = some (.binary bytes)

-- The exchange can go on until the page is complete.
def Completes (optCode : String) (files : List FileEntry) (peer : WebRTCPeer) (e : Exchange) : Prop :=
  ∃ e', Reaches (exchange code contents) (standing peer optCode files) e e' ∧ Received contents files e'

-- What the desktop answers to the page, apart from the chunks, and what the page asks.
def answers (files : List FileEntry) : List Frame :=
  [.authOk "file",.authOk "text",manifestFrame files] ++
    files.zipIdx.flatMap fun file => [startFrame contents file.1 file.2,.fileEnd (.int file.2)]

def requests (optCode : String) (files : List FileEntry) : List Effect :=
  [.auth optCode,.manifest,.bye] ++ (List.range files.length).map fun k => .download k

-- What json.dumps and JSON.stringify write of the messages of this exchange is read back, and
-- no text that begins with NUL is JSON.
structure Speaks (optCode : String) (files : List FileEntry) : Prop where
  requests : ∀ effect ∈ requests optCode files, ∀ json, requestJson effect = some json →
    code.loads (rstripNewlines (code.stringify json)) = .value json
  answers : ∀ frame ∈ answers contents files, ∀ json, frameJson frame = some json → code.parse (code.dumps json ++ "\n\n") = some json
  zero : ∀ bytes, (code.decodeText (0 :: bytes)).toList.head? = some (Char.ofNat 0)
  nul : ∀ text : String, text.toList.head? = some (Char.ofNat 0) → code.parse text = none

section Wire
variable {code contents} {optCode : String} {files : List FileEntry} {t : Transfer} {frame : Frame} {json : Json}

theorem text_encoded (written : frameJson frame = some json) :
    encodeFrame code frame = .text (code.dumps json ++ "\n\n") := by
  cases frame with
  | chunk => cases written
  | authOk | authError | error | manifest | fileStart | fileEnd =>
      unfold encodeFrame
      rw [written]

theorem text_decoded (speaks : Speaks code contents optCode files) (known : frame ∈ answers contents files) (written : frameJson frame = some json) :
    decodeWireEvent code (encodeFrame code frame) = knownControl json := by
  rw [text_encoded written]
  unfold decodeWireEvent
  have some_text : code.dumps json ++ "\n\n" ≠ "" := by
    intro empty
    have characters := congrArg String.toList empty
    rw [String.toList_append] at characters
    exact absurd (List.append_eq_nil_iff.mp characters).2 (by decide)
  dsimp only
  rw [if_neg some_text,speaks.answers frame known json written,Option.bind_some]

theorem chunk_decoded (speaks : Speaks code contents optCode files) {index offset : Nat} {data : Bytes} (small : index < 2 ^ 24) :
    decodeWireEvent code (encodeFrame code (.chunk index offset data)) =
      some (.binary (packField index ++ packField offset ++ data)) := by
  have zero : packField index = 0 :: [index / 2 ^ 16,index / 2 ^ 8,index].map UInt8.ofNat := by
    unfold packField
    rw [Nat.div_eq_of_lt small]
    rfl
  unfold encodeFrame decodeWireEvent
  dsimp only
  rw [zero,List.cons_append,List.cons_append,speaks.nul _ (speaks.zero _)]
  rfl

end Wire

section Reading
variable {code contents} {optCode payloadType : String} {files : List FileEntry} {k : Nat} {file : FileEntry}

theorem entry_read (item : ManifestItem) : readEntry (itemJson item) = some (seen item) := by
  obtain ⟨index,type,contentType,content,filename,sizeBytes⟩ := item
  cases content <;> rfl

theorem entries_read (listing : List (FileEntry × Nat)) :
    (((listing.map fun file => manifestItem file.1 file.2).map wireItem).map itemJson).mapM readEntry = some (listing.map entryOf) := by
  induction listing with
  | nil => rfl
  | cons file rest ih =>
      simp only [List.map_cons,List.mapM_cons]
      rw [entry_read,ih]
      rfl

theorem mem_start (here : files[k]? = some file) : startFrame contents file k ∈ answers contents files ∧
    .fileEnd (.int k) ∈ answers contents files := by
  have listed : (file,k) ∈ files.zipIdx := List.mem_zipIdx_iff_getElem?.mpr here
  unfold answers
  constructor
  · exact List.mem_append_right _ (List.mem_flatMap.mpr ⟨_,listed,List.mem_cons_self⟩)
  · exact List.mem_append_right _ (List.mem_flatMap.mpr ⟨_,listed,List.mem_cons_of_mem _ List.mem_cons_self⟩)

theorem asking_files (on_disk : ∀ file ∈ files, file.content = none) (bound : k ≤ files.length) : asking contents payloadType files k =
    if k < files.length then (waiting contents payloadType files k,[.download k])
    else (complete contents payloadType files,[.completeSession,.bye]) := by
  have from_here : fileFrom files k = k := by
    by_cases more : k < files.length
    · have here := List.getElem?_eq_getElem more
      rw [file_from_here here,on_disk _ (List.getElem_mem more)]
      rfl
    · unfold fileFrom
      rw [List.drop_eq_nil_of_le (by omega)]
      rfl
  unfold asking
  rw [from_here]

theorem authOk_handled (speaks : Speaks code contents optCode files) (known : payloadType ∈ ["file","text"]) :
    handleMessage code (openChannel optCode).1 (encodeFrame code (.authOk payloadType)) = (admitted payloadType,[.manifest]) := by
  have member : .authOk payloadType ∈ answers contents files := by
    unfold answers
    rcases List.mem_cons.mp known with rfl | other
    · simp
    · rw [List.mem_singleton.mp other]
      simp
  unfold handleMessage
  rw [text_decoded speaks member rfl]
  rfl

theorem manifest_handled (speaks : Speaks code contents optCode files) (on_disk : ∀ file ∈ files, file.content = none) (some_file : files ≠ []) :
    handleMessage code (admitted payloadType) (encodeFrame code (manifestFrame files)) =
      (waiting contents payloadType files 0,[.download 0]) := by
  have member : manifestFrame files ∈ answers contents files := by
    unfold answers
    simp
  have reading : readControl "manifest" [("msg",.string "manifest"),("files",.array
      (((files.zipIdx.map fun file => manifestItem file.1 file.2).map wireItem).map itemJson))] =
      some (.manifest (entries files)) := by
    unfold readControl
    change (List.mapM readEntry _).map WebTransfers.ControlMessage.manifest = _
    rw [entries_read]
    rfl
  have quiet : inlineSaves files = [] := by
    unfold inlineSaves entries
    rw [List.filterMap_map]
    apply List.filterMap_eq_nil_iff.mpr
    intro file inside
    have none_inline : (entryOf file).isInline = false := by
      rw [entry_inline,on_disk file.1 (List.fst_mem_of_mem_zipIdx inside)]
      rfl
    unfold inlineInput
    simp [none_inline]
  have received : handleControl (admitted payloadType) (.manifest (entries files)) =
      ((asking contents payloadType files 0).1,inlineSaves files ++ (asking contents payloadType files 0).2) := manifest_received
  unfold handleMessage
  rw [text_decoded speaks member rfl]
  change (readControl "manifest" _).elim _ _ = _
  rw [reading,Option.elim_some,received,quiet,asking_files on_disk (Nat.zero_le _),if_pos (List.length_pos_iff.mpr some_file)]
  rfl

theorem start_handled (speaks : Speaks code contents optCode files) (here : files[k]? = some file) :
    handleMessage code (waiting contents payloadType files k) (encodeFrame code (startFrame contents file k)) =
      (receiving contents payloadType files k file [],[]) := by
  unfold handleMessage
  rw [text_decoded speaks (mem_start here).1 rfl]
  exact start_received here

theorem chunk_handled (speaks : Speaks code contents optCode files) (here : files[k]? = some file) (small : k < 2 ^ 24) (offset : Nat)
    (data : Bytes) (chunks : List Bytes) :
    handleMessage code (receiving contents payloadType files k file chunks) (encodeFrame code (.chunk k offset data)) =
      (receiving contents payloadType files k file (chunks ++ [data]),[]) := by
  have received : receiveChunk (receiving contents payloadType files k file chunks) (packField k ++ packField offset ++ data) = _ :=
    chunk_received here _ data rfl chunks
  unfold handleMessage
  rw [chunk_decoded speaks small]
  dsimp only
  rw [received]

theorem end_handled (speaks : Speaks code contents optCode files) (here : files[k]? = some file) (on_disk : file.content = none)
    {chunks : List Bytes} (whole : chunks.flatten = contents file.filePath) :
    handleMessage code (receiving contents payloadType files k file chunks) (encodeFrame code (.fileEnd (.int k))) =
      ((asking contents payloadType files (k + 1)).1,
        .saveFile (fileInput contents file k) :: (asking contents payloadType files (k + 1)).2) := by
  unfold handleMessage
  rw [text_decoded speaks (mem_start here).2 rfl]
  exact end_received here on_disk whole

end Reading

end ImageSearch.FileExchanges
