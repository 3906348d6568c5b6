import ImageSearch.WebTransfers

namespace ImageSearch.PageTransfers
open Payload DataChannels WebTransfers
open SharedStashes hiding handleAuth handleDownload

variable (contents : String → Bytes)

-- An entry of the manifest as the page reads it, and what is served under its index.
def seen (item : ManifestItem) : ManifestFileEntry :=
  ⟨item.index,item.type,item.contentType,some item.sizeBytes,some item.filename,item.content⟩

def entryOf (file : FileEntry × Nat) : ManifestFileEntry := seen (wireItem (manifestItem file.1 file.2))

def entries (files : List FileEntry) : List ManifestFileEntry := files.zipIdx.map entryOf

def wholeRow (file : FileEntry × Nat) : FileProgress :=
  if file.1.content.isSome then finishInline (listed (entryOf file))
  else
    let bytes := contents file.1.filePath
    {index:=file.2,filename:=some (file.1.filename.getD ""),contentType:=file.1.contentType,size:=bytes.length,
      received:=bytes.length,blob:=some bytes,status:=.done}

-- The rows while `k` is the next to come: those before it are whole, and `now` is done to its own.
def row (k : Nat) (now : FileProgress → FileProgress) (file : FileEntry × Nat) : FileProgress :=
  if file.2 < k then wholeRow contents file else if file.2 = k then now (listed (entryOf file)) else listed (entryOf file)

def rows (files : List FileEntry) (k : Nat) (now : FileProgress → FileProgress) : List FileProgress :=
  files.zipIdx.map (row contents k now)

-- The page before the manifest, before it asks for the file `k`, while that arrives and at the end.
def admitted (payloadType : String) : Transfer := {state:=.transferring,payloadType:=some payloadType}

def waiting (payloadType : String) (files : List FileEntry) (k : Nat) : Transfer :=
  {admitted payloadType with files:=rows contents files k id,pending:=some (entries files),nextDownloadIndex:=k}

def arriving (file : FileEntry) (received : Nat) (f : FileProgress) : FileProgress :=
  {startFile file.contentType (file.filename.getD "") (contents file.filePath).length f with received}

def receiving (payloadType : String) (files : List FileEntry) (k : Nat) (file : FileEntry) (chunks : List Bytes) : Transfer :=
  {waiting contents payloadType files k with
    current:=some ⟨k,chunks,file.contentType,file.filename.getD "",(contents file.filePath).length⟩
    files:=rows contents files k (arriving contents file chunks.flatten.length)}

def complete (payloadType : String) (files : List FileEntry) : Transfer :=
  {waiting contents payloadType files files.length with state:=.done,channelOpen:=false}

-- The first entry from `k` on that is not in the manifest itself.
def fileFrom (files : List FileEntry) (k : Nat) : Nat := k + (files.drop k).findIdx fun file => file.content.isNone

def asking (payloadType : String) (files : List FileEntry) (k : Nat) : Transfer × List Effect :=
  if fileFrom files k < files.length then (waiting contents payloadType files (fileFrom files k),[.download (fileFrom files k)])
  else (complete contents payloadType files,[.completeSession,.bye])

-- What is handed to the cache for the texts of the manifest, and for a file that has arrived.
def inlineSaves (files : List FileEntry) : List Effect := (entries files).filterMap fun entry => (inlineInput entry).map .saveFile

def fileInput (file : FileEntry) (k : Nat) : FileEntryInput :=
  ⟨k,"file",file.contentType,file.filename.getD "",(contents file.filePath).length,contents file.filePath⟩

variable {contents} {payloadType : String} {files : List FileEntry} {k : Nat} {file : FileEntry}

theorem entry_index (file : FileEntry × Nat) : (entryOf file).index = file.2 := by
  unfold entryOf manifestItem
  split <;> rfl

theorem entry_type (file : FileEntry × Nat) : (entryOf file).type = file.1.entryType := by
  unfold entryOf manifestItem
  split <;> rfl

theorem entry_inline (file : FileEntry × Nat) : (entryOf file).isInline = file.1.content.isSome := by
  unfold ManifestFileEntry.isInline
  rw [entry_type]
  unfold FileEntry.entryType
  cases file.1.content with
  | none => rfl
  | some content =>
      dsimp only
      split
      · rfl
      · split <;> rfl

theorem row_index {now : FileProgress → FileProgress} (keeps : ∀ f, (now f).index = f.index) (file : FileEntry × Nat) :
    (row contents k now file).index = file.2 := by
  have listed_index : (listed (entryOf file)).index = file.2 := entry_index file
  unfold row
  split
  · unfold wholeRow
    split
    · exact listed_index
    · rfl
  · split
    · rw [keeps,listed_index]
    · exact listed_index

theorem rows_changed {now change later : FileProgress → FileProgress} (here : files[k]? = some file)
    (keeps : ∀ f, (now f).index = f.index) (same : change (now (listed (entryOf (file,k)))) = later (listed (entryOf (file,k)))) :
    changeFile k change (rows contents files k now) = rows contents files k later := by
  unfold changeFile rows
  rw [List.map_map]
  apply List.map_congr_left
  intro other member
  rw [Function.comp_apply,row_index keeps]
  unfold row
  have there := List.mem_zipIdx_iff_getElem?.mp member
  obtain ⟨file',index⟩ := other
  dsimp only at there ⊢
  by_cases before : index < k
  · rw [if_neg (by omega),if_pos before,if_pos before]
  · by_cases at_k : index = k
    · subst at_k
      obtain rfl := Option.some.inj (there.symm.trans here)
      simp [same]
    · rw [if_neg (by omega),if_neg before,if_neg at_k,if_neg before,if_neg at_k]

theorem rows_advance {now : FileProgress → FileProgress} (here : files[k]? = some file)
    (whole : now (listed (entryOf (file,k))) = wholeRow contents (file,k)) :
    rows contents files k now = rows contents files (k + 1) id := by
  unfold rows
  apply List.map_congr_left
  intro other member
  unfold row
  have there := List.mem_zipIdx_iff_getElem?.mp member
  obtain ⟨file',index⟩ := other
  dsimp only at there ⊢
  by_cases before : index < k
  · rw [if_pos before,if_pos (by omega)]
  · by_cases at_k : index = k
    · subst at_k
      obtain rfl := Option.some.inj (there.symm.trans here)
      rw [if_neg before,if_pos rfl,if_pos (Nat.lt_succ_self _),whole]
    · rw [if_neg before,if_neg at_k,if_neg (by omega)]
      split <;> rfl

theorem rows_start : rows contents files 0 id = (entries files).map listed := by
  unfold rows entries
  rw [List.map_map]
  apply List.map_congr_left
  intro file _
  unfold row
  rw [if_neg (Nat.not_lt_zero _)]
  split <;> rfl

theorem rows_whole (here : files[k]? = some file) : (rows contents files files.length id)[k]? = some (wholeRow contents (file,k)) := by
  have bound := (List.getElem?_eq_some_iff.mp here).1
  unfold rows
  rw [List.getElem?_map,List.getElem?_zipIdx,here]
  simp [row,bound]

theorem file_from (bound : k ≤ files.length) : fileFrom files k ≤ files.length ∧
    ∀ file, files[fileFrom files k]? = some file → file.content = none := by
  unfold fileFrom
  constructor
  · have inside : (files.drop k).findIdx (fun file => file.content.isNone) ≤ (files.drop k).length := List.findIdx_le_length
    rw [List.length_drop] at inside
    omega
  · intro file here
    rw [← List.getElem?_drop] at here
    obtain ⟨inside,same⟩ := List.getElem?_eq_some_iff.mp here
    have found := List.findIdx_getElem (w := inside)
    rw [same] at found
    exact Option.isNone_iff_eq_none.mp found

theorem file_from_here (here : files[k]? = some file) :
    fileFrom files k = if file.content.isSome then fileFrom files (k + 1) else k := by
  obtain ⟨bound,same⟩ := List.getElem?_eq_some_iff.mp here
  unfold fileFrom
  rw [List.drop_eq_getElem_cons bound,same,List.findIdx_cons]
  cases file.content with
  | none => rfl
  | some content =>
      simp only [Option.isNone_some,Option.isSome_some,cond_false,if_true]
      omega

theorem asked_from (left k j : Nat) (count : k + left = files.length) :
    downloadFrom {waiting contents payloadType files k with nextDownloadIndex:=j} k ((entries files).drop k) =
      asking contents payloadType files k := by
  induction left generalizing k with
  | zero =>
      obtain rfl : k = files.length := by omega
      have ended : ¬fileFrom files files.length < files.length := by
        unfold fileFrom
        omega
      unfold asking
      rw [if_neg ended,List.drop_eq_nil_of_le (by simp [entries])]
      rfl
  | succ left ih =>
      have bound : k < files.length := by omega
      have here := List.getElem?_eq_getElem bound
      have shape : (entries files).drop k = entryOf (files[k],k) :: (entries files).drop (k + 1) := by
        unfold entries
        rw [List.drop_eq_getElem_cons (by simpa using bound)]
        simp
      rw [shape]
      unfold downloadFrom
      rw [entry_inline]
      have from_here := file_from_here here
      by_cases inline : files[k].content.isSome = true
      · rw [if_pos inline] at from_here ⊢
        have advanced : changeFile k finishInline (rows contents files k id) = rows contents files (k + 1) id := by
          have advance : rows contents files k (fun _ => wholeRow contents (files[k],k)) = rows contents files (k + 1) id :=
            rows_advance here rfl
          rw [← advance]
          apply rows_changed here
          · intro f
            rfl
          · unfold wholeRow
            rw [if_pos inline]
            rfl
        have later := ih (k + 1) (by omega)
        unfold asking at later ⊢
        rw [from_here,← later]
        unfold waiting
        dsimp only
        rw [advanced]
        rfl
      · rw [if_neg inline] at from_here ⊢
        unfold asking
        rw [from_here,if_pos bound]
        rfl

theorem next_asked (k : Nat) (bound : k ≤ files.length) :
    downloadNext (waiting contents payloadType files k) = asking contents payloadType files k := by
  have nonneg : ¬(waiting contents payloadType files k).nextDownloadIndex < 0 := by
    change ¬(k : Int) < 0
    omega
  unfold downloadNext
  rw [if_neg nonneg]
  exact asked_from (files.length - k) k k (by omega)

theorem manifest_received : handleControl (admitted payloadType) (.manifest (entries files)) =
    ((asking contents payloadType files 0).1,inlineSaves files ++ (asking contents payloadType files 0).2) := by
  have start : {admitted payloadType with pending:=some (entries files),nextDownloadIndex:=0,files:=(entries files).map listed} =
      waiting contents payloadType files 0 := by
    unfold waiting
    rw [rows_start]
    rfl
  unfold handleControl
  dsimp only
  rw [start,next_asked 0 (Nat.zero_le _)]
  rfl

theorem start_received (here : files[k]? = some file) :
    handleControl (waiting contents payloadType files k) (.fileStart k file.contentType (file.filename.getD "") (contents file.filePath).length) =
      (receiving contents payloadType files k file [],[]) := by
  have changed : changeFile k (startFile file.contentType (file.filename.getD "") (contents file.filePath).length) (rows contents files k id) =
      rows contents files k (arriving contents file 0) := by
    apply rows_changed here
    · intro f
      rfl
    · unfold arriving startFile
      rfl
  unfold handleControl receiving waiting
  dsimp only
  rw [changed]
  rfl

theorem chunk_received (here : files[k]? = some file) (buffer data : Bytes) (payload : buffer.drop chunkHeaderSize = data) (chunks : List Bytes) :
    receiveChunk (receiving contents payloadType files k file chunks) buffer =
      receiving contents payloadType files k file (chunks ++ [data]) := by
  have changed : changeFile k (fun f => {f with received:=f.received + data.length})
      (rows contents files k (arriving contents file chunks.flatten.length)) =
      rows contents files k (arriving contents file (chunks ++ [data]).flatten.length) := by
    apply rows_changed here
    · intro f
      rfl
    · unfold arriving
      simp
  unfold receiveChunk receiving waiting
  dsimp only
  rw [payload,changed]

theorem end_received (here : files[k]? = some file) (on_disk : file.content = none) {chunks : List Bytes}
    (whole : chunks.flatten = contents file.filePath) :
    handleControl (receiving contents payloadType files k file chunks) (.fileEnd k) =
      ((asking contents payloadType files (k + 1)).1,
        .saveFile (fileInput contents file k) :: (asking contents payloadType files (k + 1)).2) := by
  have changed : changeFile k (fun f => {f with status:=.done,received:=f.size,blob:=some chunks.flatten})
      (rows contents files k (arriving contents file chunks.flatten.length)) = rows contents files (k + 1) id := by
    have advance : rows contents files k (fun _ => wholeRow contents (file,k)) = rows contents files (k + 1) id := rows_advance here rfl
    rw [whole,← advance]
    apply rows_changed here
    · intro f
      rfl
    · unfold wholeRow
      rw [on_disk]
      unfold arriving startFile
      simp [entry_index,listed]
  unfold handleControl
  change (if (k : Int) = k then endFile _ ⟨k,chunks,file.contentType,file.filename.getD "",_⟩ else _) = _
  rw [if_pos rfl]
  unfold endFile receiving
  dsimp only
  have next : downloadNext (waiting contents payloadType files (k + 1)) = _ := next_asked (k + 1) (List.getElem?_eq_some_iff.mp here).1
  rw [changed,whole,← next]
  rfl

end ImageSearch.PageTransfers
