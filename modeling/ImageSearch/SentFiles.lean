import ImageSearch.GuardedChannels

namespace ImageSearch.SentFiles
open Payload DataChannels GuardedChannels
open SharedStashes hiding handleAuth handleDownload

variable (contents : String → Bytes)

-- What a peer sends of its stash: the manifest, and around the chunks of a file.
def manifestFrame (files : List FileEntry) : Frame :=
  .manifest ((files.zipIdx.map fun file => manifestItem file.1 file.2).map wireItem)

def startFrame (file : FileEntry) (k : Nat) : Frame :=
  let size := (contents file.filePath).length
  .fileStart (.int k) file.contentType (file.filename.getD "") size (estimateChunkCount size)

-- The frames of a file: those of a file of more than four GiB lack the end.
def chunkFrames (k : Nat) (file : FileEntry) : List Frame :=
  let bytes := contents file.filePath
  (sendChunks true k bytes (estimateChunkCount bytes.length) 0).1

def endFrames (k : Nat) (file : FileEntry) : List Frame :=
  if (contents file.filePath).length ≤ fieldLimit then [.fileEnd (.int k)] else []

variable {contents} {file : FileEntry} {k index : Nat} {bytes : Bytes}

def chunkData : Frame → Bytes
  | .chunk _ _ data => data
  | _ => []

theorem chunks_shape (chunks offset : Nat) {frame : Frame} (sent : frame ∈ (sendChunks true index bytes chunks offset).1) :
    ∃ offset data, frame = .chunk index offset data := by
  induction chunks generalizing offset with
  | zero => cases sent
  | succ chunks ih =>
      unfold sendChunks at sent
      split at sent
      · cases sent
      · rw [if_pos rfl] at sent
        rcases List.mem_cons.mp sent with rfl | later
        · exact ⟨_,_,rfl⟩
        · exact ih _ later

-- The chunks that are sent without an error are the file from the offset on.
theorem chunks_tile (chunks offset : Nat) (enough : bytes.length ≤ offset + chunks * maxMessageSize)
    (fine : (sendChunks true index bytes chunks offset).2 = false) :
    ((sendChunks true index bytes chunks offset).1.map chunkData).flatten = bytes.drop offset := by
  induction chunks generalizing offset with
  | zero =>
      rw [Nat.zero_mul,Nat.add_zero] at enough
      rw [List.drop_eq_nil_of_le enough]
      rfl
  | succ chunks ih =>
      unfold sendChunks at fine ⊢
      split at fine
      · cases fine
      · rename_i fits
        rw [if_neg fits]
        rw [if_pos rfl] at fine ⊢
        dsimp only at fine ⊢
        have taken : ((bytes.drop offset).take maxMessageSize).length = min maxMessageSize (bytes.length - offset) := by
          rw [List.length_take,List.length_drop]
        have rest := ih _ (by rw [taken]; rw [Nat.succ_mul] at enough; omega) fine
        rw [List.map_cons,List.flatten_cons,rest]
        change (bytes.drop offset).take maxMessageSize ++ _ = _
        rw [← List.drop_drop,taken]
        conv_rhs => rw [← List.take_append_drop maxMessageSize (bytes.drop offset)]
        congr 1
        by_cases full : maxMessageSize ≤ bytes.length - offset
        · rw [Nat.min_eq_left full]
        · rw [Nat.min_eq_right (by omega),List.drop_eq_nil_of_le (by simp),List.drop_eq_nil_of_le (by rw [List.length_drop]; omega)]

theorem count_enough (size : Nat) : size ≤ 0 + estimateChunkCount size * maxMessageSize := by
  unfold estimateChunkCount maxMessageSize
  split <;> omega

theorem file_sent (few : k < fieldLimit) : (sendFile true (.int k) (contents file.filePath) file).1 =
    startFrame contents file k :: (chunkFrames contents k file ++ endFrames contents k file) := by
  have raises := chunks_raise true k (contents file.filePath)
  unfold sendFile endFrames chunkFrames
  have index : ((asInt (.int k)).getD 0).toNat = k := rfl
  rw [index]
  by_cases fits : (contents file.filePath).length ≤ fieldLimit
  · have fine : packs true k (contents file.filePath).length = true := by
      unfold packs
      simp [few,fits]
    rw [fine] at raises
    simp only [raises,Bool.not_true,Bool.false_eq_true,if_false,if_pos fits]
    rfl
  · have late : packs true k (contents file.filePath).length = false := by
      unfold packs
      simp [fits]
    rw [late] at raises
    simp only [raises,Bool.not_false,if_true,if_neg fits,List.append_nil]
    rfl

theorem frames_whole (few : k < fieldLimit) (fits : (contents file.filePath).length ≤ fieldLimit) :
    ((chunkFrames contents k file).map chunkData).flatten = contents file.filePath := by
  have fine : (sendChunks true k (contents file.filePath) (estimateChunkCount (contents file.filePath).length) 0).2 = false := by
    rw [chunks_raise]
    unfold packs
    simp [few,fits]
  exact chunks_tile _ _ (count_enough _) fine

end ImageSearch.SentFiles
