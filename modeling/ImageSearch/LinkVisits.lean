import ImageSearch.SentFiles
import ImageSearch.ShareLinks

namespace ImageSearch.LinkVisits
open Payload DataChannels WebTransfers SentFiles PageTransfers ShareLinks
open FileStashes (maxBatchFileCount)
open SharedStashes hiding handleAuth handleDownload

-- What a visit hands to the cache before it asks for the file `k`, and in all.
def fileSaves (contents : String → Bytes) (files : List FileEntry) : List Effect :=
  (files.zipIdx.filter fun file => file.1.content.isNone).map fun file => .saveFile (fileInput contents file.1 file.2)

def savesBefore (link : Share) (k : Nat) : List Effect := inlineSaves link.files ++ fileSaves link.contents (link.files.take k)

def script (link : Share) : List Effect := savesBefore link link.files.length ++ [.completeSession]

section Saves
variable {link : Share} {k : Nat} {file : FileEntry}

theorem saves_next (here : link.files[k]? = some file) : savesBefore link (k + 1) =
    savesBefore link k ++ if file.content.isNone then [.saveFile (fileInput link.contents file k)] else [] := by
  obtain ⟨bound,same⟩ := List.getElem?_eq_some_iff.mp here
  have length : (link.files.take k).length = k := by
    rw [List.length_take]
    omega
  unfold savesBefore fileSaves
  rw [List.take_add_one,here,Option.toList_some,List.zipIdx_append,length,Nat.zero_add,List.filter_append,List.map_append,List.append_assoc]
  cases content : file.content <;> simp [content]

theorem saves_from (left k : Nat) (count : k + left = link.files.length) : savesBefore link (fileFrom link.files k) = savesBefore link k := by
  induction left generalizing k with
  | zero =>
      have last : fileFrom link.files k = k := by
        unfold fileFrom
        rw [List.drop_eq_nil_of_le (by omega)]
        rfl
      rw [last]
  | succ left ih =>
      have here := List.getElem?_eq_getElem (show k < link.files.length by omega)
      rw [file_from_here here]
      by_cases inline : (link.files[k]).content.isSome = true
      · rw [if_pos inline,ih (k + 1) (by omega),saves_next here]
        cases content : (link.files[k]).content with
        | none =>
            rw [content] at inline
            cases inline
        | some text => simp
      · rw [if_neg inline]

theorem inline_saves_saves : ∀ effect ∈ inlineSaves link.files, ∃ entry, effect = .saveFile entry := by
  intro effect member
  obtain ⟨entry,_,made⟩ := List.mem_filterMap.mp member
  obtain ⟨input,_,rfl⟩ := Option.map_eq_some_iff.mp made
  exact ⟨input,rfl⟩

theorem saves_save : ∀ effect ∈ savesBefore link k, ∃ entry, effect = .saveFile entry := by
  intro effect member
  rcases List.mem_append.mp member with inline | file
  · exact inline_saves_saves effect inline
  · obtain ⟨file,_,rfl⟩ := List.mem_map.mp file
    exact ⟨_,rfl⟩

theorem saves_prefix (k : Nat) : savesBefore link k <+: script link := by
  have files : fileSaves link.contents (link.files.take k) <+: fileSaves link.contents link.files := by
    unfold fileSaves
    apply List.IsPrefix.map
    apply List.IsPrefix.filter
    obtain ⟨rest,same⟩ := List.take_prefix k link.files
    conv_rhs => rw [← same]
    rw [List.zipIdx_append]
    exact List.prefix_append _ _
  obtain ⟨rest,same⟩ := files
  unfold script savesBefore
  rw [List.take_length,← same]
  exact ⟨rest ++ [.completeSession],by simp⟩

end Saves

-- Where a visit stands once the cache had nothing: the peer, the page, what is under way, and
-- what the page has handed to the cache. From the first answer on, the peer is the link's.
inductive Stage (link : Share) (i : Nat) : Option Nat → Transfer → List Effect → List Frame → List Effect → Prop where
  | connecting : Stage link i none {} [] [] []
  | asked {p} : Stage link i (some p) (openChannel link.optCode).1 [.auth link.optCode] [] []
  | refused {p} : Stage link i (some p) (openChannel link.optCode).1 [] [.authError] []
  | admitted {payloadType} : Stage link i (some i) (openChannel link.optCode).1 [] [.authOk payloadType] []
  | listing {payloadType} : Stage link i (some i) (admitted payloadType) [.manifest] [] []
  | listed {payloadType} : Stage link i (some i) (admitted payloadType) [] [manifestFrame link.files] []
  | unlisted {payloadType code message} : Stage link i (some i) (admitted payloadType) [] [.error code message] []
  | waiting {payloadType k file} (here : link.files[k]? = some file) (on_disk : file.content = none) :
      Stage link i (some i) (waiting link.contents payloadType link.files k) [.download k] [] (savesBefore link k)
  | sent {payloadType k file} (here : link.files[k]? = some file) (on_disk : file.content = none) :
      Stage link i (some i) (waiting link.contents payloadType link.files k) []
        (startFrame link.contents file k :: (chunkFrames link.contents k file ++ endFrames link.contents k file)) (savesBefore link k)
  | unsent {payloadType k code message} :
      Stage link i (some i) (waiting link.contents payloadType link.files k) [] [.error code message] (savesBefore link k)
  | receiving {payloadType k file before after} (here : link.files[k]? = some file) (on_disk : file.content = none)
      (parts : chunkFrames link.contents k file = before ++ after) :
      Stage link i (some i) (receiving link.contents payloadType link.files k file (before.map chunkData)) []
        (after ++ endFrames link.contents k file) (savesBefore link k)
  | complete {payloadType up} (last : up = [.bye] ∨ up = []) :
      Stage link i (some i) (complete link.contents payloadType link.files) up [] (script link)
  | failed {p t code message issued} (state : t.state = .error code message) (part : issued <+: script link) :
      Stage link i (some p) t [] [] issued

section Steps
variable {link : Share} {i : Nat} {p : Option Nat} {t : Transfer} {up writes issued : List Effect} {down : List Frame} {k : Nat}
  {file : FileEntry} {payloadType : String}

theorem stage_prefix (stage : Stage link i p t up down issued) : issued <+: script link := by
  cases stage with
  | waiting | sent | unsent | receiving => exact saves_prefix _
  | complete => exact List.prefix_rfl
  | failed state part => exact part
  | connecting | asked | refused | admitted | listing | listed | unlisted => exact List.nil_prefix

-- Where the page is when it has the manifest and the entries before `k`.
theorem asking_stage (bound : k ≤ link.files.length) :
    let next := asking link.contents payloadType link.files k
    Stage link i (some i) next.1 (next.2.filter fun effect => !isWrite effect) [] (savesBefore link k ++ next.2.filter isWrite) := by
  have from_here : savesBefore link (fileFrom link.files k) = savesBefore link k := saves_from (link.files.length - k) k (by omega)
  have found := file_from bound
  unfold asking
  split
  · rename_i more
    have here := List.getElem?_eq_getElem more
    rw [← from_here]
    simpa [isWrite] using Stage.waiting here (found.2 _ here)
  · rename_i last
    have ended : fileFrom link.files k = link.files.length := by omega
    rw [← from_here,ended]
    exact Stage.complete (.inl rfl)

theorem inline_kept : (inlineSaves link.files).filter isWrite = inlineSaves link.files ∧
    (inlineSaves link.files).filter (fun effect => !isWrite effect) = [] := by
  constructor
  · apply List.filter_eq_self.mpr
    intro effect member
    obtain ⟨entry,rfl⟩ := inline_saves_saves effect member
    rfl
  · apply List.filter_eq_nil_iff.mpr
    intro effect member
    obtain ⟨entry,rfl⟩ := inline_saves_saves effect member
    simp [isWrite]

theorem manifest_heard : hear (admitted payloadType) (manifestFrame link.files) =
    ((asking link.contents payloadType link.files 0).1,inlineSaves link.files ++ (asking link.contents payloadType link.files 0).2) := by
  have items : ((link.files.zipIdx.map fun file => manifestItem file.1 file.2).map wireItem).map seen = entries link.files := by
    rw [List.map_map,List.map_map]
    rfl
  change handleControl _ (.manifest (((link.files.zipIdx.map fun file => manifestItem file.1 file.2).map wireItem).map seen)) = _
  rw [items]
  exact manifest_received

-- What the page makes of the next frame: it goes on with the exchange, or shows the error.
theorem heard_stage {frames : List Frame} {frame : Frame} (few : link.files.length ≤ maxBatchFileCount)
    (stage : Stage link i p t up frames issued) (next : frames = frame :: down) :
    Stage link i p (hear t frame).1 (up ++ (hear t frame).2.filter fun effect => !isWrite effect) down
      (issued ++ (hear t frame).2.filter isWrite) := by
  cases stage with
  | connecting | asked | listing | waiting | complete | failed => cases next
  | refused =>
      cases next
      exact .failed rfl List.nil_prefix
  | admitted =>
      cases next
      exact .listing
  | listed =>
      rename_i payloadType
      cases next
      have started := @asking_stage link i 0 payloadType (Nat.zero_le _)
      rw [manifest_heard,List.filter_append,List.filter_append,inline_kept.1,inline_kept.2]
      simpa [savesBefore,fileSaves] using started
  | unlisted =>
      cases next
      exact .failed rfl List.nil_prefix
  | unsent =>
      rename_i payloadType k code message
      cases next
      have part : savesBefore link k ++ [] <+: script link := by
        rw [List.append_nil]
        exact saves_prefix k
      exact .failed rfl part
  | sent here on_disk =>
      rename_i payloadType k file
      cases next
      have heard : hear (waiting link.contents payloadType link.files k) (startFrame link.contents file k) = _ := start_received here
      have parts : chunkFrames link.contents k file = [] ++ chunkFrames link.contents k file := rfl
      rw [heard,List.filter_nil,List.filter_nil,List.append_nil,List.append_nil]
      exact .receiving here on_disk parts
  | receiving here on_disk parts =>
      rename_i payloadType k file before after
      have bound := (List.getElem?_eq_some_iff.mp here).1
      cases after with
      | cons chunk after =>
          cases next
          have sent : frame ∈ chunkFrames link.contents k file := by
            rw [parts]
            simp
          obtain ⟨offset,data,rfl⟩ := chunks_shape _ _ sent
          have received : receiveChunk (receiving link.contents payloadType link.files k file (before.map chunkData))
              (packField k ++ packField offset ++ data) = _ := chunk_received here _ data rfl _
          have heard : hear (receiving link.contents payloadType link.files k file (before.map chunkData)) (.chunk k offset data) =
              (receiving link.contents payloadType link.files k file ((before ++ [Frame.chunk k offset data]).map chunkData),[]) := by
            rw [List.map_append]
            exact congrArg (·,[]) received
          rw [heard,List.filter_nil,List.filter_nil,List.append_nil,List.append_nil]
          exact .receiving here on_disk (by rw [parts,List.append_assoc]; rfl)
      | nil =>
          rw [List.append_nil] at parts
          unfold endFrames at next
          split at next
          · rename_i fits
            cases next
            have small : k < fieldLimit := by
              unfold maxBatchFileCount at few
              unfold fieldLimit
              omega
            have whole := frames_whole small fits
            rw [parts] at whole
            have heard : hear (receiving link.contents payloadType link.files k file (before.map chunkData)) (.fileEnd (.int k)) = _ :=
              end_received here on_disk whole
            have asked := @asking_stage link i (k + 1) payloadType bound
            dsimp only at asked
            rw [saves_next here,on_disk,List.append_assoc] at asked
            rw [heard]
            exact asked
          · cases next

theorem answered_stage {w : World} {served : Share} {q : Nat} {ups rest : List Effect} {request : Effect} {refuses : Bool}
    (few : link.files.length ≤ maxBatchFileCount) (stage : Stage link i (some q) t ups down issued) (next : ups = request :: rest)
    (mine : q = i → served = link) (right : ups = [.auth link.optCode] → refuses = false → accepts w served link.optCode = true → q = i) :
    Stage link i (some q) t rest (down ++ answer w served refuses request) issued := by
  cases stage with
  | refused | admitted | listed | unlisted | sent | unsent | receiving | failed => cases next
  | asked =>
      cases next
      unfold answer
      dsimp only
      by_cases accepted : (!refuses && accepts w served link.optCode) = true
      · obtain ⟨stands,same⟩ := Bool.and_eq_true_iff.mp accepted
        obtain rfl := right rfl (by simpa using stands) same
        rw [if_pos accepted]
        exact .admitted
      · rw [if_neg accepted]
        exact .refused
  | listing =>
      cases next
      obtain rfl := mine rfl
      unfold answer
      dsimp only
      split
      · exact .unlisted
      · exact .listed
  | waiting here on_disk =>
      rename_i payloadType k file
      cases next
      obtain rfl := mine rfl
      have small : k < fieldLimit := by
        have bound := (List.getElem?_eq_some_iff.mp here).1
        unfold maxBatchFileCount at few
        unfold fieldLimit
        omega
      unfold answer
      dsimp only
      rw [Int.toNat_natCast,here]
      dsimp only
      split
      · exact .unsent
      · rw [on_disk,Option.elim_none,file_sent small]
        exact .sent here on_disk
  | complete last =>
      rcases last with rfl | rfl
      · cases next
        exact .complete (.inr rfl)
      · cases next

theorem connected_stage (stage : Stage link i none t up down issued) (q : Nat) :
    Stage link i (some q) (openChannel link.optCode).1 (openChannel link.optCode).2 down issued := by
  cases stage with
  | connecting => exact .asked

end Steps

section Screens
variable {link : Share} {i : Nat} {p : Option Nat} {t : Transfer} {up issued : List Effect} {down : List Frame} {k : Nat}

theorem entry_shown (file : FileEntry × Nat) :
    (entryOf file).filename = (wholeShown link.contents file).filename ∧ (entryOf file).content = file.1.content := by
  obtain ⟨⟨filePath,filename,contentType,sizeBytes,content⟩,index⟩ := file
  cases content <;> exact ⟨rfl,rfl⟩

theorem rows_shown {row : FileEntry × Nat → FileProgress} (named : ∀ file, (row file).index = file.2) :
    receiveScreen (link.files.zipIdx.map row) (entries link.files) = link.files.zipIdx.map fun file =>
      {wholeShown link.contents file with content:=if file.1.content.isSome then (wholeShown link.contents file).content else (row file).blob} := by
  unfold receiveScreen
  rw [List.filterMap_map,← List.filterMap_eq_map]
  apply List.filterMap_congr
  intro file member
  have here := List.mem_zipIdx_iff_getElem?.mp member
  have listed : (entries link.files)[file.2]? = some (entryOf file) := by
    unfold entries
    rw [List.getElem?_map,List.getElem?_zipIdx,here]
    simp
  have nonneg : ¬((file.2 : Int) < 0) := by omega
  obtain ⟨filename,content⟩ := @entry_shown link file
  dsimp only [Function.comp_apply]
  rw [named,if_neg nonneg,Int.toNat_natCast,listed,Option.map_some,entry_inline,entry_type,filename,content]
  unfold wholeShown
  cases file.1.content <;> rfl

theorem rows_arriving (now : FileProgress → FileProgress) (keeps : ∀ f, (now f).index = f.index ∧ (now f).blob = f.blob) :
    List.Forall₂ (fun now whole => now = whole ∨ now = {whole with content:=none})
      (receiveScreen (rows link.contents link.files k now) (entries link.files)) link.whole := by
  unfold rows Share.whole
  rw [rows_shown (row_index fun f => (keeps f).1),List.forall₂_map_left_iff,List.forall₂_map_right_iff,List.forall₂_same]
  intro file _
  by_cases inline : file.1.content.isSome = true
  · left
    rw [if_pos inline]
  · rw [if_neg inline]
    unfold row wholeRow
    rw [if_neg inline]
    have listed_blob : (listed (entryOf file)).blob = none := rfl
    split
    · left
      unfold wholeShown
      rw [Option.not_isSome_iff_eq_none.mp inline]
      rfl
    · right
      split
      · rw [(keeps _).2,listed_blob]
      · rw [listed_blob]

theorem rows_complete : receiveScreen (rows link.contents link.files link.files.length id) (entries link.files) = link.whole := by
  unfold rows Share.whole
  rw [rows_shown (row_index fun f => (rfl : (id f).index = f.index))]
  apply List.map_congr_left
  intro file member
  have bound := (List.getElem?_eq_some_iff.mp (List.mem_zipIdx_iff_getElem?.mp member)).1
  by_cases inline : file.1.content.isSome = true
  · rw [if_pos inline]
  · rw [if_neg inline]
    unfold row wholeRow wholeShown
    rw [if_pos bound,if_neg inline,Option.not_isSome_iff_eq_none.mp inline]
    rfl

theorem stage_shows {page : Online} {share : Nat} {shown : Screen} (stage : Stage link i p page.transfer up down issued)
    (visible : screen (.online share page) = some shown) : Shows link shown := by
  unfold screen at visible
  dsimp only at visible
  split at visible
  · cases visible
  · generalize page.transfer = t at stage visible
    cases stage with
    | connecting | asked | refused | admitted => cases visible
    | listing | listed | unlisted =>
        cases visible
        exact .inl rfl
    | waiting | sent | unsent =>
        cases visible
        exact .inr (rows_arriving id fun _ => ⟨rfl,rfl⟩)
    | receiving =>
        cases visible
        exact .inr (rows_arriving _ fun _ => ⟨rfl,rfl⟩)
    | complete =>
        cases visible
        exact rows_complete
    | failed state =>
        rw [state] at visible
        cases visible

end Screens

end ImageSearch.LinkVisits
