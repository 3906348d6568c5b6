import ImageSearch.LinkVisits

namespace ImageSearch.CachedShares
open Payload Transitions Threads DataChannels WebTransfers PageTransfers ShareLinks LinkVisits
open FileStashes (maxBatchFileCount)
open SharedStashes hiding handleAuth handleDownload

-- No text begins with a byte order mark.
def markFree (link : Share) : Bool := link.files.all fun file => file.content.all fun content => content.toList.head? ≠ some '\uFEFF'

-- A complete record that is found under the link's id was put by a visit to the link, and it is
-- still there when its files are read; the peer that accepts the code is the link's; a session
-- completes with all that its visit saved, and nothing else, under its id; and what cleanExpired
-- deletes under an id belongs to no session that is complete again.
def careful (w : World) (task : Task) (choice : Choice) : Bool :=
  match task,choice with
  | .visit (.checking i),.reads false => (w.shares[i]?).all fun link => (w.cache.sessions link.sessionId).all fun record =>
      record.status ≠ .complete || expired w.now record || record.share = i
  | .visit (.listing i record),.reads false => (w.shares[i]?).all fun link =>
      record.status ≠ .complete || w.cache.sessions link.sessionId = some record && markFree link
  | .visit (.online i page),.answers refuses => refuses || page.peer.all fun peer => (w.shares[peer]?).all fun served =>
      (w.shares[i]?).all fun link => page.up ≠ [.auth link.optCode] || !accepts w served link.optCode || peer = i
  | .visit (.online i page),.writes false => (w.shares[i]?).all fun link =>
      page.writes.head? ≠ some .completeSession || !page.lost && w.cache.filesOf link.sessionId = page.saved
  | .cleaning (some (id :: _)),.cleans => (w.cache.sessions id).all fun record => record.status ≠ .complete
  | _,_ => true

def carefully : Condition World Task Choice LinkEvent where
  own w task choice := careful w task choice = true

def savedInput : Effect → Option FileEntryInput
  | .saveFile entry => some entry
  | _ => none

def saves (link : Share) : List FileEntryInput := (savesBefore link link.files.length).filterMap savedInput

def inputOf (contents : String → Bytes) (file : FileEntry × Nat) : FileEntryInput :=
  match file.1.content with
  | some content =>
    let blob := content.toUTF8.data.toList
    ⟨file.2,file.1.entryType,if file.1.entryType = "html" then "text/html" else "text/plain","",blob.length,blob⟩
  | none => fileInput contents file.1 file.2

def inputs (link : Share) : List FileEntryInput := link.files.zipIdx.map (inputOf link.contents)

section Sorting
variable {link : Share} {contents : String → Bytes} {file : FileEntry × Nat}

theorem input_index : (inputOf contents file).index = file.2 := by
  unfold inputOf
  split <;> rfl

theorem inline_input (contents : String → Bytes) : inlineInput (entryOf file) = if file.1.content.isSome then some (inputOf contents file) else none := by
  obtain ⟨⟨filePath,filename,contentType,sizeBytes,content⟩,index⟩ := file
  unfold inlineInput
  rw [entry_inline]
  cases content <;> rfl

theorem saves_parts : saves link = (link.files.zipIdx.filter fun file => file.1.content.isSome).map (inputOf link.contents) ++
    (link.files.zipIdx.filter fun file => file.1.content.isNone).map (inputOf link.contents) := by
  unfold saves savesBefore
  rw [List.take_length,List.filterMap_append]
  congr 1
  · unfold inlineSaves entries
    rw [List.filterMap_filterMap,List.filterMap_map,← List.filterMap_eq_filter,List.map_filterMap]
    apply List.filterMap_congr
    intro file _
    rw [Function.comp_apply,inline_input link.contents]
    cases inline : file.1.content.isSome <;> simp [Option.guard,inline,savedInput]
  · unfold fileSaves
    rw [List.filterMap_map,← List.filterMap_eq_map]
    apply List.filterMap_congr
    intro file member
    have on_disk : file.1.content = none := by simpa using (List.mem_filter.mp member).2
    unfold inputOf
    rw [Function.comp_apply,Function.comp_apply,on_disk]
    rfl

theorem inputs_ordered : (inputs link).Pairwise fun a b => a.index < b.index := by
  have positions : (link.files.zipIdx.map Prod.snd).Pairwise (· < ·) := by
    rw [List.zipIdx_map_snd]
    exact List.pairwise_lt_range'
  unfold inputs
  rw [List.pairwise_map] at positions ⊢
  apply positions.imp
  intro a b less
  rw [input_index,input_index]
  exact Int.ofNat_lt.mpr less

theorem inputs_named {a b : FileEntryInput} (mine : a ∈ inputs link) (other : b ∈ inputs link) (same : a.index = b.index) : a = b := by
  obtain ⟨⟨file,k⟩,here,rfl⟩ := List.mem_map.mp mine
  obtain ⟨⟨file',k'⟩,there,rfl⟩ := List.mem_map.mp other
  rw [input_index,input_index] at same
  obtain rfl : k = k' := Int.ofNat.inj same
  have found : link.files[k]? = some file := List.mem_zipIdx_iff_getElem?.mp here
  have found' : link.files[k]? = some file' := List.mem_zipIdx_iff_getElem?.mp there
  obtain rfl := Option.some.inj (found.symm.trans found')
  rfl

theorem saves_sorted : byIndex (saves link) = inputs link := by
  have perm : (saves link).Perm (inputs link) := by
    rw [saves_parts,← List.map_append]
    apply List.Perm.map
    have split := List.filter_append_perm (fun file : FileEntry × Nat => file.1.content.isSome) link.files.zipIdx
    simpa using split
  have sorted : (byIndex (saves link)).Pairwise fun a b => a.index ≤ b.index := by
    have ordered : ((saves link).mergeSort fun a b => decide (a.index ≤ b.index)).Pairwise fun a b => decide (a.index ≤ b.index) = true :=
      List.pairwise_mergeSort (by intro a b c; simp; omega) (by intro a b; simp; omega) _
    unfold byIndex
    simpa using ordered
  have whole := (List.mergeSort_perm (saves link) fun a b => decide (a.index ≤ b.index)).trans perm
  apply List.Perm.eq_of_pairwise _ sorted (inputs_ordered.imp fun less => Int.le_of_lt less) whole
  intro a b mine other below above
  exact inputs_named (whole.subset mine) other (Int.le_antisymm below above)

end Sorting

section Display
variable {link : Share}

theorem text_kept {content : String} (plain : content.toList.head? ≠ some '\uFEFF') : blobText content.toUTF8.data.toList = content := by
  have decoded : decodeUtf8 content.toUTF8.data.toList = some content := by
    unfold decodeUtf8
    rw [Array.toArray_toList]
    simp only [String.fromUTF8?,String.toUTF8_eq_toByteArray,dif_pos content.isValidUTF8]
    rfl
  unfold blobText
  rw [decoded]
  exact if_neg plain

theorem input_type {contents : String → Bytes} {file : FileEntry × Nat} : (inputOf contents file).type = file.1.entryType := by
  unfold inputOf FileEntry.entryType
  cases file.1.content <;> rfl

theorem cached_inline {contents : String → Bytes} {file : FileEntry × Nat} :
    (cachedEntry (inputOf contents file)).isInline = file.1.content.isSome := by
  have inline := entry_inline file
  unfold ManifestFileEntry.isInline at inline ⊢
  rw [entry_type] at inline
  unfold cachedEntry
  dsimp only
  rw [input_type,inline]

theorem cached_content {contents : String → Bytes} {file : FileEntry × Nat}
    (plain : file.1.content.all (fun content => content.toList.head? ≠ some '\uFEFF') = true) :
    (cachedEntry (inputOf contents file)).content = file.1.content := by
  have inline : (decide ((inputOf contents file).type = "text") || decide ((inputOf contents file).type = "link") ||
      decide ((inputOf contents file).type = "html")) = file.1.content.isSome := cached_inline
  unfold cachedEntry
  dsimp only
  rw [inline]
  cases content : file.1.content with
  | none => rfl
  | some text =>
      have blob : (inputOf contents file).blob = text.toUTF8.data.toList := by
        unfold inputOf
        rw [content]
      have unmarked : text.toList.head? ≠ some '\uFEFF' := by
        rw [content] at plain
        simpa using plain
      rw [blob,text_kept unmarked]
      rfl

theorem cached_shows (plain : markFree link = true) :
    receiveScreen ((inputs link).map cachedRow) ((inputs link).map cachedEntry) = link.whole := by
  unfold receiveScreen inputs Share.whole
  rw [List.map_map,List.map_map,List.filterMap_map]
  conv_rhs => rw [← List.filterMap_eq_map]
  apply List.filterMap_congr
  intro file member
  have here := List.mem_zipIdx_iff_getElem?.mp member
  have listed : (link.files.zipIdx.map (cachedEntry ∘ inputOf link.contents))[file.2]? = some (cachedEntry (inputOf link.contents file)) := by
    rw [List.getElem?_map,List.getElem?_zipIdx,here]
    simp
  have nonneg : ¬((file.2 : Int) < 0) := by omega
  have row : (cachedRow (inputOf link.contents file)).index = file.2 := input_index
  have text : (cachedEntry (inputOf link.contents file)).content = file.1.content :=
    cached_content (List.all_eq_true.mp plain file.1 (List.fst_mem_of_mem_zipIdx member))
  simp only [Function.comp_apply,row,nonneg,if_false,Int.toNat_natCast,listed,Option.map_some,cached_inline,text]
  unfold wholeShown cachedEntry cachedRow
  dsimp only
  rw [input_type]
  unfold inputOf
  cases file.1.content <;> rfl

end Display

structure Kept (w : World) : Prop where
  few : ∀ (i : Nat) (link : Share), w.shares[i]? = some link → link.files.length ≤ maxBatchFileCount
  cached : ∀ sessionId record, w.cache.sessions sessionId = some record → record.status = .complete →
    ∃ link : Share, w.shares[record.share]? = some link ∧ link.sessionId = sessionId ∧ w.cache.filesOf sessionId = saves link

-- The page has handed its saves to the cache in their order, and those that are done succeeded
-- unless one is lost.
def Carries (link : Share) (i : Nat) (page : Online) : Prop :=
  ∃ executed, Stage link i page.peer page.transfer page.up page.down (executed ++ page.writes) ∧
    (page.lost = false → page.saved = executed.filterMap savedInput)

def Follows (w : World) : Task → Prop
  | .visit (.listing i record) => record.status = .complete → record.share = i
  | .visit (.cached i files manifest) => ∃ link : Share, w.shares[i]? = some link ∧ receiveScreen files manifest = link.whole
  | .visit (.online i page) => ∃ link : Share, w.shares[i]? = some link ∧ Carries link i page
  | .visit .closed | .visit (.checking _) | .cleaning _ => True

section Caches
variable {cache : Cache} {sessionId other : String} {share now : Nat} {entry : FileEntryInput}

theorem saved_files (different : other ≠ sessionId) : (cache.saveFile sessionId share entry).filesOf other = cache.filesOf other := by
  unfold Cache.saveFile Cache.filesOf Cache.putSession
  dsimp only
  rw [List.filter_append]
  simp [Ne.symm different]

theorem saved_session (different : other ≠ sessionId) : (cache.saveFile sessionId share entry).sessions other = cache.sessions other :=
  Function.update_of_ne different _ _

theorem saved_incomplete : ∃ record, (cache.saveFile sessionId share entry).sessions sessionId = some record ∧ record.status = .transferring :=
  ⟨_,Function.update_self ..,rfl⟩

theorem completed_session : (cache.completeSession sessionId share now).sessions sessionId = some ⟨.complete,some now,share⟩ :=
  Function.update_self ..

theorem completed_other (different : other ≠ sessionId) : (cache.completeSession sessionId share now).sessions other = cache.sessions other :=
  Function.update_of_ne different _ _

theorem deleted_files (different : other ≠ sessionId) : (cache.deleteFiles sessionId).filesOf other = cache.filesOf other := by
  unfold Cache.deleteFiles Cache.filesOf
  dsimp only
  rw [List.filter_filter]
  congr 1
  apply List.filter_congr
  intro record _
  by_cases same : record.sessionId = other
  · simp [same,different]
  · simp [same]

end Caches

section Keeping
variable {w w' : World} {task task' : Task} {visit visit' : Visit} {page page' : Online} {choice : Choice} {event : LinkEvent} {i : Nat} {link : Share}

theorem saves_all {executed rest : List Effect} (part : executed ++ .completeSession :: rest <+: script link) :
    executed = savesBefore link link.files.length := by
  obtain ⟨more,whole⟩ := part
  unfold script at whole
  rw [List.append_assoc] at whole
  rcases List.append_eq_append_iff.mp whole with ⟨between,saved,last⟩ | ⟨between,saved,last⟩
  · cases between with
    | nil => rw [saved,List.append_nil]
    | cons effect between =>
        obtain ⟨rfl,-⟩ := List.cons.inj last
        obtain ⟨entry,wrong⟩ := saves_save .completeSession (by rw [saved]; simp)
        cases wrong
  · have length := congrArg List.length last
    cases between with
    | nil => rw [saved,List.append_nil]
    | cons effect between => simp at length

theorem kept_session {sessionId : String} {cache : Cache} (kept : Kept w)
    (files : ∀ other, other ≠ sessionId → cache.sessions other = w.cache.sessions other ∧ cache.filesOf other = w.cache.filesOf other)
    (mine : ∀ record, cache.sessions sessionId = some record → record.status = .complete →
      ∃ link : Share, w.shares[record.share]? = some link ∧ link.sessionId = sessionId ∧ cache.filesOf sessionId = saves link) :
    Kept {w with cache} := by
  refine ⟨kept.few,?_⟩
  intro other record here complete
  by_cases same : other = sessionId
  · subst same
    exact mine record here complete
  · obtain ⟨sessions,files⟩ := files other same
    rw [files]
    exact kept.cached other record (sessions ▸ here) complete

theorem write_kept (kept : Kept w) (here : w.shares[i]? = some link) (carries : Carries link i page) {fails : Bool}
    (allowed : careful w (.visit (.online i page)) (.writes fails) = true) (taken : write w link.sessionId i page fails = some (w',page')) :
    w'.shares = w.shares ∧ Kept w' ∧ Carries link i page' := by
  obtain ⟨executed,stage,saved⟩ := carries
  unfold write at taken
  split at taken
  · rename_i entry rest writes
    have handed : Stage link i page.peer page.transfer page.up page.down ((executed ++ [.saveFile entry]) ++ rest) := by
      simpa [writes] using stage
    split at taken
    · cases taken
      exact ⟨rfl,kept,executed ++ [.saveFile entry],handed,fun fine => by cases fine⟩
    · cases taken
      refine ⟨rfl,?_,executed ++ [.saveFile entry],handed,?_⟩
      · apply kept_session kept
        · intro other different
          exact ⟨saved_session different,saved_files different⟩
        · intro record mine complete
          obtain ⟨put,same,transferring⟩ := @saved_incomplete w.cache link.sessionId i entry
          obtain rfl := Option.some.inj (same.symm.trans mine)
          rw [transferring] at complete
          cases complete
      · intro fine
        rw [List.filterMap_append,← saved fine]
        rfl
  · rename_i rest writes
    have handed : Stage link i page.peer page.transfer page.up page.down ((executed ++ [.completeSession]) ++ rest) := by
      simpa [writes] using stage
    have reads : page.lost = false → page.saved = (executed ++ [Effect.completeSession]).filterMap savedInput := by
      intro fine
      rw [List.filterMap_append,← saved fine]
      simp [savedInput]
    split at taken
    · cases taken
      exact ⟨rfl,kept,_,handed,reads⟩
    · rename_i succeeds
      cases taken
      refine ⟨rfl,?_,_,handed,reads⟩
      obtain ⟨fine,files⟩ : page.lost = false ∧ w.cache.filesOf link.sessionId = page.saved := by
        obtain rfl : fails = false := by simpa using succeeds
        simpa [careful,here,writes] using allowed
      have whole : w.cache.filesOf link.sessionId = saves link := by
        have part : executed ++ .completeSession :: rest <+: script link := by
          rw [writes] at stage
          exact stage_prefix stage
        rw [files,saved fine,saves_all part]
        rfl
      apply kept_session kept
      · intro other different
        exact ⟨completed_other different,rfl⟩
      · intro record mine _
        obtain rfl := Option.some.inj (completed_session.symm.trans mine)
        exact ⟨link,here,rfl,whole⟩
  · cases taken

theorem online_kept (kept : Kept w) (here : w.shares[i]? = some link) (carries : Carries link i page)
    (allowed : careful w (.visit (.online i page)) choice = true) (taken : stepOnline w i link page choice = some (w',page')) :
    w'.shares = w.shares ∧ Kept w' ∧ Carries link i page' := by
  have few := kept.few i link here
  cases choice with
  | connects peer =>
      obtain ⟨executed,stage,saved⟩ := carries
      unfold stepOnline at taken
      dsimp only at taken
      split at taken
      · rename_i free
        cases taken
        simp only [Bool.and_eq_true,Option.isNone_iff_eq_none] at free
        rw [free.1.1] at stage
        exact ⟨rfl,kept,executed,connected_stage stage peer,saved⟩
      · cases taken
  | answers refuses =>
      obtain ⟨executed,stage,saved⟩ := carries
      unfold stepOnline at taken
      dsimp only at taken
      split at taken
      · rename_i served request rest connected found up
        cases taken
        obtain ⟨q,asked,found⟩ := Option.bind_eq_some_iff.mp found
        obtain ⟨peer,running⟩ := Option.filter_eq_some_iff.mp asked
        rw [peer] at stage
        have mine : q = i → served = link := by
          intro same
          rw [same] at found
          exact Option.some.inj (found.symm.trans here)
        have right : page.up = [.auth link.optCode] → refuses = false → accepts w served link.optCode = true → q = i := by
          intro asks stands accepted
          simpa [careful,peer,found,here,asks,stands,accepted] using allowed
        refine ⟨rfl,kept,executed,?_,saved⟩
        dsimp only
        rw [peer]
        exact answered_stage few stage up mine right
      · cases taken
  | hears =>
      obtain ⟨executed,stage,saved⟩ := carries
      unfold stepOnline at taken
      dsimp only at taken
      split at taken
      · rename_i frame rest connected down
        cases taken
        have heard := heard_stage few stage down
        rw [List.append_assoc] at heard
        exact ⟨rfl,kept,executed,heard,saved⟩
      · cases taken
  | writes fails => exact write_kept kept here carries allowed taken
  | fails | disconnects =>
      cases taken
      exact ⟨rfl,kept,carries⟩
  | opens share | reads fails | cleans => cases taken

theorem visit_kept (kept : Kept w) (follows : Follows w (.visit visit)) (allowed : careful w (.visit visit) choice = true)
    (taken : stepVisit w visit choice = some (w',visit')) : w'.shares = w.shares ∧ Kept w' ∧ Follows w' (.visit visit') := by
  have fresh : ∀ {i : Nat} {link : Share}, w.shares[i]? = some link → Follows w (.visit (.online i {})) := fun here =>
    ⟨_,here,[],.connecting,fun _ => rfl⟩
  unfold stepVisit at taken
  split at taken
  · obtain ⟨link,here,made⟩ := Option.map_eq_some_iff.mp taken
    cases made
    exact ⟨rfl,kept,trivial⟩
  · rename_i i fails
    obtain ⟨link,here,made⟩ := Option.map_eq_some_iff.mp taken
    split at made
    · rename_i record found
      split at made
      · cases made
        exact ⟨rfl,kept,fresh here⟩
      · rename_i stands
        cases made
        refine ⟨rfl,kept,?_⟩
        intro complete
        simpa [careful,here,found,complete,show expired w.now record = false by simpa [complete] using stands] using allowed
    · cases made
      exact ⟨rfl,kept,fresh here⟩
  · rename_i i record fails
    obtain ⟨link,here,made⟩ := Option.map_eq_some_iff.mp taken
    dsimp only at made
    split at made
    · rename_i reads
      cases made
      obtain ⟨rfl,complete⟩ : fails = false ∧ record.status = .complete := by simpa using reads
      obtain ⟨found,plain⟩ : w.cache.sessions link.sessionId = some record ∧ markFree link = true := by
        simpa [careful,here,complete] using allowed
      obtain ⟨link',there,_,files⟩ := kept.cached _ _ found complete
      rw [follows complete,here] at there
      cases there
      refine ⟨rfl,kept,link,here,?_⟩
      rw [files,saves_sorted]
      exact cached_shows plain
    · cases made
      exact ⟨rfl,kept,fresh here⟩
  · rename_i i page
    obtain ⟨link,here,moved⟩ := Option.bind_eq_some_iff.mp taken
    obtain ⟨⟨world,after⟩,stepped,made⟩ := Option.map_eq_some_iff.mp moved
    cases made
    obtain ⟨link',there,carries⟩ := follows
    obtain rfl := Option.some.inj (there.symm.trans here)
    obtain ⟨shares,kept,carries⟩ := online_kept kept here carries allowed stepped
    exact ⟨shares,kept,link',by rw [shares]; exact here,carries⟩
  · cases taken

theorem task_kept (kept : Kept w) (follows : Follows w task) (allowed : careful w task choice = true)
    (taken : stepTask w task choice = some (w',task')) : w'.shares = w.shares ∧ Kept w' ∧ Follows w' task' := by
  unfold stepTask at taken
  split at taken
  · obtain ⟨⟨world,visit⟩,moved,made⟩ := Option.map_eq_some_iff.mp taken
    cases made
    exact visit_kept kept follows allowed moved
  · cases taken
    refine ⟨rfl,⟨kept.few,?_⟩,trivial⟩
    intro sessionId record here complete
    exact kept.cached sessionId record (Option.filter_eq_some_iff.mp here).1 complete
  · rename_i id rest
    cases taken
    refine ⟨rfl,⟨kept.few,?_⟩,trivial⟩
    intro sessionId record here complete
    have different : sessionId ≠ id := by
      intro same
      subst same
      have incomplete : record.status ≠ .complete := by
        simpa [careful,show w.cache.sessions sessionId = some record from here] using allowed
      exact incomplete complete
    rw [deleted_files different]
    exact kept.cached sessionId record here complete
  · cases taken

theorem follows_on (grows : ∀ (i : Nat) (link : Share), w.shares[i]? = some link → w'.shares[i]? = some link) (follows : Follows w task) :
    Follows w' task := by
  cases task with
  | cleaning expired => trivial
  | visit visit =>
      cases visit with
      | closed | checking => trivial
      | listing => exact follows
      | cached =>
          obtain ⟨link,here,whole⟩ := follows
          exact ⟨link,grows _ _ here,whole⟩
      | online =>
          obtain ⟨link,here,carries⟩ := follows
          exact ⟨link,grows _ _ here,carries⟩

theorem event_grows (taken : linkEvent w event = some w') :
    w'.cache = w.cache ∧ (∀ (i : Nat) (link : Share), w.shares[i]? = some link → w'.shares[i]? = some link) ∧
      ∀ (i : Nat) (link : Share), w'.shares[i]? = some link → w.shares[i]? = some link ∨ link.files.length ≤ maxBatchFileCount := by
  cases event with
  | share desktop optCode files contents persists =>
      unfold linkEvent at taken
      dsimp only at taken
      split at taken
      · cases taken
      · rename_i sized
        cases taken
        refine ⟨rfl,?_,?_⟩
        · intro i link here
          exact List.getElem?_append_left (List.getElem?_eq_some_iff.mp here).1 |>.trans here
        · intro i link here
          by_cases old : i < w.shares.length
          · left
            exact (List.getElem?_append_left old).symm.trans here
          · right
            dsimp only at here
            rw [List.getElem?_append_right (by omega)] at here
            obtain rfl := List.mem_singleton.mp (List.mem_of_getElem? here)
            have bounds : files ≠ [] ∧ files.length ≤ maxBatchFileCount := by simpa using sized
            exact bounds.2
  | restart desktop lost =>
      cases taken
      exact ⟨rfl,fun _ _ here => here,fun _ _ here => .inl here⟩
  | peerDone peer =>
      cases taken
      exact ⟨rfl,fun _ _ here => here,fun _ _ here => .inl here⟩
  | clock now =>
      cases taken
      exact ⟨rfl,fun _ _ here => here,fun _ _ here => .inl here⟩

theorem event_kept (kept : Kept w) (taken : linkEvent w event = some w') : Kept w' := by
  obtain ⟨cache,grows,sized⟩ := event_grows taken
  constructor
  · intro i link here
    rcases sized i link here with old | few
    · exact kept.few i link old
    · exact few
  · intro sessionId record here complete
    rw [cache] at here ⊢
    obtain ⟨link,share,same,files⟩ := kept.cached sessionId record here complete
    exact ⟨link,grows _ _ share,same,files⟩

def shown : Assertions World Task where
  world := Kept
  thread := Follows

theorem shown_stable : Stable shown stepTask linkEvent carefully where
  own kept follows allowed taken := (task_kept kept follows allowed taken).2
  other kept follows other _ _ allowed _ taken :=
    ⟨follows_on (fun _ _ here => by rw [(task_kept kept follows allowed taken).1]; exact here) other,trivial,trivial⟩
  eventWorld kept taken := event_kept kept taken
  eventThread _ follows _ taken := follows_on (event_grows taken).2.1 follows

end Keeping

section Results
variable {Index : Type*} [DecidableEq Index] {start next : Pool Index World Task} {visit : Visit} {i : Index} {share : Nat} {shown : Screen}

structure Starts (start : Pool Index World Task) : Prop where
  shares : start.world.shares = []
  cache : start.world.cache = {}
  threads : ∀ i, start.threads i = .visit .closed ∨ start.threads i = .cleaning none

-- Whatever desktops share and restart and whatever visits overlap, what a page shows for a link
-- is of the share of that link.
theorem links_shown (starts : Starts start) (path : Reaches (browserPool Index) carefully.Admits start next)
    (here : next.threads i = .visit visit) (page : visited visit = some share) (visible : screen visit = some shown) :
    ∃ link, next.world.shares[share]? = some link ∧ Shows link shown := by
  have beginning : CachedShares.shown.Hold start := by
    refine ⟨⟨?_,?_⟩,?_,fun _ _ _ => trivial⟩
    · intro k link found
      rw [starts.shares] at found
      cases found
    · intro sessionId record found
      rw [starts.cache] at found
      cases found
    · intro j
      rcases starts.threads j with same | same <;> rw [same] <;> trivial
  have follows := (hold_reaches shown_stable beginning path).thread i
  rw [here] at follows
  cases visit with
  | closed => cases page
  | checking | listing => cases visible
  | cached =>
      obtain ⟨link,found,whole⟩ := follows
      cases page
      cases visible
      exact ⟨link,found,whole⟩
  | online =>
      obtain ⟨link,found,executed,stage,_⟩ := follows
      cases page
      exact ⟨link,found,stage_shows stage visible⟩

instance (w : World) (task : Task) (choice : Choice) : Decidable (carefully.own w task choice) :=
  inferInstanceAs (Decidable (careful w task choice = true))
instance (w : World) (one two : Task) (choice : Choice) : Decidable (carefully.beside w one choice two) := inferInstanceAs (Decidable True)
instance (w : World) (event : LinkEvent) (task : Task) : Decidable (carefully.event w event task) := inferInstanceAs (Decidable True)

def twoTabs : Pool Bool World Task := ⟨{},fun _ => .visit .closed⟩

theorem twoTabs_starts : Starts twoTabs := ⟨rfl,rfl,fun _ => .inl rfl⟩

def shareText (desktop : Nat) (optCode content : String) : LinkEvent := .share desktop optCode [{content:=some content}] (fun _ => []) true

def textShown (content : String) : List Shown := [⟨0,"text",some "",some content.toUTF8.data.toList⟩]

def receiveText (share : Nat) : List Choice :=
  [.opens share,.reads false,.connects share,.answers false,.hears,.answers false,.hears,.writes false,.writes false]

def showsText (tab : Bool) (share : Nat) (content : String) (next : Pool Bool World Task) : Bool :=
  match next.threads tab with
  | .visit visit => visited visit = some share && screen visit = some (.received (textShown content))
  | .cleaning _ => false

-- The first links of two desktops have the id 1: the second shows the text of the first.
theorem other_share_shown : ∃ next, Starts twoTabs ∧ Reachable (browserPool Bool) twoTabs next ∧ ∃ visit, next.threads true = .visit visit ∧
    visited visit = some 1 ∧ ∃ shown, screen visit = some shown ∧ ∀ link, next.world.shares[1]? = some link → ¬Shows link shown := by
  obtain ⟨next,path,seen⟩ := checkedRun_exhibits (browserPool Bool) (fun _ _ => True) twoTabs
    (.environment (shareText 0 "123456" "cat") :: .environment (shareText 1 "654321" "dog") ::
      (receiveText 0).map (.thread false) ++ [.opens 1,.reads false,.reads false].map (.thread true))
    (fun next => showsText true 1 "cat" next && (next.world.shares[1]?).all fun link => link.whole = textShown "dog") (by decide +kernel)
  obtain ⟨shows,other⟩ := Bool.and_eq_true_iff.mp seen
  unfold showsText at shows
  split at shows
  · rename_i visit here
    simp only [Bool.and_eq_true,decide_eq_true_eq] at shows
    refine ⟨next,twoTabs_starts,path,visit,here,shows.1,_,shows.2,?_⟩
    intro link found same
    rw [found] at other
    have whole : link.whole = textShown "dog" := by simpa using other
    have mixed : textShown "cat" = textShown "dog" := same.trans whole
    exact absurd mixed (by decide +kernel)
  · cases shows

-- One link that is visited again within seven days.
theorem revisited_text : ∃ next : Pool Bool World Task, ∃ visit, next.threads true = .visit visit ∧ visited visit = some 0 ∧
    screen visit = some (.received (textShown "cat")) ∧ ∃ link, next.world.shares[0]? = some link ∧ Shows link (.received (textShown "cat")) := by
  obtain ⟨next,path,seen⟩ := checkedRun_exhibits (browserPool Bool) carefully.Admits twoTabs
    (.environment (shareText 0 "123456" "cat") :: (receiveText 0).map (.thread false) ++
      [.opens 0,.reads false,.reads false].map (.thread true))
    (showsText true 0 "cat") (by decide +kernel)
  unfold showsText at seen
  split at seen
  · rename_i visit here
    simp only [Bool.and_eq_true,decide_eq_true_eq] at seen
    exact ⟨next,visit,here,seen.1,seen.2,links_shown twoTabs_starts path here seen.1 seen.2⟩
  · cases seen

end Results

end ImageSearch.CachedShares
