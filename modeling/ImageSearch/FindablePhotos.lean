import ImageSearch.OwnedWorkers

namespace ImageSearch.FindablePhotos
open Transitions ReferentialStore FileCatalog IndexCalls IndexWorkers FolderEvents FolderPaths OwnedFiles OwnedWorkers

variable {Vector : Type*} {library next : PhotoLibrary Vector} {indexer indexer' : Indexer Vector} {catalog : Catalog}

def indexerSystem (Vector : Type*) : System (Indexer Vector) (Operation Vector) := ⟨stepIndexer⟩

def newIndexer (indices : Nat → Option (IndexFile Vector)) : Indexer Vector :=
  ⟨⟨⟨.empty,1,.empty,1⟩,indices⟩,.idle,[],none⟩

-- What a search relies on: an indexed path has one row, in the folder that it is looked for
-- in, and this folder's index has the vector.
structure Findable (library : PhotoLibrary Vector) : Prop where
  once : ∀ one ∈ library.catalog.files.rows, ∀ two ∈ library.catalog.files.rows, one.status = .indexed →
    two.status = .indexed → one.path = two.path → one = two
  deepest : ∀ file ∈ library.catalog.files.rows, file.status = .indexed →
    Deepest (places library.catalog) file.folderId file.path
  vector : ∀ file ∈ library.catalog.files.rows, file.status = .indexed →
    ∃ id, file.clipIndex = some id ∧ id ∈ indexIds library file.folderId

theorem sound_findable (sound : Sound library) : Findable library := by
  have deepest : ∀ file ∈ library.catalog.files.rows, file.status = .indexed →
      Deepest (places library.catalog) file.folderId file.path :=
    fun file member indexed => sound.ordered.owned file member (by simp [indexed])
  refine ⟨?_,deepest,?_⟩
  · intro one member two member' indexed indexed' path
    have here := deepest two member' indexed'
    rw [← path] at here
    exact sound.ordered.unique one member two member' path
      (deepest_unique sound.ordered.distinct (deepest one member indexed) here)
  · intro file member indexed
    exact (sound.searchable file member indexed).resolve_left nofun

def newDirectory (catalog : Catalog) (path : String) : Bool :=
  path ∈ folderPathVariants path && catalog.folders.rows.all fun folder =>
    directory folder.path ≠ directory path || folder.path = path

def nothingBelow (catalog : Catalog) (path : String) : Bool := catalog.files.rows.all fun file =>
  file.status = .removed || !decide (Contains path file.path) || catalog.folders.rows.all fun folder =>
    folder.id ≠ file.folderId || (directory path).length ≤ (directory folder.path).length

-- A live row that is renamed stays in the deepest folder, and an indexed one in its own.
def keepsFolder (catalog : Catalog) (src dest : String) (destFolder : Folder) : Bool := catalog.files.rows.all fun file =>
  file.path ≠ forwardSlashes src || file.status = .removed ||
    (honest catalog dest && (file.status = .pending || file.folderId = destFolder.id))

def workerAllows (library : PhotoLibrary Vector) : Worker Vector → WorkerInput Vector → Bool
  | .index worker,input => indexRecovers library worker input
  | .creation stage,input => creationAllows library stage input
  | .idle,_ => true

def orderly (indexer : Indexer Vector) : Operation Vector → Bool
  | .register folderPath => newDirectory indexer.library.catalog (forwardSlashes (normalizedFolderPath folderPath))
  | .mobile folderPath => newDirectory indexer.library.catalog (forwardSlashes folderPath) &&
      nothingBelow indexer.library.catalog (forwardSlashes folderPath)
  | .scan folder => indexer.library.catalog.folders.rows.any fun registered =>
      registered.id = folder.id && registered.path = folder.path
  | .rename => indexer.moving.all fun moving => moving.renames.head?.all fun rename =>
      keepsFolder indexer.library.catalog rename.1 rename.2.1 rename.2.2
  | .found names => names.all fun name => '\\' ∉ name.toList
  | .step input => workerAllows indexer.library indexer.worker input
  | _ => true

theorem insertFolder_orderly {path : String} (ordered : Ordered catalog)
    (new : newDirectory catalog (forwardSlashes path) = true)
    (deeper : ∀ file ∈ catalog.files.rows, file.status ≠ .removed → Contains (forwardSlashes path) file.path →
      ∀ place ∈ places catalog, place.1 = file.folderId → (directory (forwardSlashes path)).length ≤ (directory place.2).length) :
    Ordered (insertFolder catalog path) := by
  obtain ⟨plain,fresh⟩ := Bool.and_eq_true_iff.mp new
  refine ordered_insertFolder ordered (of_decide_eq_true plain) ?_ deeper
  intro place there same
  obtain ⟨folder,member,rfl⟩ := List.mem_map.mp there
  have either := List.all_eq_true.mp fresh folder member
  simpa [same] using either

theorem mobile_orderly {path : String} (ordered : Ordered catalog) (new : newDirectory catalog (forwardSlashes path) = true)
    (below : nothingBelow catalog (forwardSlashes path) = true) : Ordered (insertFolder catalog path) := by
  apply insertFolder_orderly ordered new
  intro file member live inside place there mine
  obtain ⟨folder,listed,rfl⟩ := List.mem_map.mp there
  have either := List.all_eq_true.mp below file member
  simp only [live,inside,decide_false,decide_true,Bool.not_true,Bool.false_or,List.all_eq_true] at either
  have same : folder.id = file.folderId := mine
  have here := either folder listed
  simpa [same] using here

theorem slashes_same {path : String} (unix : '\\' ∉ path.toList) : forwardSlashes path = path := by
  unfold forwardSlashes
  rw [slashes_unix unix,String.ofList_toList]

theorem plain_unix {path : String} (plain : path ∈ folderPathVariants path) : '\\' ∉ path.toList := by
  have clean : ∀ c ∈ path.toList.map (fun c => if c = '\\' then '/' else c), c ≠ '\\' := by
    intro c member
    obtain ⟨d,-,rfl⟩ := List.mem_map.mp member
    by_cases back : d = '\\'
    · simp [back]
    · simp [back]
  have trimmed : ∀ c ∈ rstrip (fun c => c = '/') (path.toList.map fun c => if c = '\\' then '/' else c), c ≠ '\\' := by
    intro c member
    unfold rstrip at member
    exact clean c (List.mem_reverse.mp ((List.dropWhile_suffix _).subset (List.mem_reverse.mp member)))
  intro back
  unfold folderPathVariants at plain
  dsimp only at plain
  split at plain
  · rw [List.mem_singleton.mp plain] at back
    exact absurd back (by decide)
  · rcases List.mem_cons.mp plain with same | rest
    · rw [same,String.toList_ofList] at back
      exact trimmed _ back rfl
    · rw [List.mem_singleton.mp rest,String.toList_ofList] at back
      rcases List.mem_append.mp back with inside | last
      · exact trimmed _ inside rfl
      · exact absurd last (by decide)

theorem slashes_again {path : String} : forwardSlashes (forwardSlashes path) = forwardSlashes path := by
  unfold forwardSlashes
  rw [String.toList_ofList,List.map_map]
  congr 1
  refine List.map_congr_left fun c _ => ?_
  by_cases back : c = '\\' <;> simp [back]

-- The UI looks for a parent first, so that nothing is below a folder that it inserts.
theorem register_orderly {path : String} (ordered : Ordered catalog)
    (new : newDirectory catalog (forwardSlashes (normalizedFolderPath path)) = true) : Ordered (registerFolder catalog path) := by
  have ends : (forwardSlashes (normalizedFolderPath path)).toList.getLast? = some '/' := by
    unfold forwardSlashes
    rw [String.toList_ofList,List.getLast?_map]
    have closed : (normalizedFolderPath path).toList.getLast? = some '/' := directory_ends
    rw [closed]
    rfl
  have clean := @slashes_again (normalizedFolderPath path)
  unfold registerFolder
  dsimp only
  generalize forwardSlashes (normalizedFolderPath path) = folderPath at new ends clean ⊢
  split
  · rename_i parent matched
    split
    · -- The parent is the folder itself, in the same spelling.
      rename_i same
      have member := (match_longest matched).1
      have spelt : forwardSlashes parent.path = parent.path :=
        slashes_same (plain_unix (ordered.plain _ (List.mem_map_of_mem member)))
      have equal : directory parent.path = directory folderPath := by
        unfold isSameFolderPath at same
        split at same
        · rw [of_decide_eq_true same] at ends
          cases ends
        · split at same
          · cases same
          · rw [spelt,clean] at same
            exact congrArg String.toList (of_decide_eq_true same)
      have known : parent.path = folderPath := by
        have either := List.all_eq_true.mp (Bool.and_eq_true_iff.mp new).2 parent member
        simpa [equal] using either
      unfold insertFolder
      dsimp only
      rw [clean,if_pos (List.any_eq_true.mpr ⟨parent,member,decide_eq_true known⟩)]
      exact ordered
    · exact ordered
  · rename_i unmatched
    rw [← clean] at new
    apply insertFolder_orderly ordered new
    intro file member live inside place there mine
    rw [clean] at inside ⊢
    by_contra deeper
    obtain ⟨owner,listed,mine',within,-⟩ := ordered.owned file member live
    cases place_same listed there (mine'.trans mine.symm)
    have nested := contains_nested within inside (by omega)
    have whole : directory folderPath = folderPath.toList := by
      rcases directory_cases folderPath with ⟨-,same⟩ | ⟨open',-⟩
      · exact same
      · exact absurd ends open'
    obtain ⟨rest,starts⟩ := path_directory.trans (whole ▸ nested)
    obtain ⟨folder,listed',rfl⟩ := List.mem_map.mp there
    have alike := match_none unmatched folder listed'
    rw [clean,← starts,like_self] at alike
    cases alike

section Runs
variable {worker worker' : Worker Vector} {input : WorkerInput Vector} {moving : Moving}

inductive WorkerFits (library : PhotoLibrary Vector) : Worker Vector → Prop
  | rests {worker : Worker Vector} (finished : worker.isFinished = true) (sound : Sound library) : WorkerFits library worker
  | indexes {worker : IndexWorker Vector} (fits : IndexFits library worker) : WorkerFits library (.index worker)
  | creates {stage : CreationStage Vector} (fits : CreationFits library stage) : WorkerFits library (.creation stage)

-- What is left of a move when it was sorted by what is in the tables still.
structure RenamesFit (catalog : Catalog) (moving : Moving) : Prop where
  matched : ∀ rename ∈ moving.renames, matchParentFolder catalog rename.2.1 = some rename.2.2
  found : moving.totalChanges = 0 → ∀ rename ∈ moving.renames, ∃ file ∈ catalog.files.rows, file.path = forwardSlashes rename.1

structure Steady (indexer : Indexer Vector) : Prop where
  worker : WorkerFits indexer.library indexer.worker
  moving : ∀ moving, indexer.moving = some moving → indexer.worker.isFinished = true ∧ RenamesFit indexer.library.catalog moving

theorem finished_stuck (finished : worker.isFinished = true) : stepWorker library worker (.step input) = none := by
  unfold Worker.isFinished at finished
  split at finished
  · rfl
  · cases input <;> rfl
  · cases input <;> rfl
  · cases finished

theorem fits_sound (fits : WorkerFits library worker) (finished : worker.isFinished = true) : Sound library := by
  cases fits with
  | rests _ sound => exact sound
  | @indexes worker fits =>
      refine ⟨fits.ordered,?_⟩
      have searchable := fits.searchable
      unfold IndexWorker.replaced at searchable
      split at searchable
      · rename_i call stands
        obtain ⟨folder,count,stage⟩ := worker
        cases stands
        cases finished
      · exact searchable
  | @creates stage fits =>
      refine ⟨fits.ordered,?_⟩
      cases stage with
      | finished => exact fits.searchable
      | _ => cases finished

theorem worker_keeps (fits : WorkerFits library worker) (allowed : workerAllows library worker input = true)
    (entered : ∀ path, input = .entry path → ∀ one, worker = .index one → IndexFits library one →
      Deepest (places library.catalog) one.folder.id (forwardSlashes path))
    (taken : stepWorker library worker (.step input) = some (next,worker')) : WorkerFits next worker' := by
  cases fits with
  | rests finished _ =>
      rw [finished_stuck finished] at taken
      cases taken
  | indexes fits =>
      obtain ⟨after,moved,same⟩ := Option.map_eq_some_iff.mp taken
      cases same
      exact .indexes (index_keeps fits allowed (fun path told => entered path told _ rfl fits) moved)
  | creates fits =>
      obtain ⟨after,moved,same⟩ := Option.map_eq_some_iff.mp taken
      cases same
      exact .creates (creation_keeps fits allowed moved)

theorem onMoved_fits {events : List (String × String)} {totalChanges : Nat} :
    RenamesFit catalog (onMoved catalog events totalChanges) := by
  have sorted : ∀ rename ∈ (onMoved catalog events totalChanges).renames,
      (∃ file, getFileByPath catalog rename.1 = some file) ∧ matchParentFolder catalog rename.2.1 = some rename.2.2 := by
    intro rename member
    obtain ⟨⟨src,dest⟩,-,sorted⟩ := List.mem_filterMap.mp member
    dsimp only at sorted
    split at sorted
    · rename_i file folder found matched
      cases sorted
      exact ⟨⟨file,found⟩,matched⟩
    · cases sorted
  refine ⟨fun rename member => (sorted rename member).2,?_⟩
  intro _ rename member
  obtain ⟨file,found⟩ := (sorted rename member).1
  have located := List.find?_some found
  exact ⟨file,List.mem_of_find?_eq_some found,of_decide_eq_true located⟩

-- A rename that was done is counted, so the files of a folder are never renamed with it.
theorem rename_keeps {after : Catalog × Option Moving} (fits : RenamesFit library.catalog moving) (sound : Sound library)
    (allowed : (moving.renames.head?.all fun rename => keepsFolder library.catalog rename.1 rename.2.1 rename.2.2) = true)
    (taken : renameNext library.catalog moving = some after) :
    Sound {library with catalog:=after.1} ∧ ∀ rest, after.2 = some rest → RenamesFit after.1 rest := by
  unfold renameNext at taken
  split at taken
  · cases taken
  · rename_i src dest folder renames listed
    rw [listed] at allowed
    have head : (src,dest,folder) ∈ moving.renames := listed ▸ List.mem_cons_self
    have matched : matchParentFolder library.catalog dest = some folder := fits.matched (src,dest,folder) head
    split at taken
    · cases taken
      exact ⟨sound,nofun⟩
    · rename_i renamed changes done
      have total : 0 < moving.totalChanges + changes := by
        by_cases none : moving.totalChanges = 0
        · obtain ⟨file,member,here⟩ := fits.found none (src,dest,folder) head
          exact Nat.add_pos_right _ (renamed_counts done member here)
        · exact Nat.add_pos_left (Nat.pos_of_ne_zero none) _
      dsimp only at taken
      rw [if_neg total.ne'] at taken
      cases taken
      have stays : ∀ file ∈ library.catalog.files.rows, file.path = forwardSlashes src → file.status ≠ .removed →
          honest library.catalog dest = true ∧ (file.status = .pending ∨ file.folderId = folder.id) := by
        intro file member path live
        have either := List.all_eq_true.mp allowed file member
        simpa [path,live] using either
      refine ⟨⟨?_,?_⟩,?_⟩
      · apply ordered_renamed sound.ordered done
        intro file member path live
        exact honest_deepest (stays file member path live).1 matched
      · apply searchable_renamed sound.searchable done
        intro file member path indexed
        have both := stays file member path (by simp [indexed])
        exact both.2.resolve_left (by simp [indexed])
      · intro rest same
        cases same
        refine ⟨?_,fun none => absurd none total.ne'⟩
        intro rename member
        have folders : renamed.folders = library.catalog.folders := by
          unfold renameFile at done
          dsimp only at done
          split at done <;> cases done
          rfl
        have before := fits.matched rename (listed ▸ List.mem_cons_of_mem _ member)
        unfold matchParentFolder at before ⊢
        rw [folders]
        exact before

theorem idle_parts (steady : Steady indexer) (idle : indexer.idle = true) :
    indexer.worker.isFinished = true ∧ indexer.moving = none ∧ Sound indexer.library := by
  obtain ⟨finished,still⟩ := Bool.and_eq_true_iff.mp idle
  exact ⟨finished,Option.isNone_iff_eq_none.mp still,fits_sound steady.worker finished⟩

theorem advance_keeps {input : ThreadInput Vector} (still : indexer.moving = none)
    (fits : ∀ next worker', stepWorker indexer.library indexer.worker input = some (next,worker') → WorkerFits next worker')
    (taken : indexer.advance input = some indexer') : Steady indexer' := by
  obtain ⟨⟨after,worker'⟩,moved,same⟩ := Option.map_eq_some_iff.mp taken
  cases same
  refine ⟨fits after worker' moved,?_⟩
  intro moving some
  cases still.symm.trans some

theorem advance_still {input : WorkerInput Vector} (steady : Steady indexer) (taken : indexer.advance (.step input) = some indexer') :
    indexer.moving = none := by
  cases moves : indexer.moving with
  | none => rfl
  | some moving =>
      have stuck := @finished_stuck _ indexer.library _ input (steady.moving moving moves).1
      unfold Indexer.advance at taken
      rw [stuck] at taken
      cases taken

theorem rests_steady (finished : indexer.worker.isFinished = true) (still : indexer.moving = none) (sound : Sound indexer.library) :
    Steady indexer := ⟨.rests finished sound,fun _ some => absurd (still.symm.trans some) nofun⟩

theorem insertFolder_files {path : String} : (insertFolder catalog path).files = catalog.files := by
  unfold insertFolder
  dsimp only
  split <;> rfl

theorem registerFolder_files {path : String} : (registerFolder catalog path).files = catalog.files := by
  unfold registerFolder
  dsimp only
  split
  · split
    · exact insertFolder_files
    · rfl
  · exact insertFolder_files

theorem sound_folders (sound : Sound library) (ordered : Ordered catalog) (same : catalog.files = library.catalog.files) :
    Sound {library with catalog} := by
  refine ⟨ordered,?_⟩
  intro file member indexed
  have there : file ∈ library.catalog.files.rows := same ▸ member
  exact sound.searchable file there indexed

theorem steady_step (steady : Steady indexer) {operation : Operation Vector} (allowed : orderly indexer operation = true)
    (taken : stepIndexer indexer operation = some indexer') : Steady indexer' := by
  unfold stepIndexer at taken
  split at taken
  · split at taken
    · rename_i idle
      obtain ⟨finished,still,sound⟩ := idle_parts steady idle
      cases taken
      exact rests_steady finished still (sound_folders sound (register_orderly sound.ordered allowed) registerFolder_files)
    · cases taken
  · split at taken
    · rename_i idle
      obtain ⟨finished,still,sound⟩ := idle_parts steady idle
      cases taken
      obtain ⟨new,below⟩ := Bool.and_eq_true_iff.mp allowed
      exact rests_steady finished still (sound_folders sound (mobile_orderly sound.ordered new below) insertFolder_files)
    · cases taken
  · split at taken
    · rename_i idle
      obtain ⟨finished,still,sound⟩ := idle_parts steady idle
      cases taken
      exact rests_steady finished still (sound_deleteFolder sound)
    · cases taken
  · rename_i folder
    split at taken
    · rename_i idle
      obtain ⟨finished,still,sound⟩ := idle_parts steady idle
      refine advance_keeps still ?_ taken
      intro next worker' moved
      unfold stepWorker at moved
      dsimp only at moved
      rw [if_pos finished] at moved
      cases moved
      obtain ⟨registered,member,same⟩ := List.any_eq_true.mp allowed
      obtain ⟨id,path⟩ : registered.id = folder.id ∧ registered.path = folder.path := by simpa using same
      refine .indexes ⟨sound.ordered,sound.searchable,?_,nofun⟩
      exact List.mem_map.mpr ⟨registered,member,by rw [id,path]⟩
    · cases taken
  · split at taken
    · rename_i idle
      obtain ⟨finished,still,sound⟩ := idle_parts steady idle
      cases taken
      exact rests_steady finished still sound
    · cases taken
  · split at taken
    · rename_i idle
      obtain ⟨finished,still,sound⟩ := idle_parts steady idle
      cases taken
      exact rests_steady finished still (sound_onDeleted sound)
    · cases taken
  · split at taken
    · rename_i idle
      obtain ⟨finished,still,sound⟩ := idle_parts steady idle
      cases taken
      refine ⟨.rests finished sound,?_⟩
      intro moving same
      cases same
      exact ⟨finished,onMoved_fits⟩
    · cases taken
  · obtain ⟨moving,moves,rest⟩ := Option.bind_eq_some_iff.mp taken
    obtain ⟨after,renamed,same⟩ := Option.map_eq_some_iff.mp rest
    cases same
    obtain ⟨finished,fits⟩ := steady.moving moving moves
    unfold orderly at allowed
    rw [moves] at allowed
    obtain ⟨sound,left⟩ := rename_keeps fits (fits_sound steady.worker finished) allowed renamed
    exact ⟨.rests finished sound,fun rest same => ⟨finished,left rest same⟩⟩
  · obtain ⟨moving,moves,rest⟩ := Option.bind_eq_some_iff.mp taken
    split at rest
    · cases rest
    · cases rest
      have finished := (steady.moving moving moves).1
      exact rests_steady finished rfl (sound_onDeleted (fits_sound steady.worker finished))
  · split at taken
    · split at taken
      · rename_i paths waiting _ idle
        obtain ⟨finished,still,sound⟩ := idle_parts steady idle
        refine @advance_keeps _ {indexer with waiting} _ _ still ?_ taken
        intro next worker' moved
        unfold stepWorker at moved
        dsimp only at moved
        split at moved
        · cases moved
          exact .creates ⟨sound.ordered,sound.searchable,fun _ member => absurd member List.not_mem_nil⟩
        · cases moved
      · cases taken
    · cases taken
  · rename_i names
    split at taken
    · rename_i worker runs
      obtain ⟨path,comes,moved⟩ := Option.bind_eq_some_iff.mp taken
      refine advance_keeps (advance_still steady moved) ?_ moved
      intro next worker' stepped
      refine worker_keeps steady.worker ?_ ?_ stepped
      · rw [runs]
        change indexRecovers indexer.library worker (.entry path) = true
        unfold indexRecovers
        cases worker.stage <;> rfl
      · intro entry told one same fits
        cases told
        cases runs.symm.trans same
        have unix := plain_unix (fits.ordered.plain _ fits.registered)
        have plain : ∀ name ∈ names, '\\' ∉ name.toList := by
          intro name member
          exact of_decide_eq_true (List.all_eq_true.mp allowed name member)
        obtain ⟨clean,inside,deepest⟩ := traverse_deepest unix plain comes
        rw [slashes_same clean]
        exact ⟨_,fits.registered,rfl,inside,deepest⟩
    · cases taken
  · cases taken
  · rename_i input other
    refine advance_keeps (advance_still steady taken) ?_ taken
    intro next worker' moved
    refine worker_keeps steady.worker allowed ?_ moved
    intro path same
    exact absurd same (other path)

theorem photos_findable {Vector : Type*} (indices : Nat → Option (IndexFile Vector)) (indexer : Indexer Vector)
    (path : Reaches (indexerSystem Vector) (fun s operation => orderly s operation = true) (newIndexer indices) indexer)
    (finished : indexer.worker.isFinished = true) : Findable indexer.library := by
  have start : Steady (newIndexer indices) := by
    refine rests_steady rfl rfl ⟨⟨?_,?_,?_,?_,?_,?_⟩,?_⟩
    · exact fun _ member => absurd member List.not_mem_nil
    · exact fun _ member => absurd member List.not_mem_nil
    · exact fun _ member => absurd member List.not_mem_nil
    · exact fun _ member => absurd member List.not_mem_nil
    · exact fun _ member => absurd member List.not_mem_nil
    · exact fun _ member => absurd member List.not_mem_nil
    · exact fun _ member => absurd member List.not_mem_nil
  have steady : Steady indexer := reaches_preserves (fun _ _ _ old allowed taken => steady_step old allowed taken) start path
  exact sound_findable (fits_sound steady.worker finished)

end Runs

def indexed : List (Operation Unit) :=
  [.register "/a",.register "/b",.scan ⟨1,"/a/",.scanning⟩,.step (.answer true),.found ["x.jpg"]] ++
  ([.stop false,.answer true,.answer true,.answer true,.answer true,.call (.answer true),.call (.load .intact),
    .call (.answer true),.call (.answer true),.call (.batch (some (fun _ => .valid (),true))),.call (.answer true),
    .call (.answer true),.call (.answer true),.call (.answer true),.call (.answer true),.call (.answer true),
    .answer true,.stop false,.answer true,.answer true].map Operation.step)

-- The row is renamed into the folder /b, whose index does not have the vector.
theorem moved_not_findable : ¬ ∀ indexer : Indexer Unit, Reachable (indexerSystem Unit) (newIndexer fun _ => none) indexer →
    indexer.worker.isFinished = true → Findable indexer.library := by
  intro all
  obtain ⟨s,path,seen⟩ := checkedRun_exhibits (indexerSystem Unit) (fun _ _ => True) (newIndexer fun _ => none)
    (indexed ++ [.moved [("/a/x.jpg","/b/x.jpg")] 0,.rename,.settle []]) (fun s => s.worker.isFinished &&
      s.library.catalog.files.rows = [⟨1,"/b/x.jpg",2,some 1,.indexed⟩] && indexIds s.library 2 = []) (by decide +kernel)
  simp only [Bool.and_eq_true,decide_eq_true_eq] at seen
  obtain ⟨⟨finished,rows⟩,ids⟩ := seen
  obtain ⟨id,-,there⟩ := (all s path finished).vector ⟨1,"/b/x.jpg",2,some 1,.indexed⟩ (rows ▸ List.mem_cons_self) rfl
  have there : id ∈ indexIds s.library 2 := there
  rw [ids] at there
  cases there

theorem renamed_findable : ∃ indexer : Indexer Unit, Findable indexer.library ∧
    indexer.library.catalog.files.rows = [⟨1,"/a/y.jpg",1,some 1,.indexed⟩] := by
  obtain ⟨s,path,seen⟩ := checkedRun_exhibits (indexerSystem Unit) (fun s operation => orderly s operation = true)
    (newIndexer fun _ => none) (indexed ++ [.moved [("/a/x.jpg","/a/y.jpg")] 0,.rename,.settle []])
    (fun s => s.worker.isFinished && s.library.catalog.files.rows = [⟨1,"/a/y.jpg",1,some 1,.indexed⟩]) (by decide +kernel)
  simp only [Bool.and_eq_true,decide_eq_true_eq] at seen
  exact ⟨s,photos_findable (fun _ => none) s path seen.1,seen.2⟩

end ImageSearch.FindablePhotos
