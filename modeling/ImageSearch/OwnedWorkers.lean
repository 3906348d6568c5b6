import ImageSearch.OwnedCalls

namespace ImageSearch.OwnedWorkers
open FileCatalog IndexCalls IndexWorkers IndexedPhotos FolderPaths OwnedFiles OwnedCalls

variable {Vector : Type*} {library next : PhotoLibrary Vector} {input : WorkerInput Vector}

def Registered (library : PhotoLibrary Vector) (folder : Folder) : Prop := (folder.id,folder.path) ∈ places library.catalog

def Owns (library : PhotoLibrary Vector) (folder : Folder) (paths : List String) : Prop :=
  ∀ path ∈ paths, Deepest (places library.catalog) folder.id (forwardSlashes path)

theorem owns_places {folder : Folder} {paths : List String} (same : places next.catalog = places library.catalog)
    (owns : Owns library folder paths) : Owns next folder paths := by
  unfold Owns
  rw [same]
  exact owns

theorem insertFile_places {catalog : Catalog} {path : String} {folderId : Nat} :
    places (insertFile catalog path folderId) = places catalog := by
  unfold places
  rw [insertFile_folders]

theorem searchable_addFile {replaced : Option Nat} {path : String} {folderId : Nat} (searchable : Searchable library replaced) :
    Searchable (addFile library path folderId) replaced :=
  searchable_unmarked searchable fun _ member => (mem_insertFile member).imp id fun same => by simp [same]

theorem ordered_create {folderId : Nat} {created : Bool} (ordered : Ordered library.catalog) :
    Ordered (createIndexIfNeeded library folderId created).catalog := by
  rw [create_catalog]
  exact ordered

section Indexing
variable {worker worker' : IndexWorker Vector}

def IndexWorker.replaced (worker : IndexWorker Vector) : Option Nat :=
  match worker.stage with
  | .indexing call => Call.replaced worker.folder.id call
  | _ => none

structure IndexFits (library : PhotoLibrary Vector) (worker : IndexWorker Vector) : Prop where
  ordered : Ordered library.catalog
  searchable : Searchable library (IndexWorker.replaced worker)
  registered : Registered library worker.folder
  call : ∀ call, worker.stage = .indexing call → Fits library worker.folder.id call

def indexRecovers (library : PhotoLibrary Vector) (worker : IndexWorker Vector) (input : WorkerInput Vector) : Bool :=
  match worker.stage,input with
  | .indexing call,.call told => recovers library worker.folder.id call told
  | _,_ => true

theorem pending_mine {folderId : Nat} {file : File} (ordered : Ordered library.catalog)
    (read : file ∈ getPendingFilesForFolder library.catalog folderId 0 limit) : Mine library.catalog folderId file.id := by
  have listed := (List.mem_insertionSort _).mp (List.mem_of_mem_drop (List.mem_of_mem_take read))
  obtain ⟨member,parts⟩ := List.mem_filter.mp listed
  obtain ⟨rfl,pending⟩ : file.folderId = folderId ∧ file.status = .pending := by simpa using parts
  exact ⟨file,member,rfl,rfl,ordered.owned file member (by simp [pending])⟩

theorem index_fits {stage : IndexStage Vector} (elsewhere : ∀ call, stage ≠ .indexing call) (ordered : Ordered next.catalog)
    (searchable : Searchable next none) (registered : Registered next worker.folder) : IndexFits next (worker.to stage) := by
  refine ⟨ordered,?_,registered,fun call same => absurd same (elsewhere call)⟩
  unfold IndexWorker.replaced
  split
  · rename_i call stands
    exact absurd stands (elsewhere call)
  · exact searchable

theorem registered_places {folder : Folder} (same : places next.catalog = places library.catalog)
    (registered : Registered library folder) : Registered next folder := by
  unfold Registered
  rw [same]
  exact registered

theorem index_keeps (fits : IndexFits library worker) (allowed : indexRecovers library worker input = true)
    (entered : ∀ path, input = .entry path → Deepest (places library.catalog) worker.folder.id (forwardSlashes path))
    (taken : stepIndexWorker library worker input = some (next,worker')) : IndexFits next worker' := by
  obtain ⟨ordered,searchable,registered,call⟩ := fits
  unfold IndexWorker.replaced at searchable
  have restated (status : FolderStatus) : Ordered (setFolderStatus library worker.folder.id status).catalog ∧
      Registered (setFolderStatus library worker.folder.id status) worker.folder :=
    ⟨ordered_restates ordered restates_status,registered_places restates_status.places registered⟩
  unfold stepIndexWorker at taken
  split at taken
  · rename_i done stands
    rw [stands] at searchable
    split at taken
    · cases taken
      exact index_fits nofun (restated _).1 searchable (restated _).2
    · cases taken
      exact index_fits nofun ordered searchable registered
  · rename_i path stands
    cases taken
    rw [stands] at searchable
    have stays : worker = worker.to worker.stage := rfl
    rw [stays,stands]
    split
    · exact index_fits nofun (ordered_insertFile ordered (entered path rfl)) (searchable_addFile searchable)
        (registered_places insertFile_places registered)
    · exact index_fits nofun ordered searchable registered
  · rename_i stands
    cases taken
    rw [stands] at searchable
    refine ⟨ordered,?_,registered,fun call same => ?_⟩
    · unfold IndexWorker.replaced
      dsimp only
      rw [stands]
      exact searchable
    · cases stands.symm.trans same
  · rename_i isStopped stands
    cases taken
    rw [stands] at searchable
    exact index_fits (by cases isStopped <;> exact nofun) ordered searchable registered
  · rename_i stands
    cases taken
    rw [stands] at searchable
    exact index_fits nofun ordered searchable registered
  · rename_i done stands
    rw [stands] at searchable
    split at taken
    · cases taken
      exact index_fits nofun (restated _).1 searchable (restated _).2
    · cases taken
      exact index_fits nofun ordered searchable registered
  · rename_i ready stands
    cases taken
    rw [stands] at searchable
    exact index_fits (by cases ready <;> exact nofun) ordered searchable registered
  · rename_i isStopped stands
    cases taken
    rw [stands] at searchable
    exact index_fits (by cases isStopped <;> exact nofun) ordered searchable registered
  · rename_i created stands
    cases taken
    rw [stands] at searchable
    refine index_fits ?_ (ordered_create ordered) (searchable_create searchable) (registered_places (congrArg places create_catalog) registered)
    split <;> exact nofun
  · -- What is read is the folder's own.
    rename_i done stands
    cases taken
    rw [stands] at searchable
    split
    · exact index_fits nofun ordered searchable registered
    · split
      · exact index_fits nofun ordered searchable registered
      · split
        · exact index_fits nofun ordered searchable registered
        · refine ⟨ordered,searchable,registered,fun call same => ?_⟩
          cases same
          refine ⟨rfl,?_,trivial⟩
          exact fun file member => pending_mine ordered (List.mem_filter.mp member).1
  · rename_i call' told stands
    obtain ⟨after,moved,same⟩ := Option.map_eq_some_iff.mp taken
    cases same
    rw [stands] at searchable
    have allowed' : recovers library worker.folder.id call' told = true := by
      unfold indexRecovers at allowed
      rw [stands] at allowed
      exact allowed
    have keeps := call_keeps (call call' stands) searchable allowed' moved
    have ordered' := ordered_restates ordered keeps.restates
    have registered' := registered_places keeps.restates.places registered
    split
    · rename_i outcome settled
      refine index_fits nofun ordered' ?_ registered'
      have searchable' := keeps.searchable
      unfold Call.replaced at searchable'
      rw [settled] at searchable'
      exact searchable'
    · rename_i unfinished
      refine ⟨ordered',keeps.searchable,registered',fun call same => ?_⟩
      cases same
      exact keeps.fits unfinished
  · rename_i result ready stands
    cases taken
    rw [stands] at searchable
    refine index_fits ?_ ordered searchable registered
    split <;> exact nofun
  · rename_i isStopped stands
    cases taken
    rw [stands] at searchable
    exact index_fits (by cases isStopped <;> exact nofun) ordered searchable registered
  · rename_i allSuccess done stands
    cases taken
    rw [stands] at searchable
    split
    · exact index_fits nofun (restated _).1 searchable (restated _).2
    · exact index_fits nofun ordered searchable registered
  · cases taken

end Indexing

section Creating
variable {stage stage' : CreationStage Vector}

def CreationStage.replaced : CreationStage Vector → Option Nat
  | .adding creation call _ => Call.replaced creation.folder.id call
  | _ => none

def GroupsFit (library : PhotoLibrary Vector) (groups : Groups) : Prop := ∀ group ∈ groups, Owns library group.1 group.2

-- A worker's new files are its folders' own, and so are the rows that it chooses by their paths.
def StageFits (library : PhotoLibrary Vector) : CreationStage Vector → Prop
  | .matching _ groups | .announcing groups => GroupsFit library groups
  | .inserting creation remaining =>
    GroupsFit library creation.rest ∧ Owns library creation.folder creation.files ∧ Owns library creation.folder remaining
  | .appending creation | .creatingIndex creation =>
    GroupsFit library creation.rest ∧ Owns library creation.folder creation.files
  | .selecting creation slice chosen later => GroupsFit library creation.rest ∧ Owns library creation.folder slice ∧
      AllMine library creation.folder.id chosen ∧ Owns library creation.folder later
  | .adding creation call later => GroupsFit library creation.rest ∧ Fits library creation.folder.id call ∧
      Owns library creation.folder later
  | .yielded creation _ later => GroupsFit library creation.rest ∧ Owns library creation.folder later
  | .closing creation _ | .marking creation _ => GroupsFit library creation.rest
  | .finished => True

structure CreationFits (library : PhotoLibrary Vector) (stage : CreationStage Vector) : Prop where
  ordered : Ordered library.catalog
  searchable : Searchable library (CreationStage.replaced stage)
  stage : StageFits library stage

-- Every folder whose path, read as a pattern, matches the path contains it.
def honest (catalog : Catalog) (path : String) : Bool := catalog.folders.rows.all fun folder =>
  !like (folder.path.toList ++ ['%']) (forwardSlashes path).toList || decide (Contains folder.path (forwardSlashes path))

def creationAllows (library : PhotoLibrary Vector) (stage : CreationStage Vector) (input : WorkerInput Vector) : Bool :=
  match stage,input with
  | .matching (path :: _) _,.answer true => honest library.catalog path
  | .adding creation call _,.call told => recovers library creation.folder.id call told
  | _,_ => true

theorem honest_deepest {catalog : Catalog} {path : String} {folder : Folder} (clear : honest catalog path = true)
    (matched : matchParentFolder catalog path = some folder) : Deepest (places catalog) folder.id (forwardSlashes path) := by
  apply match_deepest matched
  intro other member alike
  have all := List.all_eq_true.mp clear other member
  rw [alike] at all
  exact of_decide_eq_true all

theorem groups_places {groups : Groups} (same : places next.catalog = places library.catalog) (fits : GroupsFit library groups) :
    GroupsFit next groups := fun group member => owns_places same (fits group member)

theorem group_owns {groups : Groups} {path : String} (fits : GroupsFit library groups) (clear : honest library.catalog path = true) :
    GroupsFit library (groupFile library.catalog groups path) := by
  unfold groupFile
  split
  · rename_i folder matched
    have mine := honest_deepest clear matched
    unfold addToGroup
    split
    · intro group member
      obtain ⟨one,there,rfl⟩ := List.mem_map.mp member
      split
      · rename_i same
        intro other listed
        rcases List.mem_append.mp listed with old | new
        · exact fits one there other old
        · rw [List.mem_singleton.mp new]
          dsimp only
          rw [same]
          exact mine
      · exact fits one there
    · intro group member
      rcases List.mem_append.mp member with old | new
      · exact fits group old
      · cases List.mem_singleton.mp new
        intro other listed
        rw [List.mem_singleton.mp listed]
        exact mine
  · exact fits

-- The row that is found by its path is live, so it is in the deepest folder too.
theorem chosen_mine {folder : Folder} {chosen : List File} {path : String} (ordered : Ordered library.catalog)
    (mine : AllMine library folder.id chosen) (owns : Deepest (places library.catalog) folder.id (forwardSlashes path)) :
    AllMine library folder.id (chooseFile library.catalog chosen path) := by
  unfold chooseFile
  split
  · rename_i file found
    split
    · rename_i pending
      apply all_append mine
      intro other listed
      cases List.mem_singleton.mp listed
      have member := List.mem_of_find?_eq_some found
      have located := List.find?_some found
      have path' : file.path = forwardSlashes path := of_decide_eq_true located
      have owned := ordered.owned file member (by simp [pending])
      have same : file.folderId = folder.id := deepest_unique ordered.distinct owned (path' ▸ owns)
      exact ⟨file,member,rfl,same,same ▸ owned⟩
    · exact mine
  · exact mine

theorem creation_keeps (fits : CreationFits library stage) (allowed : creationAllows library stage input = true)
    (taken : stepCreationWorker library stage input = some (next,stage')) : CreationFits next stage' := by
  obtain ⟨ordered,searchable,fits⟩ := fits
  have restated (folderId : Nat) (status : FolderStatus) : Ordered (setFolderStatus library folderId status).catalog ∧
      places (setFolderStatus library folderId status).catalog = places library.catalog :=
    ⟨ordered_restates ordered restates_status,restates_status.places⟩
  unfold stepCreationWorker at taken
  split at taken
  · obtain ⟨rfl,rfl⟩ := Prod.mk.inj (Option.some.inj taken)
    split
    · exact ⟨ordered,searchable,trivial⟩
    · exact ⟨ordered,searchable,fits⟩
  · obtain ⟨rfl,rfl⟩ := Prod.mk.inj (Option.some.inj taken)
    split
    · rename_i done
      rw [done] at allowed
      exact ⟨ordered,searchable,group_owns fits allowed⟩
    · exact ⟨ordered,searchable,trivial⟩
  · cases taken
    exact ⟨ordered,searchable,trivial⟩
  · rename_i folder files rest done
    split at taken
    · cases taken
      obtain ⟨ordered',same⟩ := restated folder.id .partiallyIndexed
      have owns := owns_places same (fits _ List.mem_cons_self)
      have others := groups_places same fun group member => fits group (List.mem_cons_of_mem _ member)
      exact ⟨ordered',searchable,others,owns,owns⟩
    · cases taken
      exact ⟨ordered,searchable,trivial⟩
  · cases taken
    exact ⟨ordered,searchable,fits.1,fits.2.1⟩
  · rename_i creation path remaining done
    obtain ⟨groups,owns,owns'⟩ := fits
    split at taken
    · cases taken
      have ordered' := ordered_insertFile ordered (owns' path List.mem_cons_self)
      refine ⟨ordered',searchable_addFile searchable,groups_places insertFile_places groups,?_,?_⟩
      · exact owns_places insertFile_places owns
      · exact owns_places insertFile_places fun other member => owns' other (List.mem_cons_of_mem _ member)
    · cases taken
      exact ⟨ordered,searchable,trivial⟩
  · obtain ⟨rfl,rfl⟩ := Prod.mk.inj (Option.some.inj taken)
    split
    · exact ⟨ordered,searchable,fits⟩
    · exact ⟨ordered,searchable,trivial⟩
  · rename_i creation created
    obtain ⟨rfl,rfl⟩ := Prod.mk.inj (Option.some.inj taken)
    obtain ⟨groups,owns⟩ := fits
    have same := congrArg places (@create_catalog _ creation.folder.id library created)
    split
    · refine ⟨ordered_create ordered,searchable_create searchable,groups_places same groups,?_,?_,?_⟩
      · exact owns_places same fun path member => owns path (List.mem_of_mem_take member)
      · exact fun _ member => absurd member List.not_mem_nil
      · exact owns_places same fun path member => owns path (List.mem_of_mem_drop member)
    · exact ⟨ordered_create ordered,searchable_create searchable,trivial⟩
  · rename_i creation path slice chosen later done
    obtain ⟨rfl,rfl⟩ := Prod.mk.inj (Option.some.inj taken)
    obtain ⟨groups,owns,mine,owns'⟩ := fits
    split
    · refine ⟨ordered,searchable,groups,fun other member => owns other (List.mem_cons_of_mem _ member),?_,owns'⟩
      exact chosen_mine ordered mine (owns path List.mem_cons_self)
    · exact ⟨ordered,searchable,trivial⟩
  · rename_i creation chosen later done
    obtain ⟨rfl,rfl⟩ := Prod.mk.inj (Option.some.inj taken)
    obtain ⟨groups,owns,mine,owns'⟩ := fits
    split
    · exact ⟨ordered,searchable,groups,owns'⟩
    · exact ⟨ordered,searchable,groups,⟨rfl,mine,trivial⟩,owns'⟩
  · rename_i creation call later told
    obtain ⟨after,moved,same⟩ := Option.map_eq_some_iff.mp taken
    obtain ⟨rfl,rfl⟩ := Prod.mk.inj same
    obtain ⟨groups,fits,owns⟩ := fits
    have keeps := call_keeps fits searchable allowed moved
    have ordered' := ordered_restates ordered keeps.restates
    have groups' := groups_places keeps.restates.places groups
    have owns' := owns_places keeps.restates.places owns
    split
    · rename_i outcome settled
      refine ⟨ordered',?_,groups',owns'⟩
      have searchable' := keeps.searchable
      unfold Call.replaced at searchable'
      rw [settled] at searchable'
      exact searchable'
    · rename_i unfinished
      exact ⟨ordered',keeps.searchable,groups',keeps.fits unfinished,owns'⟩
  · rename_i creation result later isStopped
    obtain ⟨rfl,rfl⟩ := Prod.mk.inj (Option.some.inj taken)
    obtain ⟨groups,owns⟩ := fits
    split
    · exact ⟨ordered,searchable,trivial⟩
    · split
      · exact ⟨ordered,searchable,groups⟩
      · refine ⟨ordered,searchable,groups,?_,?_,?_⟩
        · exact fun path member => owns path (List.mem_of_mem_take member)
        · exact fun _ member => absurd member List.not_mem_nil
        · exact fun path member => owns path (List.mem_of_mem_drop member)
  · rename_i creation result done
    obtain ⟨rfl,rfl⟩ := Prod.mk.inj (Option.some.inj taken)
    split
    · exact ⟨ordered,searchable,trivial⟩
    · split
      · exact ⟨ordered,searchable,fits⟩
      · exact ⟨ordered,searchable,fits⟩
  · rename_i creation allSuccess done
    split at taken
    · cases taken
      obtain ⟨ordered',same⟩ := restated creation.folder.id (if allSuccess then .indexed else .indexing)
      exact ⟨ordered',searchable,groups_places same fits⟩
    · cases taken
      exact ⟨ordered,searchable,trivial⟩
  · cases taken

end Creating

end ImageSearch.OwnedWorkers
