import ImageSearch.FolderRuns

namespace ImageSearch.IndexedFolders
open Transitions Threads FileCatalog IndexCalls IndexWorkers IndexedPhotos PendingPhotos FolderRuns

variable {Index Vector : Type*} {folderId : Nat} {library next : PhotoLibrary Vector} {worker worker' : Worker Vector}
  {input : ThreadInput Vector}

def workerPool (Index Vector : Type*) [DecidableEq Index] :
    System (Pool Index (PhotoLibrary Vector) (Worker Vector)) (Move Index (ThreadInput Vector) CatalogEvent) :=
  pool stepWorker stepCatalog

def marksIndexed : Worker Vector → ThreadInput Vector → Option Nat
  | .index worker,.step (.answer true) => IndexWorker.exposed worker
  | .creation (.marking creation true),.step (.answer true) => some creation.folder.id
  | _,_ => none

-- A worker calls a folder indexed when nothing of it is pending, and so not before it has
-- finished what an earlier run left.
structure Truthful (earlier s : Pool Index (PhotoLibrary Vector) (Worker Vector)) : Prop where
  nothing : ∀ i input folderId, marksIndexed (s.threads i) input = some folderId → pendings s.world.catalog folderId = []
  finished : ∀ i input folderId, marksIndexed (s.threads i) input = some folderId →
    ∀ pair ∈ pendings earlier.world.catalog folderId, pair ∉ pendings s.world.catalog folderId

def Worker.exposed : Worker Vector → Option Nat
  | .idle => none
  | .index worker => IndexWorker.exposed worker
  | .creation stage => CreationStage.exposed stage

def Worker.allows : Worker Vector → Nat × String → Prop
  | .creation stage,pair => CreationStage.allows stage pair
  | _,_ => False

def Worker.renews (library : PhotoLibrary Vector) : Worker Vector → ThreadInput Vector → Option Nat
  | .index worker,.step input => IndexWorker.renews library worker input
  | .creation stage,.step input => CreationStage.renews library stage input
  | _,_ => none

def Worker.finishes (library : PhotoLibrary Vector) : Worker Vector → ThreadInput Vector → Bool
  | .index worker,.step input => breaksOff library worker input
  | .creation stage,.step input => takesAll library stage input
  | _,_ => true

-- No worker leaves rows behind of the folder it will call indexed, and nothing makes rows of
-- it pending meanwhile.
def finishes : Condition (PhotoLibrary Vector) (Worker Vector) (ThreadInput Vector) CatalogEvent where
  own library worker input := Worker.finishes library worker input = true
  beside library worker input other := Worker.exposed other = none ∨ Worker.renews library worker input ≠ Worker.exposed other
  event library event other := match event with
    | .insertFile path folderId => Worker.exposed other ≠ some folderId ∨ addsPending library.catalog path folderId = false

def accounted : Assertions (PhotoLibrary Vector) (Worker Vector) where
  thread library worker := (∀ stage, worker = .creation stage → Bounded stage) ∧
    ∀ folderId, Worker.exposed worker = some folderId → ∀ pair ∈ pendings library.catalog folderId, Worker.allows worker pair

theorem worker_pendings {pair : Nat × String} (taken : stepWorker library worker input = some (next,worker'))
    (member : pair ∈ pendings next.catalog folderId) :
    pair ∈ pendings library.catalog folderId ∨ Worker.renews library worker input = some folderId := by
  unfold stepWorker at taken
  split at taken
  · split at taken
    · cases taken; exact .inl member
    · cases taken
  · split at taken
    · cases taken; exact .inl member
    · cases taken
  · obtain ⟨after,moved,same⟩ := Option.map_eq_some_iff.mp taken
    cases same
    exact index_pendings moved member
  · obtain ⟨after,moved,same⟩ := Option.map_eq_some_iff.mp taken
    cases same
    exact creation_pendings moved member
  · cases taken

theorem accounted_stable : Stable (accounted : Assertions (PhotoLibrary Vector) (Worker Vector)) stepWorker stepCatalog
    finishes := by
  refine ⟨?_,?_,fun _ _ => trivial,?_⟩
  · intro library worker input next worker' _ thread own taken
    refine ⟨trivial,?_⟩
    unfold stepWorker at taken
    split at taken
    · split at taken
      · cases taken
        refine ⟨?_,?_⟩
        · intro stage same
          cases same
        · intro folderId exposed
          cases exposed
      · cases taken
    · rename_i _ paths
      split at taken
      · rename_i given
        cases taken
        refine ⟨?_,?_⟩
        · intro stage same
          cases same
          have short : paths.length ≤ limit := of_decide_eq_true (Bool.and_eq_true_iff.mp given).2
          exact ⟨(List.length_filter_le _ _).trans short,fun _ member => absurd member List.not_mem_nil⟩
        · intro folderId exposed
          cases exposed
      · cases taken
    · rename_i worker
      obtain ⟨after,moved,same⟩ := Option.map_eq_some_iff.mp taken
      cases same
      refine ⟨?_,?_⟩
      · intro stage same
        cases same
      · intro folderId exposed pair member
        have none := index_exposes own moved exposed
        rw [none] at member
        cases member
    · rename_i stage
      obtain ⟨after,moved,same⟩ := Option.map_eq_some_iff.mp taken
      cases same
      have bounded := thread.1 stage rfl
      refine ⟨?_,?_⟩
      · intro stage' same
        cases same
        exact creation_bounded bounded moved
      · exact creation_allows bounded own moved thread.2
    · cases taken
  · intro library worker other input next worker' _ _ theirs _ _ _ beside taken
    refine ⟨⟨theirs.1,?_⟩,trivial,trivial⟩
    intro folderId exposed pair member
    rcases worker_pendings taken member with before | renewed
    · exact theirs.2 folderId exposed pair before
    · rcases beside with none | different
      · cases none.symm.trans exposed
      · exact absurd (renewed.trans exposed.symm) different
  · intro library event next other _ theirs allowed taken
    refine ⟨theirs.1,?_⟩
    intro folderId exposed pair member
    cases event with
    | insertFile path folder =>
        cases taken
        rcases pendings_inserted member with before | ⟨rfl,adds,-⟩
        · exact theirs.2 folderId exposed pair before
        · rcases allowed with elsewhere | none
          · exact absurd exposed elsewhere
          · cases none.symm.trans adds

theorem marks_exposed (marks : marksIndexed worker input = some folderId) :
    Worker.exposed worker = some folderId ∧ ∀ pair, ¬ Worker.allows worker pair := by
  unfold marksIndexed at marks
  split at marks
  · exact ⟨marks,fun _ allowed => allowed⟩
  · exact ⟨marks,fun _ allowed => allowed⟩
  · cases marks

theorem indexed_nothing_pending {Index Vector : Type*} [DecidableEq Index]
    (s earlier next : Pool Index (PhotoLibrary Vector) (Worker Vector)) (idle : ∀ i, s.threads i = .idle)
    (before : Reaches (workerPool Index Vector) finishes.Admits s earlier)
    (path : Reaches (workerPool Index Vector) finishes.Admits earlier next) : Truthful earlier next := by
  have start : accounted.Hold s := by
    refine ⟨trivial,?_,fun _ _ _ => trivial⟩
    intro i
    rw [idle i]
    refine ⟨?_,?_⟩
    · intro stage same
      cases same
    · intro folderId exposed
      cases exposed
  have reached := hold_reaches accounted_stable start (reaches_trans before path)
  have nothing : ∀ i input folderId, marksIndexed (next.threads i) input = some folderId →
      pendings next.world.catalog folderId = [] := by
    intro i input folderId marks
    obtain ⟨exposed,none⟩ := marks_exposed marks
    apply List.eq_nil_iff_forall_not_mem.mpr
    intro pair member
    exact none pair ((reached.thread i).2 folderId exposed pair member)
  refine ⟨nothing,?_⟩
  intro i input folderId marks pair _ member
  rw [nothing i input folderId marks] at member
  cases member

def oneWorker : Pool (Fin 1) (PhotoLibrary Unit) (Worker Unit) := ⟨samplePhotos,fun _ => .idle⟩

def opens : List (Move (Fin 1) (ThreadInput Unit) CatalogEvent) :=
  [.thread 0 (.index ⟨1,"/photos",.scanning⟩)] ++ ([.answer true,.stop false,.answer true,.answer true,.answer true,
    .answer true,.call (.answer true)].map fun input => .thread 0 (.step input))

-- The index is corrupt: the recovery has all photos indexed anew, and the generator ends.
def recovers : List (Move (Fin 1) (ThreadInput Unit) CatalogEvent) :=
  [.call (.load .corrupt),.call (.replace true true),.call (.answer true),.call (.answer true),.answer true].map
    fun input => .thread 0 (.step input)

theorem recovered_still_pending : ¬ ∀ s next : Pool (Fin 1) (PhotoLibrary Unit) (Worker Unit), (∀ i, s.threads i = .idle) →
    Reachable (workerPool (Fin 1) Unit) s next → Truthful s next := by
  intro all
  obtain ⟨s,path,seen⟩ := checkedRun_exhibits (workerPool (Fin 1) Unit) (fun _ _ => True) oneWorker (opens ++ recovers)
    (fun s => marksIndexed (s.threads 0) (.step (.answer true)) = some 1 &&
      pendings s.world.catalog 1 = [(1,"/photos/a.jpg"),(2,"/photos/b.jpg")]) (by decide +kernel)
  simp only [Bool.and_eq_true,decide_eq_true_eq] at seen
  have nothing := (all oneWorker s (fun _ => rfl) path).nothing 0 _ 1 seen.1
  rw [seen.2] at nothing
  cases nothing

instance (library : PhotoLibrary Unit) (worker : Worker Unit) (input : ThreadInput Unit) :
    Decidable (finishes.own library worker input) := inferInstanceAs (Decidable (_ = true))
instance (library : PhotoLibrary Unit) (worker other : Worker Unit) (input : ThreadInput Unit) :
    Decidable (finishes.beside library worker input other) := inferInstanceAs (Decidable (_ ∨ _))
instance (library : PhotoLibrary Unit) (event : CatalogEvent) (other : Worker Unit) :
    Decidable (finishes.event library event other) :=
  match event with
  | .insertFile _ _ => inferInstanceAs (Decidable (_ ∨ _))

def completes : List (Move (Fin 1) (ThreadInput Unit) CatalogEvent) :=
  [.call (.load .intact),.call (.answer true),.call (.answer true),.call (.batch (some (fun _ => .valid (),true))),
    .call (.answer true),.call (.answer true),.call (.answer true),.call (.answer true),.call (.answer true),
    .call (.answer true),.call (.answer true),.answer true,.stop false,.answer true].map fun input => .thread 0 (.step input)

theorem both_indexed : ∃ s : Pool (Fin 1) (PhotoLibrary Unit) (Worker Unit), Truthful oneWorker s ∧
    marksIndexed (s.threads 0) (.step (.answer true)) = some 1 := by
  obtain ⟨s,path,seen⟩ := checkedRun_exhibits (workerPool (Fin 1) Unit) finishes.Admits oneWorker (opens ++ completes)
    (fun s => marksIndexed (s.threads 0) (.step (.answer true)) = some 1) (by decide +kernel)
  exact ⟨s,indexed_nothing_pending oneWorker oneWorker s (fun _ => rfl) reaches_refl path,of_decide_eq_true seen⟩

end ImageSearch.IndexedFolders
