import ImageSearch.IndexWorkers
import ImageSearch.PendingPhotos

namespace ImageSearch.FolderRuns
open FileCatalog IndexCalls IndexWorkers IndexedPhotos PendingPhotos

variable {Vector : Type*} {folderId : Nat} {catalog : Catalog} {library next : PhotoLibrary Vector}
  {input : WorkerInput Vector}

section Indexing
variable {worker worker' : IndexWorker Vector} {pair : Nat × String}

def IndexWorker.exposed (worker : IndexWorker Vector) : Option Nat :=
  if worker.stage matches .concluding true && worker.traversalIssueCount = 0 then some worker.folder.id else none

inductive IndexEffect (library : PhotoLibrary Vector) (worker : IndexWorker Vector) (input : WorkerInput Vector) :
    PhotoLibrary Vector → Prop
  | still {next : PhotoLibrary Vector} (catalog : next.catalog = library.catalog) : IndexEffect library worker input next
  | restates {status : FolderStatus}
      (concluded : status = .indexed → IndexWorker.exposed worker = some worker.folder.id ∧ input = .answer true) :
      IndexEffect library worker input (setFolderStatus library worker.folder.id status)
  | finds {path : String} (stands : worker.stage = .traversing) (told : input = .entry path) (image : isImageFile path = true) :
      IndexEffect library worker input (addFile library path worker.folder.id)
  | indexes {call : Call Vector} {told : CallInput Vector} {after : PhotoLibrary Vector × Call Vector}
      (stands : worker.stage = .indexing call) (step : input = .call told)
      (moved : stepCall worker.folder.id library call told = some after) : IndexEffect library worker input after.1

theorem index_effect (taken : stepIndexWorker library worker input = some (next,worker')) :
    IndexEffect library worker input next := by
  unfold stepIndexWorker at taken
  split at taken
  · split at taken
    · cases taken; exact .restates nofun
    · cases taken; exact .still rfl
  · rename_i path stands
    cases taken
    split
    · rename_i image
      exact .finds stands rfl image
    · exact .still rfl
  · cases taken; exact .still rfl
  · cases taken; exact .still rfl
  · cases taken; exact .still rfl
  · split at taken
    · cases taken; exact .restates nofun
    · cases taken; exact .still rfl
  · cases taken; exact .still rfl
  · cases taken; exact .still rfl
  · cases taken; exact .still create_catalog
  · obtain ⟨rfl,-⟩ := Prod.mk.inj (Option.some.inj taken)
    exact .still rfl
  · rename_i call told stands
    obtain ⟨after,moved,same⟩ := Option.map_eq_some_iff.mp taken
    obtain ⟨rfl,-⟩ := Prod.mk.inj same
    exact .indexes stands rfl moved
  · cases taken; exact .still rfl
  · cases taken; exact .still rfl
  · rename_i allSuccess done stands
    obtain ⟨rfl,-⟩ := Prod.mk.inj (Option.some.inj taken)
    split
    · rename_i finished
      refine .restates fun indexed => ⟨?_,congrArg _ finished⟩
      unfold IndexWorker.exposed
      rw [stands]
      split at indexed
      · rename_i success
        obtain ⟨rfl,counted⟩ := Bool.and_eq_true_iff.mp success
        exact if_pos (by rw [counted]; rfl)
      · cases indexed
    · exact .still rfl
  · cases taken

def IndexWorker.renews (library : PhotoLibrary Vector) (worker : IndexWorker Vector) (input : WorkerInput Vector) : Option Nat :=
  let found := match worker.stage,input with
    | .traversing,.entry path => isImageFile path && addsPending library.catalog path worker.folder.id
    | .indexing call,.call told => callRenews worker.folder.id library call told
    | _,_ => false
  if found then some worker.folder.id else none

theorem index_pendings (taken : stepIndexWorker library worker input = some (next,worker'))
    (member : pair ∈ pendings next.catalog folderId) :
    pair ∈ pendings library.catalog folderId ∨ IndexWorker.renews library worker input = some folderId := by
  cases index_effect taken with
  | still catalog => exact .inl (catalog ▸ member)
  | restates => exact .inl member
  | @finds path stands told image =>
      rcases pendings_inserted member with before | ⟨mine,adds,-⟩
      · exact .inl before
      · refine .inr ?_
        unfold IndexWorker.renews
        rw [stands,told]
        dsimp only
        rw [image,adds,← mine]
        rfl
  | @indexes call told after stands step moved =>
      rcases call_pendings moved member with before | ⟨mine,renewed⟩
      · exact .inl before
      · refine .inr ?_
        unfold IndexWorker.renews
        rw [stands,step]
        dsimp only
        rw [renewed,← mine]
        rfl

-- The generator breaks off for a failed batch, or a lost model, with nothing left to index.
def breaksOff (library : PhotoLibrary Vector) (worker : IndexWorker Vector) : WorkerInput Vector → Bool
  | .answer ready =>
    match worker.stage with
    | .judging result => ready && result || worker.traversalIssueCount ≠ 0 ||
        (pendings library.catalog worker.folder.id).isEmpty
    | _ => true
  | _ => true

theorem exposed_parts (exposed : IndexWorker.exposed worker = some folderId) :
    worker.stage = .concluding true ∧ worker.traversalIssueCount = 0 ∧ worker.folder.id = folderId := by
  unfold IndexWorker.exposed at exposed
  split at exposed
  · rename_i stands
    split at exposed
    · rename_i counted
      exact ⟨stands,of_decide_eq_true (by simpa using counted),Option.some.inj exposed⟩
    · cases exposed
  · cases exposed

-- A worker comes to that only from a look that found nothing, or from such a break.
theorem index_exposes (allowed : breaksOff library worker input = true)
    (taken : stepIndexWorker library worker input = some (next,worker'))
    (exposed : IndexWorker.exposed worker' = some folderId) : pendings next.catalog folderId = [] := by
  obtain ⟨concludes,counted,rfl⟩ := exposed_parts exposed
  unfold stepIndexWorker at taken
  split at taken
  · split at taken <;> cases taken <;> cases concludes
  · rename_i stands
    cases taken
    cases stands.symm.trans concludes
  · rename_i stands
    cases taken
    cases stands.symm.trans concludes
  · rename_i isStopped stands
    cases taken
    cases isStopped <;> cases concludes
  · cases taken
    cases concludes
  · split at taken <;> cases taken <;> cases concludes
  · rename_i ready stands
    cases taken
    cases ready <;> cases concludes
  · rename_i isStopped stands
    cases taken
    cases isStopped <;> cases concludes
  · cases taken
    dsimp only [IndexWorker.to] at concludes
    split at concludes <;> cases concludes
  · -- The loop has found no file.
    obtain ⟨rfl,rfl⟩ := Prod.mk.inj (Option.some.inj taken)
    dsimp only [IndexWorker.to] at concludes
    split at concludes
    · cases concludes
    · split at concludes
      · rename_i read
        exact none_pending (by decide) read
      · split at concludes <;> cases concludes
  · obtain ⟨after,moved,same⟩ := Option.map_eq_some_iff.mp taken
    obtain ⟨rfl,rfl⟩ := Prod.mk.inj same
    dsimp only [IndexWorker.to] at concludes
    split at concludes <;> cases concludes
  · rename_i result ready stands
    cases taken
    dsimp only [IndexWorker.to] at concludes counted ⊢
    split at concludes
    · cases concludes
    · rename_i broken
      unfold breaksOff at allowed
      rw [stands] at allowed
      simp only [broken,counted,ne_eq,not_true_eq_false,decide_false,Bool.false_or,List.isEmpty_iff] at allowed
      exact allowed
  · rename_i isStopped stands
    cases taken
    cases isStopped <;> cases concludes
  · obtain ⟨rfl,rfl⟩ := Prod.mk.inj (Option.some.inj taken)
    cases concludes
  · cases taken

end Indexing

section Creating
variable {stage stage' : CreationStage Vector} {pair : Nat × String}

inductive CreationEffect (library : PhotoLibrary Vector) :
    CreationStage Vector → WorkerInput Vector → PhotoLibrary Vector → Prop
  | still {stage : CreationStage Vector} {input : WorkerInput Vector} {next : PhotoLibrary Vector}
      (catalog : next.catalog = library.catalog) : CreationEffect library stage input next
  | restates {stage : CreationStage Vector} {input : WorkerInput Vector} {folderId : Nat} {status : FolderStatus}
      (unfinished : status ≠ .indexed) : CreationEffect library stage input (setFolderStatus library folderId status)
  | marks {creation : Creation} :
      CreationEffect library (.marking creation true) (.answer true) (setFolderStatus library creation.folder.id .indexed)
  | inserts {creation : Creation} {path : String} {remaining : List String} :
      CreationEffect library (.inserting creation (path :: remaining)) (.answer true) (addFile library path creation.folder.id)
  | adds {creation : Creation} {call : Call Vector} {later : List String} {told : CallInput Vector}
      {after : PhotoLibrary Vector × Call Vector} (moved : stepCall creation.folder.id library call told = some after) :
      CreationEffect library (.adding creation call later) (.call told) after.1

theorem creation_effect (taken : stepCreationWorker library stage input = some (next,stage')) :
    CreationEffect library stage input next := by
  unfold stepCreationWorker at taken
  split at taken
  · cases taken; exact .still rfl
  · cases taken; exact .still rfl
  · cases taken; exact .still rfl
  · split at taken
    · cases taken; exact .restates nofun
    · cases taken; exact .still rfl
  · cases taken; exact .still rfl
  · split at taken
    · rename_i done
      cases taken
      rw [done]
      exact .inserts
    · cases taken; exact .still rfl
  · cases taken; exact .still rfl
  · cases taken; exact .still create_catalog
  · cases taken; exact .still rfl
  · cases taken; exact .still rfl
  · obtain ⟨after,moved,same⟩ := Option.map_eq_some_iff.mp taken
    obtain ⟨rfl,-⟩ := Prod.mk.inj same
    exact .adds moved
  · obtain ⟨rfl,-⟩ := Prod.mk.inj (Option.some.inj taken)
    exact .still rfl
  · obtain ⟨rfl,-⟩ := Prod.mk.inj (Option.some.inj taken)
    exact .still rfl
  · rename_i creation allSuccess done
    split at taken
    · rename_i finished
      cases taken
      rw [finished]
      cases allSuccess with
      | true => exact .marks
      | false => exact .restates nofun
    · cases taken; exact .still rfl
  · cases taken

def CreationStage.renews (library : PhotoLibrary Vector) : CreationStage Vector → WorkerInput Vector → Option Nat
  | .inserting creation (path :: _),.answer true =>
    if addsPending library.catalog path creation.folder.id then some creation.folder.id else none
  | .adding creation call _,.call told =>
    if callRenews creation.folder.id library call told then some creation.folder.id else none
  | _,_ => none

theorem creation_pendings (taken : stepCreationWorker library stage input = some (next,stage'))
    (member : pair ∈ pendings next.catalog folderId) :
    pair ∈ pendings library.catalog folderId ∨ CreationStage.renews library stage input = some folderId := by
  cases creation_effect taken with
  | still catalog => exact .inl (catalog ▸ member)
  | restates => exact .inl member
  | marks => exact .inl member
  | @inserts creation path remaining =>
      rcases pendings_inserted member with before | ⟨mine,adds,-⟩
      · exact .inl before
      · exact .inr ((if_pos adds).trans (congrArg some mine))
  | @adds creation call later told after moved =>
      rcases call_pendings moved member with before | ⟨mine,renewed⟩
      · exact .inl before
      · exact .inr ((if_pos renewed).trans (congrArg some mine))

def Fits (groups : Groups) : Prop := ∀ group ∈ groups, group.2.length ≤ limit

-- A worker of a hundred events looks at each folder's files in one slice.
def Bounded : CreationStage Vector → Prop
  | .matching remaining groups => remaining.length ≤ limit ∧ ∀ group ∈ groups, group.2.length + remaining.length ≤ limit
  | .announcing groups => Fits groups
  | .inserting creation remaining =>
    (creation.files.length ≤ limit ∧ Fits creation.rest) ∧ ∀ path ∈ remaining, path ∈ creation.files
  | .appending creation | .creatingIndex creation => creation.files.length ≤ limit ∧ Fits creation.rest
  | .selecting creation _ _ later | .yielded creation _ later => later = [] ∧ Fits creation.rest
  | .adding creation call later => later = [] ∧ Fits creation.rest ∧ call.stage.startable = false
  | .closing creation _ | .marking creation _ => Fits creation.rest
  | .finished => True

theorem group_bounded {groups : Groups} {remaining : List String} {path : String} {catalog : Catalog}
    (short : (path :: remaining).length ≤ limit)
    (fits : ∀ group ∈ groups, group.2.length + (path :: remaining).length ≤ limit) :
    ∀ group ∈ groupFile catalog groups path, group.2.length + remaining.length ≤ limit := by
  have old : ∀ group ∈ groups, group.2.length + remaining.length ≤ limit := by
    intro group member
    have whole := fits group member
    rw [List.length_cons] at whole
    omega
  unfold groupFile
  split
  · rename_i folder _
    unfold addToGroup
    split
    · intro group member
      obtain ⟨one,there,rfl⟩ := List.mem_map.mp member
      split
      · have whole := fits one there
        rw [List.length_cons] at whole
        rw [List.length_append,List.length_singleton]
        omega
      · exact old one there
    · intro group member
      rcases List.mem_append.mp member with there | new
      · exact old group there
      · cases List.mem_singleton.mp new
        rw [List.length_cons] at short
        rw [List.length_singleton]
        omega
  · exact old

theorem creation_bounded (bounded : Bounded stage) (taken : stepCreationWorker library stage input = some (next,stage')) :
    Bounded stage' := by
  unfold stepCreationWorker at taken
  split at taken
  · rename_i groups _
    obtain ⟨-,rfl⟩ := Prod.mk.inj (Option.some.inj taken)
    split
    · trivial
    · exact fun group member => (bounded.2 group member)
  · obtain ⟨-,rfl⟩ := Prod.mk.inj (Option.some.inj taken)
    split
    · exact ⟨(Nat.le_succ _).trans bounded.1,group_bounded bounded.1 bounded.2⟩
    · trivial
  · cases taken
    trivial
  · split at taken
    · cases taken
      refine ⟨⟨bounded _ List.mem_cons_self,fun group member => ?_⟩,fun path member => member⟩
      exact bounded group (List.mem_cons_of_mem _ member)
    · cases taken
      trivial
  · cases taken
    exact bounded.1
  · split at taken
    · cases taken
      exact ⟨bounded.1,fun path member => bounded.2 path (List.mem_cons_of_mem _ member)⟩
    · cases taken
      trivial
  · obtain ⟨-,rfl⟩ := Prod.mk.inj (Option.some.inj taken)
    split
    · exact bounded
    · trivial
  · obtain ⟨-,rfl⟩ := Prod.mk.inj (Option.some.inj taken)
    split
    · exact ⟨List.drop_eq_nil_iff.mpr bounded.1,bounded.2⟩
    · trivial
  · obtain ⟨-,rfl⟩ := Prod.mk.inj (Option.some.inj taken)
    split
    · exact bounded
    · trivial
  · obtain ⟨-,rfl⟩ := Prod.mk.inj (Option.some.inj taken)
    split
    · exact bounded
    · exact ⟨bounded.1,bounded.2,rfl⟩
  · obtain ⟨after,moved,same⟩ := Option.map_eq_some_iff.mp taken
    obtain ⟨-,rfl⟩ := Prod.mk.inj same
    split
    · exact ⟨bounded.1,bounded.2.1⟩
    · rename_i unfinished
      refine ⟨bounded.1,bounded.2.1,?_⟩
      have started := call_started moved bounded.2.2
      cases stands : after.2.stage <;> first | rfl | exact absurd stands started | exact absurd stands (unfinished _)
  · obtain ⟨-,rfl⟩ := Prod.mk.inj (Option.some.inj taken)
    split
    · trivial
    · split
      · exact bounded.2
      · rename_i more
        simp [bounded.1] at more
  · obtain ⟨-,rfl⟩ := Prod.mk.inj (Option.some.inj taken)
    split
    · trivial
    · split
      · exact bounded
      · exact bounded
  · split at taken
    · cases taken; exact bounded
    · cases taken; trivial
  · cases taken

def CreationStage.exposed : CreationStage Vector → Option Nat
  | .inserting creation _ | .appending creation | .creatingIndex creation | .selecting creation .. | .adding creation .. =>
    some creation.folder.id
  | .yielded creation result _ | .closing creation result | .marking creation result =>
    if result then some creation.folder.id else none
  | _ => none

-- The rows of that folder that may still be pending: its own files, as far as it has come.
def CreationStage.allows : CreationStage Vector → Nat × String → Prop
  | .inserting creation _,pair | .appending creation,pair | .creatingIndex creation,pair =>
    pair.2 ∈ creation.files.map forwardSlashes
  | .selecting _ slice chosen _,pair => pair.2 ∈ slice.map forwardSlashes ∨ pair.1 ∈ chosen.map File.id
  | .adding _ call _,pair => owes call pair.1
  | _,_ => False

-- The worker takes up a folder of which nothing else is pending, it finds its own rows by
-- their paths, and its call has features of every one that was not marked.
def takesAll (library : PhotoLibrary Vector) (stage : CreationStage Vector) : WorkerInput Vector → Bool
  | .answer done =>
    match stage with
    | .announcing ((folder,files) :: _) => !done ||
        (pendings library.catalog folder.id).all fun pair => pair.2 ∈ files.map forwardSlashes
    | .selecting creation (path :: _) _ _ => (pendings library.catalog creation.folder.id).all fun pair =>
        pair.2 ≠ forwardSlashes path || (getFileByPath library.catalog path).any fun file => file.id = pair.1
    | _ => true
  | .call (.answer _) =>
    match stage with
    | .adding creation call _ => reportsAll library.catalog creation.folder.id call
    | _ => true
  | _ => true

theorem chosen_pending {path : String} {chosen : List File} (member : pair ∈ pendings catalog folderId)
    (found : (getFileByPath catalog path).any (fun file => file.id = pair.1) = true) :
    pair.1 ∈ (chooseFile catalog chosen path).map File.id := by
  obtain ⟨row,there,-,pending,rfl⟩ := mem_pendings.mp member
  unfold chooseFile
  cases located : getFileByPath catalog path with
  | none => rw [located] at found; cases found
  | some file =>
      rw [located] at found
      have same : file.id = row.id := of_decide_eq_true found
      have listed : file ∈ catalog.files.rows := List.mem_of_find?_eq_some located
      have equal : file = row := List.inj_on_of_nodup_map catalog.files.distinct listed there same
      dsimp only
      rw [if_pos (equal ▸ pending),List.map_append]
      exact List.mem_append_right _ (List.mem_singleton.mpr same.symm)

theorem creation_allows (bounded : Bounded stage) (allowed : takesAll library stage input = true)
    (taken : stepCreationWorker library stage input = some (next,stage'))
    (accounts : ∀ folderId, CreationStage.exposed stage = some folderId →
      ∀ pair ∈ pendings library.catalog folderId, CreationStage.allows stage pair) :
    ∀ folderId, CreationStage.exposed stage' = some folderId →
      ∀ pair ∈ pendings next.catalog folderId, CreationStage.allows stage' pair := by
  intro folderId exposed pair member
  unfold stepCreationWorker at taken
  split at taken
  · obtain ⟨-,rfl⟩ := Prod.mk.inj (Option.some.inj taken)
    split at exposed <;> cases exposed
  · obtain ⟨-,rfl⟩ := Prod.mk.inj (Option.some.inj taken)
    split at exposed <;> cases exposed
  · cases taken
    cases exposed
  · rename_i folder files rest done
    split at taken
    · rename_i finished
      cases taken
      cases exposed
      unfold takesAll at allowed
      rw [finished] at allowed
      simp only [Bool.not_true,Bool.false_or,List.all_eq_true,decide_eq_true_eq] at allowed
      exact allowed pair member
    · cases taken
      cases exposed
  · cases taken
    exact accounts folderId exposed pair member
  · rename_i creation path remaining done
    split at taken
    · cases taken
      rcases pendings_inserted member with before | ⟨-,-,mine⟩
      · exact accounts folderId exposed pair before
      · exact List.mem_map.mpr ⟨path,bounded.2 path List.mem_cons_self,mine.symm⟩
    · cases taken
      cases exposed
  · obtain ⟨rfl,rfl⟩ := Prod.mk.inj (Option.some.inj taken)
    split at exposed
    · rename_i ready
      rw [if_pos ready]
      exact accounts folderId exposed pair member
    · cases exposed
  · rename_i creation created
    obtain ⟨rfl,rfl⟩ := Prod.mk.inj (Option.some.inj taken)
    split at exposed
    · rename_i there
      rw [if_pos there]
      rw [create_catalog] at member
      refine .inl ?_
      rw [List.take_of_length_le bounded.1]
      exact accounts folderId exposed pair member
    · cases exposed
  · rename_i creation path slice chosen later done
    obtain ⟨rfl,rfl⟩ := Prod.mk.inj (Option.some.inj taken)
    split at exposed
    · rename_i read
      rw [if_pos read]
      cases exposed
      unfold takesAll at allowed
      simp only [List.all_eq_true,Bool.or_eq_true,decide_eq_true_eq] at allowed
      rcases accounts _ rfl pair member with listed | taken'
      · rcases List.mem_cons.mp listed with mine | rest
        · have found := (allowed pair member).resolve_left (not_not.mpr mine)
          exact .inr (chosen_pending member found)
        · exact .inl rest
      · refine .inr ?_
        unfold chooseFile
        split
        · split
          · rw [List.map_append]
            exact List.mem_append_left _ taken'
          · exact taken'
        · exact taken'
    · cases exposed
  · rename_i creation chosen later done
    obtain ⟨rfl,rfl⟩ := Prod.mk.inj (Option.some.inj taken)
    have mine : pair.1 ∈ chosen.map File.id := by
      split at exposed <;> cases exposed
      · exact (accounts _ rfl pair member).resolve_left List.not_mem_nil
      · exact (accounts _ rfl pair member).resolve_left List.not_mem_nil
    split
    · rename_i none
      rw [none] at mine
      cases mine
    · exact mine
  · rename_i creation call later told
    obtain ⟨after,moved,same⟩ := Option.map_eq_some_iff.mp taken
    obtain ⟨rfl,rfl⟩ := Prod.mk.inj same
    have mine : creation.folder.id = folderId := by
      split at exposed
      · unfold CreationStage.exposed at exposed
        dsimp only at exposed
        split at exposed <;> cases exposed
        rfl
      · cases exposed
        rfl
    subst mine
    have reported : ∀ done, told = .answer done → reportsAll library.catalog creation.folder.id call = true := by
      rintro done rfl
      exact allowed
    have owed := call_owes moved bounded.2.2 (accounts _ rfl) reported pair member
    split at exposed
    · rename_i outcome stands
      unfold owes at owed
      rw [stands] at owed
      cases outcome with
      | returned result =>
          have failed : result = false := owed
          rw [failed] at exposed
          cases exposed
      | corrupted => cases exposed
      | raised => cases exposed
    · exact owed
  · rename_i creation result later isStopped
    obtain ⟨rfl,rfl⟩ := Prod.mk.inj (Option.some.inj taken)
    have noLater : later = [] := bounded.1
    simp only [noLater,decide_true,Bool.or_true,if_true] at exposed ⊢
    split at exposed
    · cases exposed
    · exact (accounts folderId exposed pair member).elim
  · rename_i creation result done
    obtain ⟨rfl,rfl⟩ := Prod.mk.inj (Option.some.inj taken)
    split at exposed
    · cases exposed
    · split at exposed
      · cases exposed
      · exact (accounts folderId exposed pair member).elim
  · split at taken <;> cases taken <;> cases exposed
  · cases taken

end Creating

end ImageSearch.FolderRuns
