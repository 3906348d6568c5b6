import ImageSearch.OwnedFiles
import ImageSearch.PendingPhotos

namespace ImageSearch.OwnedCalls
open FileCatalog IndexCalls IndexedPhotos OwnedFiles

variable {Vector : Type*} {library next : PhotoLibrary Vector} {folderId : Nat} {call call' : Call Vector} {input : CallInput Vector}

def Covers (library : PhotoLibrary Vector) (folderId : Nat) (loaded : IndexFile Vector) : Prop :=
  ∀ id ∈ indexIds library folderId, id ∈ loaded.map Prod.fst

def AllMine (library : PhotoLibrary Vector) (folderId : Nat) (files : List File) : Prop :=
  ∀ file ∈ files, Mine library.catalog folderId file.id

structure Fits (library : PhotoLibrary Vector) (folderId : Nat) (call : Call Vector) : Prop where
  started : call.stage.startable = false
  files : AllMine library folderId call.imageFiles
  stage : match call.stage with
    | .preparing loaded | .submitting loaded => Covers library folderId loaded
    | .embedding embedding | .markingDeleted embedding _ _ | .markingInvalid embedding _ =>
      Covers library folderId embedding.loaded ∧ AllMine library folderId embedding.remaining ∧
        AllMine library folderId (embedding.features.map Prod.fst)
    | .adding loaded features _ => Covers library folderId loaded ∧ AllMine library folderId (features.map Prod.fst)
    | .recording remaining _ => AllMine library folderId remaining ∧ ∀ file ∈ remaining, file.id ∈ indexIds library folderId
    | _ => True

def Call.replaced (folderId : Nat) (call : Call Vector) : Option Nat :=
  if call.stage matches .resetting then some folderId else none

def anyIndexed (library : PhotoLibrary Vector) (folderId : Nat) : Bool :=
  library.catalog.files.rows.any fun file => file.folderId = folderId && file.status = .indexed

def recovers (library : PhotoLibrary Vector) (folderId : Nat) (call : Call Vector) : CallInput Vector → Bool
  | .replace moved created => created || !moved || !anyIndexed library folderId
  | .answer done =>
    match call.stage with
    | .resetting => done || !anyIndexed library folderId
    | _ => true
  | _ => true

theorem none_indexed (nothing : anyIndexed library folderId = false) :
    ∀ file ∈ library.catalog.files.rows, file.status = .indexed → file.folderId ≠ folderId := by
  intro file member indexed mine
  have any : anyIndexed library folderId = true := List.any_eq_true.mpr ⟨file,member,by simp [mine,indexed]⟩
  cases nothing.symm.trans any

theorem mine_all {files : List File} (restates : Restates library.catalog next.catalog) (mine : AllMine library folderId files) :
    AllMine next folderId files := fun file member => mine_restates restates (mine file member)

section Searching
variable {replaced : Option Nat}

theorem searchable_unmarked {catalog : Catalog} (searchable : Searchable library replaced)
    (rows : ∀ file ∈ catalog.files.rows, file ∈ library.catalog.files.rows ∨ file.status ≠ .indexed) :
    Searchable {library with catalog} replaced := by
  intro file member indexed
  rcases rows file member with before | other
  · exact searchable file before indexed
  · exact absurd indexed other

theorem searchable_ids (searchable : Searchable library replaced) (catalog : next.catalog = library.catalog)
    (ids : ∀ other, ∀ id ∈ indexIds library other, id ∈ indexIds next other) : Searchable next replaced := by
  intro file member indexed
  rw [catalog] at member
  rcases searchable file member indexed with except | ⟨id,clip,there⟩
  · exact .inl except
  · exact .inr ⟨id,clip,ids _ id there⟩

theorem create_all_ids {created : Bool} {other : Nat} :
    indexIds (createIndexIfNeeded library folderId created) other = indexIds library other := by
  by_cases same : other = folderId
  · subst same
    exact create_ids
  · unfold createIndexIfNeeded
    split
    · rfl
    · split
      · exact other_ids same
      · rfl

theorem searchable_create {created : Bool} (searchable : Searchable library replaced) :
    Searchable (createIndexIfNeeded library folderId created) replaced := by
  apply searchable_ids searchable create_catalog
  intro other id there
  rw [create_all_ids]
  exact there

theorem searchable_set {ids : IndexFile Vector} (searchable : Searchable library replaced) (covers : Covers library folderId ids) :
    Searchable (setIndex library folderId (some ids)) replaced := by
  have catalog : (setIndex library folderId (some ids)).catalog = library.catalog := rfl
  apply searchable_ids searchable catalog
  intro other id there
  by_cases same : other = folderId
  · subst same
    rw [set_ids]
    exact covers id there
  · rw [other_ids same]
    exact there

theorem searchable_replaced {moved created : Bool} (searchable : Searchable library none) :
    Searchable (replaceCorrupted library folderId moved created) (some folderId) := by
  intro file member indexed
  rw [replace_catalog] at member
  by_cases mine : file.folderId = folderId
  · exact .inl (congrArg some mine.symm)
  · obtain ⟨id,clip,there⟩ := (searchable file member indexed).resolve_left nofun
    refine .inr ⟨id,clip,?_⟩
    unfold replaceCorrupted
    split
    · rw [other_ids mine]
      exact there
    · split
      · rw [other_ids mine]
        exact there
      · exact there

-- Without an indexed row the folder's index is not missed.
theorem searchable_unless (searchable : Searchable library (some folderId)) (nothing : anyIndexed library folderId = false) :
    Searchable library none := by
  intro file member indexed
  rcases searchable file member indexed with mine | here
  · exact absurd (Option.some.inj mine).symm (none_indexed nothing file member indexed)
  · exact .inr here

theorem searchable_reset (searchable : Searchable library (some folderId)) :
    Searchable {library with catalog:=resetFiles library.catalog folderId} none := by
  intro file member indexed
  obtain ⟨old,there,rfl⟩ := List.mem_map.mp member
  by_cases hit : (old.folderId = folderId && old.status ≠ .removed) = true
  · rw [if_pos hit] at indexed
    cases indexed
  · rw [if_neg hit] at indexed ⊢
    rcases searchable old there indexed with mine | here
    · refine absurd ?_ hit
      simp [(Option.some.inj mine).symm,indexed]
    · exact .inr here

theorem searchable_recorded {id : Nat} (searchable : Searchable library replaced) (mine : Mine library.catalog folderId id)
    (there : id ∈ indexIds library folderId) : Searchable {library with
      catalog:=updateFile library.catalog id none none (some id) (some .indexed)} replaced := by
  intro file member indexed
  rcases mem_updateFile member with before | ⟨old,before,same,rfl⟩
  · exact searchable file before indexed
  · obtain ⟨row,listed,same',rfl,-⟩ := mine
    have equal : old = row := List.inj_on_of_nodup_map library.catalog.files.distinct before listed (same.trans same'.symm)
    subst equal
    exact .inr ⟨id,rfl,there⟩

end Searching

structure Keeps (library next : PhotoLibrary Vector) (folderId : Nat) (call' : Call Vector) : Prop where
  restates : Restates library.catalog next.catalog
  searchable : Searchable next (Call.replaced folderId call')
  fits : (∀ outcome, call'.stage ≠ .finished outcome) → Fits next folderId call'

theorem restates_refl {catalog : Catalog} : Restates catalog catalog :=
  ⟨rfl,rfl,rfl,rfl,fun file member live => .inl ⟨file,member,rfl,live⟩⟩

theorem keeps_finished {outcome : CallOutcome} (restates : Restates library.catalog next.catalog) (searchable : Searchable next none) :
    Keeps library next folderId (call.to (.finished outcome)) := ⟨restates,searchable,fun unfinished => absurd rfl (unfinished _)⟩

theorem batch_mine {files : List File} {verdict : File → Verdict Vector} {stackable : Bool} (mine : AllMine library folderId files) :
    AllMine library folderId ((processImageBatch files verdict stackable).1.map Prod.fst) := by
  unfold processImageBatch
  dsimp only
  split
  · exact fun _ member => absurd member List.not_mem_nil
  · intro file member
    obtain ⟨feature,there,rfl⟩ := List.mem_map.mp member
    obtain ⟨one,listed,found⟩ := List.mem_filterMap.mp there
    split at found
    · cases found
      exact mine one listed
    · cases found

theorem all_append {files more : List File} (mine : AllMine library folderId files) (mine' : AllMine library folderId more) :
    AllMine library folderId (files ++ more) :=
  fun file member => (List.mem_append.mp member).elim (mine file) (mine' file)

theorem call_keeps (fits : Fits library folderId call) (searchable : Searchable library (Call.replaced folderId call))
    (allowed : recovers library folderId call input = true) (taken : stepCall folderId library call input = some (next,call')) :
    Keeps library next folderId call' := by
  obtain ⟨started,files,stage⟩ := fits
  unfold Call.replaced at searchable
  unfold stepCall at taken
  split at taken
  · rw [started] at taken
    cases taken
  · rw [started] at taken
    cases taken
  · rename_i ready stands
    cases taken
    rw [stands] at searchable
    cases ready with
    | true => exact ⟨restates_refl,searchable,fun _ => ⟨rfl,files,trivial⟩⟩
    | false => exact keeps_finished restates_refl searchable
  · rename_i found stands
    cases taken
    rw [stands] at searchable
    cases there : library.indices folderId with
    | none => exact keeps_finished restates_refl searchable
    | some loaded => cases found with
      | unreadable => exact keeps_finished restates_refl searchable
      | corrupt => exact ⟨restates_refl,searchable,fun _ => ⟨rfl,files,trivial⟩⟩
      | intact =>
          refine ⟨restates_refl,searchable,fun _ => ⟨rfl,files,?_⟩⟩
          intro id member
          unfold indexIds at member
          rw [there] at member
          exact member
  · rename_i moved created stands
    cases taken
    rw [stands] at searchable
    have same : Restates library.catalog (replaceCorrupted library folderId moved created).catalog := by
      rw [replace_catalog]
      exact restates_refl
    have searchable' := @searchable_replaced _ _ folderId moved created searchable
    cases created with
    | true => exact ⟨same,searchable',fun _ => ⟨rfl,mine_all same files,trivial⟩⟩
    | false =>
        refine keeps_finished same ?_
        cases moved with
        | false => exact searchable
        | true => exact searchable_unless searchable' (Bool.not_eq_true' _ ▸ allowed)
  · rename_i done stands
    rw [stands] at searchable
    split at taken
    · cases taken
      exact ⟨restates_reset,searchable_reset searchable,fun _ => ⟨rfl,mine_all restates_reset files,trivial⟩⟩
    · rename_i failed
      cases taken
      refine keeps_finished restates_refl (searchable_unless searchable ?_)
      unfold recovers at allowed
      rw [stands] at allowed
      simpa [failed] using allowed
  · rename_i done stands
    rw [stands] at searchable
    split at taken
    · cases taken
      exact keeps_finished restates_status searchable
    · cases taken
      exact keeps_finished restates_refl searchable
  · rename_i loaded there stands
    cases taken
    rw [stands] at searchable stage
    cases there with
    | true => exact ⟨restates_refl,searchable,fun _ => ⟨rfl,files,stage⟩⟩
    | false => exact keeps_finished restates_refl searchable
  · rename_i loaded submitted stands
    cases taken
    rw [stands] at searchable stage
    refine ⟨restates_refl,searchable,fun _ => ⟨rfl,files,stage,?_,fun _ member => absurd member List.not_mem_nil⟩⟩
    split
    · exact files
    · exact fun _ member => absurd member List.not_mem_nil
  · rename_i embedding outcome stands
    rw [stands] at searchable stage
    obtain ⟨covers,remaining,features⟩ := stage
    split at taken
    · cases taken
    · have rest : AllMine library folderId (embedding.remaining.drop batchSize) :=
        fun file member => remaining file (List.mem_of_mem_drop member)
      split at taken
      · cases taken
        exact ⟨restates_refl,searchable,fun _ => ⟨rfl,files,covers,rest,features⟩⟩
      · cases taken
        refine ⟨restates_refl,searchable,fun _ => ⟨rfl,files,covers,rest,?_⟩⟩
        dsimp only
        rw [List.map_append]
        exact all_append features (batch_mine fun file member => remaining file (List.mem_of_mem_take member))
  · rename_i embedding deleted invalid done stands
    rw [stands] at searchable stage
    obtain ⟨covers,remaining,features⟩ := stage
    split at taken
    · cases taken
      refine ⟨restates_removed,searchable_unmarked searchable removed_unmarks,fun _ => ⟨rfl,mine_all restates_removed files,covers,?_,?_⟩⟩
      · exact mine_all restates_removed remaining
      · exact mine_all restates_removed features
    · cases taken
      exact ⟨restates_refl,searchable,fun _ => ⟨rfl,files,covers,remaining,features⟩⟩
  · rename_i embedding invalid done stands
    rw [stands] at searchable stage
    obtain ⟨covers,remaining,features⟩ := stage
    split at taken
    · cases taken
      refine ⟨restates_removed,searchable_unmarked searchable removed_unmarks,fun _ => ⟨rfl,mine_all restates_removed files,covers,?_,?_⟩⟩
      · exact mine_all restates_removed remaining
      · exact mine_all restates_removed features
    · cases taken
      exact ⟨restates_refl,searchable,fun _ => ⟨rfl,files,covers,remaining,features⟩⟩
  · rename_i embedding done stands
    rw [stands] at searchable stage
    obtain ⟨covers,-,features⟩ := stage
    split at taken
    · cases taken
    · cases taken
      cases none : embedding.features.isEmpty with
      | true => exact ⟨restates_refl,searchable,fun _ => ⟨rfl,files,trivial⟩⟩
      | false => exact ⟨restates_refl,searchable,fun _ => ⟨rfl,files,covers,features⟩⟩
  · rename_i done stands
    rw [stands] at searchable
    split at taken
    · cases taken
      exact keeps_finished restates_removed (searchable_unmarked searchable removed_unmarks)
    · cases taken
      exact keeps_finished restates_refl searchable
  · rename_i loaded features result done stands
    rw [stands] at searchable stage
    obtain ⟨covers,mine⟩ := stage
    split at taken
    · cases taken
      have covers' : Covers library folderId (addWithIds loaded features) := by
        intro id there
        unfold addWithIds
        rw [List.map_append]
        exact List.mem_append_left _ (covers id there)
      refine ⟨restates_refl,searchable_set searchable covers',fun _ => ⟨rfl,files,mine,?_⟩⟩
      intro file member
      obtain ⟨feature,there,rfl⟩ := List.mem_map.mp member
      rw [set_ids,Option.getD_some]
      unfold addWithIds
      rw [List.map_append,List.map_map]
      exact List.mem_append_right _ (List.mem_map_of_mem there)
    · cases taken
      exact keeps_finished restates_refl searchable
  · rename_i result done stands
    cases taken
    rw [stands] at searchable
    exact keeps_finished restates_refl searchable
  · rename_i file rest result done stands
    rw [stands] at searchable stage
    obtain ⟨mine,there⟩ := stage
    split at taken
    · cases taken
      have restates := restates_recorded (mine file List.mem_cons_self)
      refine ⟨restates,?_,fun _ => ⟨rfl,mine_all restates files,?_,?_⟩⟩
      · exact searchable_recorded searchable (mine file List.mem_cons_self) (there file List.mem_cons_self)
      · exact mine_all restates fun other member => mine other (List.mem_cons_of_mem _ member)
      · exact fun other member => there other (List.mem_cons_of_mem _ member)
    · cases taken
      exact keeps_finished restates_refl searchable
  · cases taken

end ImageSearch.OwnedCalls
