import ImageSearch.IndexedPhotos

namespace ImageSearch.PendingPhotos
open Tables FileCatalog IndexCalls IndexedPhotos

variable {Vector : Type*} {folderId : Nat} {catalog : Catalog} {library next : PhotoLibrary Vector}
  {call call' : Call Vector} {input : CallInput Vector} {pair : Nat × String}

def pendings (catalog : Catalog) (folderId : Nat) : List (Nat × String) :=
  (catalog.files.rows.filter fun file => file.folderId = folderId && file.status = .pending).map fun file => (file.id,file.path)

theorem mem_pendings : pair ∈ pendings catalog folderId ↔ ∃ file ∈ catalog.files.rows,
    file.folderId = folderId ∧ file.status = .pending ∧ (file.id,file.path) = pair := by
  simp [pendings,and_assoc]

theorem pendings_removed {ids : List Nat} (member : pair ∈ pendings (setRemoved catalog ids) folderId) :
    pair ∈ pendings catalog folderId ∧ pair.1 ∉ ids := by
  obtain ⟨file,there,mine,pending,rfl⟩ := mem_pendings.mp member
  obtain ⟨old,before,rfl⟩ := List.mem_map.mp there
  by_cases removed : old.id ∈ ids
  · simp [removed] at pending
  · have kept : ¬ decide (old.id ∈ ids) = true := by simpa using removed
    simp only [if_neg kept] at mine pending ⊢
    exact ⟨mem_pendings.mpr ⟨old,before,mine,pending,rfl⟩,removed⟩

theorem pendings_recorded {fileId : Nat} (member : pair ∈ pendings
    (updateFile catalog fileId none none (some fileId) (some .indexed)) folderId) :
    pair ∈ pendings catalog folderId ∧ pair.1 ≠ fileId := by
  obtain ⟨file,there,mine,pending,rfl⟩ := mem_pendings.mp member
  obtain ⟨old,before,rfl⟩ := List.mem_map.mp there
  by_cases same : old.id = fileId
  · simp [same] at pending
  · simp only [same,decide_false,Bool.false_eq_true,if_false] at mine pending ⊢
    exact ⟨mem_pendings.mpr ⟨old,before,mine,pending,rfl⟩,same⟩

def addsPending (catalog : Catalog) (path : String) (folderId : Nat) : Bool :=
  let rows := catalog.files.rows.filter fun file => file.path = forwardSlashes path && file.folderId = folderId
  rows = [] || rows.any fun file => file.status = .removed

theorem pendings_inserted {path : String} {other : Nat} (member : pair ∈ pendings (insertFile catalog path other) folderId) :
    pair ∈ pendings catalog folderId ∨ (other = folderId ∧ addsPending catalog path other = true ∧
      pair.2 = forwardSlashes path) := by
  obtain ⟨file,there,mine,pending,rfl⟩ := mem_pendings.mp member
  unfold insertFile at there
  dsimp only at there
  split at there
  · obtain ⟨old,before,rfl⟩ := List.mem_map.mp there
    by_cases revived : old.path = forwardSlashes path ∧ old.folderId = other ∧ old.status = .removed
    · obtain ⟨path',folder',removed⟩ := revived
      have hit : (old.path = forwardSlashes path && old.folderId = other && old.status = .removed) = true := by
        simp [path',folder',removed]
      simp only [if_pos hit] at mine ⊢
      refine .inr ⟨folder'.symm.trans mine,?_,path'⟩
      have here : old ∈ catalog.files.rows.filter fun file => file.path = forwardSlashes path && file.folderId = other :=
        List.mem_filter.mpr ⟨before,by simp [path',folder']⟩
      unfold addsPending
      rw [Bool.or_eq_true]
      exact .inr (List.any_eq_true.mpr ⟨old,here,decide_eq_true removed⟩)
    · have miss : ¬ (old.path = forwardSlashes path && old.folderId = other && old.status = .removed) = true := by
        simpa [and_assoc] using revived
      simp only [if_neg miss] at mine pending ⊢
      exact .inl (mem_pendings.mpr ⟨old,before,mine,pending,rfl⟩)
  · rename_i unknown
    have none : (catalog.files.rows.filter fun file => file.path = forwardSlashes path && file.folderId = other) = [] := by
      refine List.filter_eq_nil_iff.mpr fun file member found => unknown ?_
      exact List.any_eq_true.mpr ⟨file,member,found⟩
    have old : file ∈ catalog.files.rows ∨ file.folderId = other ∧ file.path = forwardSlashes path := by
      rcases mem_upsert there with rfl | ⟨old,-⟩ | ⟨old,before,-,rfl⟩
      · exact .inr ⟨rfl,rfl⟩
      · exact .inl old
      · exact .inl before
    rcases old with before | ⟨folder',path'⟩
    · exact .inl (mem_pendings.mpr ⟨file,before,mine,pending,rfl⟩)
    · refine .inr ⟨folder'.symm.trans mine,?_,path'⟩
      unfold addsPending
      rw [none]
      rfl

theorem pendings_reset {other : Nat} (member : pair ∈ pendings (resetFiles catalog other) folderId) :
    pair ∈ pendings catalog folderId ∨ (other = folderId ∧ (catalog.files.rows.any fun file =>
      file.folderId = other && file.status = .indexed) = true) := by
  obtain ⟨file,there,mine,pending,rfl⟩ := mem_pendings.mp member
  obtain ⟨old,before,rfl⟩ := List.mem_map.mp there
  by_cases reset : old.folderId = other ∧ old.status ≠ .removed
  · have hit : (old.folderId = other && old.status ≠ .removed) = true := by simpa using reset
    simp only [if_pos hit] at mine ⊢
    cases stands : old.status with
    | pending => exact .inl (mem_pendings.mpr ⟨old,before,mine,stands,rfl⟩)
    | removed => exact absurd stands reset.2
    | indexed =>
        refine .inr ⟨reset.1.symm.trans mine,List.any_eq_true.mpr ⟨old,before,?_⟩⟩
        simp [reset.1,stands]
  · have miss : ¬ (old.folderId = other && old.status ≠ .removed) = true := by simpa using reset
    simp only [if_neg miss] at mine pending ⊢
    exact .inl (mem_pendings.mpr ⟨old,before,mine,pending,rfl⟩)

theorem none_pending {limit : Nat} (positive : 0 < limit) (read : getPendingFilesForFolder catalog folderId 0 limit = []) :
    pendings catalog folderId = [] := by
  unfold getPendingFilesForFolder at read
  rw [List.drop_zero,List.take_eq_nil_iff] at read
  have sorted := read.resolve_left positive.ne'
  refine List.eq_nil_iff_forall_not_mem.mpr fun pair member => ?_
  obtain ⟨file,there,mine,pending,-⟩ := mem_pendings.mp member
  have listed : file ∈ catalog.files.rows.filter fun file => file.folderId = folderId && file.status = .pending :=
    List.mem_filter.mpr ⟨there,by simp [mine,pending]⟩
  have read : file ∈ ([] : List File) := sorted ▸ (List.mem_insertionSort _).mpr listed
  cases read

-- The files that may still be pending when a call goes on to return True.
def owes (call : Call Vector) (id : Nat) : Prop :=
  match call.stage with
  | .idle => False
  | .adding _ features result => result = true → id ∈ features.map fun feature => feature.1.id
  | .recording remaining result => result = true → id ∈ remaining.map File.id
  | .finished (.returned result) => result = false
  | .recovering | .resetting | .demoting | .finished _ => True
  | _ => id ∈ call.imageFiles.map File.id

def reportsAll (catalog : Catalog) (folderId : Nat) (call : Call Vector) : Bool :=
  match call.stage with
  | .embedding embedding => embedding.remaining ≠ [] || !embedding.result || embedding.features.isEmpty ||
      (pendings catalog folderId).all fun pair => pair.1 ∈ embedding.features.map fun feature => feature.1.id
  | _ => true

theorem call_owes (taken : stepCall folderId library call input = some (next,call')) (started : call.stage.startable = false)
    (owed : ∀ pair ∈ pendings library.catalog folderId, owes call pair.1)
    (reported : ∀ done, input = .answer done → reportsAll library.catalog folderId call = true) :
    ∀ pair ∈ pendings next.catalog folderId, owes call' pair.1 := by
  unfold stepCall at taken
  unfold owes at owed
  split at taken
  · rw [started] at taken
    cases taken
  · rw [started] at taken
    cases taken
  · rename_i ready stands
    cases taken
    rw [stands] at owed
    intro pair member
    cases ready with
    | true => exact owed pair member
    | false => exact rfl
  · rename_i found stands
    cases taken
    rw [stands] at owed
    intro pair member
    cases library.indices folderId with
    | none => trivial
    | some loaded => cases found with
      | intact => exact owed pair member
      | corrupt => trivial
      | unreadable => trivial
  · cases taken
    intro pair member
    rename_i created _
    cases created <;> trivial
  · split at taken
    · cases taken; exact fun _ _ => trivial
    · cases taken; exact fun _ _ => trivial
  · split at taken
    · cases taken; exact fun _ _ => trivial
    · cases taken; exact fun _ _ => trivial
  · rename_i loaded there stands
    cases taken
    rw [stands] at owed
    intro pair member
    cases there with
    | true => exact owed pair member
    | false => trivial
  · rename_i loaded submitted stands
    cases taken
    rw [stands] at owed
    exact owed
  · rename_i embedding outcome stands
    rw [stands] at owed
    split at taken
    · cases taken
    · split at taken
      · cases taken; exact owed
      · cases taken; exact owed
  · rename_i embedding deleted invalid done stands
    rw [stands] at owed
    split at taken
    · cases taken; exact fun pair member => owed pair (pendings_removed member).1
    · cases taken; exact owed
  · rename_i embedding invalid done stands
    rw [stands] at owed
    split at taken
    · cases taken; exact fun pair member => owed pair (pendings_removed member).1
    · cases taken; exact owed
  · -- What has features is owed from here on; the rest of the call was reported away.
    rename_i embedding done stands
    rw [stands] at owed
    split at taken
    · cases taken
    · rename_i unequal
      cases taken
      have reports := reported done rfl
      unfold reportsAll at reports
      rw [stands] at reports
      cases none : embedding.features.isEmpty with
      | true => exact owed
      | false =>
          intro pair member result
          have result : embedding.result = true := result
          simp only [not_not.mp unequal,ne_eq,not_true_eq_false,decide_false,result,Bool.not_true,none,Bool.false_or,
            List.all_eq_true,decide_eq_true_eq] at reports
          exact reports pair member
  · rename_i done stands
    rw [stands] at owed
    split at taken
    · cases taken
      intro pair member
      obtain ⟨before,kept⟩ := pendings_removed member
      exact absurd (owed pair before) kept
    · cases taken; exact fun _ _ => trivial
  · rename_i loaded features result done stands
    rw [stands] at owed
    split at taken
    · cases taken
      intro pair member succeeds
      have listed := owed pair member succeeds
      rw [List.map_map]
      exact listed
    · cases taken; exact fun _ _ => trivial
  · rename_i result done stands
    cases taken
    rw [stands] at owed
    intro pair member
    cases result with
    | true => exact absurd (owed pair member rfl) List.not_mem_nil
    | false => rfl
  · rename_i file rest result done stands
    rw [stands] at owed
    split at taken
    · cases taken
      intro pair member succeeds
      obtain ⟨before,other⟩ := pendings_recorded member
      exact (List.mem_cons.mp (owed pair before succeeds)).resolve_left other
    · cases taken; exact fun _ _ => trivial
  · cases taken

theorem call_catalog (taken : stepCall folderId library call input = some (next,call')) :
    next.catalog = library.catalog ∨ (∃ ids, next.catalog = setRemoved library.catalog ids) ∨
    (∃ fileId, next.catalog = updateFile library.catalog fileId none none (some fileId) (some .indexed)) ∨
    next.catalog = updateFolderStatus library.catalog folderId .indexing ∨
    (call.stage = .resetting ∧ input = .answer true ∧ next.catalog = resetFiles library.catalog folderId) := by
  unfold stepCall at taken
  repeat' split at taken
  -- One statement of the table at most in every branch.
  all_goals cases taken
  all_goals first
    | exact .inl rfl
    | exact .inl create_catalog
    | exact .inl replace_catalog
    | exact .inr (.inl ⟨_,rfl⟩)
    | exact .inr (.inr (.inl ⟨_,rfl⟩))
    | exact .inr (.inr (.inr (.inl rfl)))
    | rename_i stands done
      exact .inr (.inr (.inr (.inr ⟨stands,congrArg _ done,rfl⟩)))

def callRenews (folderId : Nat) (library : PhotoLibrary Vector) (call : Call Vector) : CallInput Vector → Bool
  | .answer true => match call.stage with
    | .resetting => library.catalog.files.rows.any fun file => file.folderId = folderId && file.status = .indexed
    | _ => false
  | _ => false

theorem call_pendings {other : Nat} (taken : stepCall folderId library call input = some (next,call'))
    (member : pair ∈ pendings next.catalog other) : pair ∈ pendings library.catalog other ∨
      (folderId = other ∧ callRenews folderId library call input = true) := by
  rcases call_catalog taken with same | ⟨ids,same⟩ | ⟨fileId,same⟩ | same | ⟨stands,told,same⟩
  · exact .inl (same ▸ member)
  · rw [same] at member
    exact .inl (pendings_removed member).1
  · rw [same] at member
    exact .inl (pendings_recorded member).1
  · rw [same] at member
    exact .inl member
  · rw [same] at member
    rcases pendings_reset member with before | ⟨mine,indexed⟩
    · exact .inl before
    · refine .inr ⟨mine,?_⟩
      unfold callRenews
      rw [told]
      dsimp only
      rw [stands]
      exact indexed

theorem call_started (taken : stepCall folderId library call input = some (next,call'))
    (started : call.stage.startable = false) : call'.stage ≠ .idle := by
  unfold stepCall at taken
  repeat' split at taken
  all_goals cases taken
  all_goals intro waits
  all_goals first
    | cases waits
    | (rename_i startable; rw [started] at startable; cases startable)

end ImageSearch.PendingPhotos
