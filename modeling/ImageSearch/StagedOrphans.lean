import ImageSearch.StagedContents

namespace ImageSearch.StagedOrphans
open Payload Tables Transitions UploadOutcomes StagedUploads StagedContents

def handedOver (history : List Entry) : List String :=
  history.filterMap fun entry => match entry.reply with
    | .completed payload => some payload.tempFilePath
    | _ => none

def paths (staging : Staging) : List String :=
  staging.pendingByRequestId.rows.map PendingUpload.tempFilePath

-- The staged files there are: those of the pending uploads and those handed over.
def Accounted (run : Run) : Prop :=
  ∀ name, (run.staging.files name).isSome ↔ name ∈ paths run.staging ∨ name ∈ handedOver run.history

-- Where a failing flush or close would part a file from its upload: in complete, in the
-- closes a start makes after it created its file, and in every close of clear but the last.
def Harmless (run : Run) (label : Call × FileFaults) : Prop :=
  match label.1 with
  | .complete requestId => ∀ pending ∈ run.staging.pending? requestId,
      label.2.flush = none ∧ label.2.close pending.tempFilePath = none
  | .start requestId _ _ exclusive _ => label.2.create = none → ∀ pending ∈ run.staging.pendingByRequestId.rows,
      exclusive = true ∨ pending.requestId = requestId → label.2.close pending.tempFilePath = none
  | .clear => ∀ pending ∈ run.staging.pendingByRequestId.rows.dropLast, label.2.close pending.tempFilePath = none
  | .appendChunk _ _ | .discard _ => True

structure Owned (staging : Staging) (others : List String) : Prop where
  separate : Separate staging
  exact : ∀ name, (staging.files name).isSome ↔ name ∈ paths staging ∨ name ∈ others
  apart : ∀ name ∈ paths staging, name ∉ others

variable {lib : Libraries} {run next : Run} {label : Call × FileFaults} {staging : Staging} {others : List String}
  {pending fresh : PendingUpload} {faults : FileFaults} {requestId name : String} {chunk : Bytes} {given : Option String}
  {active : Option String} {files : TempFiles} {history : List Entry}

theorem owned_free (owned : Owned staging others) (free : staging.files name = none) :
    name ∉ paths staging ∧ name ∉ others := by
  have missing : ¬(staging.files name).isSome := by simp [free]
  exact not_or.mp (mt (owned.exact name).mpr missing)

theorem owned_path (owned : Owned staging others) (found : staging.pending? requestId = some pending) :
    pending.tempFilePath ∉ others :=
  owned.apart _ (List.mem_map_of_mem (pending_mem found).1)

theorem paths_pop (separate : Separate staging) (found : staging.pending? requestId = some pending) :
    name ∈ paths (staging.pop requestId) ↔ name ∈ paths staging ∧ name ≠ pending.tempFilePath := by
  obtain ⟨member,named⟩ := pending_mem found
  constructor
  · intro left
    obtain ⟨other,remains,rfl⟩ := List.mem_map.mp left
    obtain ⟨old,different⟩ := mem_pop.mp remains
    refine ⟨List.mem_map_of_mem old,fun same => different ?_⟩
    rw [same_upload separate old member same,named]
  · rintro ⟨there,different⟩
    obtain ⟨other,old,rfl⟩ := List.mem_map.mp there
    refine List.mem_map_of_mem (mem_pop.mpr ⟨old,fun same => different ?_⟩)
    have located := find_of_mem old
    rw [same] at located
    rw [Option.some.inj (located.symm.trans found)]

theorem owned_created (owned : Owned staging others) (free : staging.files name = none) :
    Owned {staging with files:=Function.update staging.files name (some [])} (name :: others) := by
  obtain ⟨absent,-⟩ := owned_free owned free
  refine ⟨narrowed_separate (create_narrowed owned.separate free) owned.separate,?_,?_⟩
  · intro other
    by_cases same : other = name
    · subst same
      simp
    · simpa [same,paths] using owned.exact other
  · intro other there
    rw [List.mem_cons,not_or]
    exact ⟨fun same => absent (same ▸ there),owned.apart other there⟩

theorem owned_closed (owned : Owned staging others) (found : staging.pending? requestId = some pending) :
    Owned ⟨(staging.pop requestId).pendingByRequestId,active,(pending.close faults staging.files).2⟩ others := by
  have elsewhere := owned_path owned found
  have narrowed : Narrowed staging
      ⟨(staging.pop requestId).pendingByRequestId,active,(pending.close faults staging.files).2⟩ :=
    pop_narrowed owned.separate found fun name different => close_untouched name different staging.files
  refine ⟨narrowed_separate narrowed owned.separate,?_,?_⟩
  · intro name
    change _ ↔ name ∈ paths (staging.pop requestId) ∨ _
    rw [paths_pop owned.separate found]
    by_cases same : name = pending.tempFilePath
    · subst same
      simp [PendingUpload.close,elsewhere]
    · simpa [PendingUpload.close,same] using owned.exact name
  · intro name there
    exact owned.apart name ((paths_pop owned.separate found).mp there).1

theorem owned_completed (owned : Owned staging others) (found : staging.pending? requestId = some pending)
    (kept : ∀ name, (files name).isSome = (staging.files name).isSome) :
    Owned ⟨(staging.pop requestId).pendingByRequestId,active,files⟩ (pending.tempFilePath :: others) := by
  have member := (pending_mem found).1
  refine ⟨⟨(List.filter_sublist.map _).nodup owned.separate.distinct,?_⟩,?_,?_⟩
  · intro other remains
    rw [kept]
    exact owned.separate.present other (mem_pop.mp remains).1
  · intro name
    change _ ↔ name ∈ paths (staging.pop requestId) ∨ _
    rw [paths_pop owned.separate found,kept,owned.exact name,List.mem_cons]
    by_cases same : name = pending.tempFilePath
    · subst same
      simp [paths,List.mem_map_of_mem member]
    · simp [same]
  · intro name there
    obtain ⟨old,different⟩ := (paths_pop owned.separate found).mp there
    rw [List.mem_cons,not_or]
    exact ⟨different,owned.apart name old⟩

theorem owned_put (owned : Owned staging (fresh.tempFilePath :: others)) (absent : staging.pending? fresh.requestId = none)
    (unused : fresh.tempFilePath ∉ others) : Owned (staging.put fresh) others := by
  have apart : fresh.tempFilePath ∉ paths staging := fun there =>
    owned.apart _ there List.mem_cons_self
  have paths : paths (staging.put fresh) = paths staging ++ [fresh.tempFilePath] := by
    simp [paths,put_rows absent]
  refine ⟨put_separate owned.separate absent apart ((owned.exact _).mpr (.inr List.mem_cons_self)),?_,?_⟩
  · intro name
    rw [paths]
    change (staging.files name).isSome ↔ _
    rw [owned.exact name,List.mem_append,List.mem_cons,List.mem_singleton,or_assoc]
  · intro name there
    rw [paths] at there
    rcases List.mem_append.mp there with old | new
    · exact fun other => owned.apart name old (List.mem_cons_of_mem _ other)
    · cases List.mem_singleton.mp new
      exact unused

theorem closeAll_files {pendings : List PendingUpload}
    (closes : ∀ pending ∈ pendings.dropLast, faults.close pending.tempFilePath = none) (name : String) :
    (closeAll faults pendings files).2 name =
      if name ∈ pendings.map PendingUpload.tempFilePath then none else files name := by
  induction pendings generalizing files with
  | nil => simp [closeAll]
  | cons pending rest ih =>
      have closed : ∀ name, (pending.close faults files).2 name = if name = pending.tempFilePath then none else files name := by
        intro name
        by_cases same : name = pending.tempFilePath <;> simp [PendingUpload.close,same]
      cases rest with
      | nil =>
          unfold closeAll
          split
          · rename_i outcome
            simpa [outcome] using closed name
          · rename_i outcome
            simpa [closeAll,outcome] using closed name
      | cons second rest =>
          have succeeds : pending.close faults files = (none,(pending.close faults files).2) := by
            unfold PendingUpload.close
            rw [closes pending (by simp)]
          unfold closeAll
          rw [succeeds]
          rw [ih fun other member => closes other (by simp [member]),closed name]
          by_cases same : name = pending.tempFilePath
          · simp [same]
          · simp [same]

theorem closeAll_none {pendings : List PendingUpload}
    (closes : ∀ pending ∈ pendings, faults.close pending.tempFilePath = none) : (closeAll faults pendings files).1 = none := by
  induction pendings generalizing files with
  | nil => rfl
  | cons pending rest ih =>
      have succeeds : pending.close faults files = (none,(pending.close faults files).2) := by
        unfold PendingUpload.close
        rw [closes pending List.mem_cons_self]
      unfold closeAll
      rw [succeeds]
      exact ih fun other member => closes other (List.mem_cons_of_mem _ member)

theorem owned_clear (owned : Owned staging others)
    (closes : ∀ pending ∈ staging.pendingByRequestId.rows.dropLast, faults.close pending.tempFilePath = none) :
    Owned (staging.clear faults).2 others := by
  refine ⟨narrowed_separate clear_narrowed owned.separate,?_,fun _ there => absurd there (List.not_mem_nil)⟩
  intro name
  have left : (staging.clear faults).2.files name = if name ∈ paths staging then none else staging.files name :=
    closeAll_files closes name
  have empty : paths (staging.clear faults).2 = [] := rfl
  rw [left,empty]
  by_cases there : name ∈ paths staging
  · simp [there,owned.apart name there]
  · simpa only [there,if_false,false_or,List.not_mem_nil] using owned.exact name

theorem owned_registered (owned : Owned staging (fresh.tempFilePath :: others)) (unused : fresh.tempFilePath ∉ others)
    (closes : ∀ existing ∈ staging.pending? fresh.requestId, faults.close existing.tempFilePath = none) :
    (staging.register fresh faults).1 = none ∧ Owned (staging.register fresh faults).2 others := by
  unfold Staging.register
  split
  · rename_i absent
    exact ⟨rfl,owned_put owned absent unused⟩
  · rename_i existing found
    have succeeds : existing.close faults staging.files = (none,(existing.close faults staging.files).2) := by
      unfold PendingUpload.close
      rw [closes existing found]
    dsimp only
    rw [succeeds]
    exact ⟨rfl,owned_put (owned_closed owned found) pop_absent unused⟩

theorem owned_start {metadataPayload : Fields} {key : Option String} {exclusive : Bool} (owned : Owned staging others)
    (free : staging.files name = none)
    (closes : faults.create = none → ∀ pending ∈ staging.pendingByRequestId.rows,
      exclusive = true ∨ pending.requestId = requestId → faults.close pending.tempFilePath = none) :
    Owned (staging.start requestId metadataPayload key exclusive name faults).2 others := by
  have unused := (owned_free owned free).2
  unfold Staging.start
  split
  · exact owned
  · rename_i created
    have opened := owned_created owned free
    have closes := closes created
    dsimp only
    split
    · rename_i alone
      have every : ∀ pending ∈ staging.pendingByRequestId.rows, faults.close pending.tempFilePath = none :=
        fun pending member => closes pending member (.inl alone)
      have cleared := owned_clear opened fun pending member => every pending (List.dropLast_subset _ member)
      split
      · rename_i error after outcome
        rw [outcome] at cleared
        have succeeded : (Staging.clear {staging with files:=Function.update staging.files name (some [])} faults).1 = none :=
          closeAll_none every
        rw [outcome] at succeeded
        cases succeeded
      · rename_i after outcome
        rw [outcome] at cleared
        have empty : after.pendingByRequestId.rows = [] := by
          have rows : (Staging.clear {staging with files:=Function.update staging.files name (some [])}
            faults).2.pendingByRequestId.rows = [] := rfl
          rwa [outcome] at rows
        refine (owned_registered cleared unused ?_).2
        intro existing found
        have member := (pending_mem found).1
        rw [empty] at member
        cases member
    · refine (owned_registered opened unused ?_).2
      intro existing found
      obtain ⟨member,named⟩ := pending_mem found
      exact closes existing member (.inr named)

theorem owned_append (owned : Owned staging others) : Owned (staging.appendChunk chunk given faults).2 others := by
  rcases @append_parts staging faults chunk given with ⟨same,-⟩ | ⟨pending,found,result⟩
  · rwa [same]
  · have kept : paths (staging.appendTo pending chunk faults).2 = paths staging := appendTo_paths (resolve_mem found).2
    have separate : Separate (staging.appendChunk chunk given faults).2 := append_separate owned.separate
    rw [result] at separate ⊢
    refine ⟨separate,?_,?_⟩
    · rw [kept,appendTo_files]
      exact owned.exact
    · rw [kept]
      exact owned.apart

-- discard unlinks the file even where the handle does not close.
theorem owned_discard (owned : Owned staging others) : Owned (staging.discard requestId faults).2 others := by
  unfold Staging.discard
  split
  · exact owned
  · rename_i pending found
    have closed : Owned {staging.forget requestId with files:=(pending.close faults staging.files).2} others :=
      owned_closed owned found
    dsimp only
    split <;> exact closed

theorem flush_kept (files : TempFiles) (handle : TempFileHandle) (name : String) :
    (flushHandle files handle name).isSome = (files name).isSome := by
  by_cases same : name = handle.name
  · subst same
    simp [flushHandle]
  · simp [flushHandle,same]

theorem owned_complete (owned : Owned staging (handedOver history))
    (succeeds : ∀ pending ∈ staging.pending? requestId, faults.flush = none ∧ faults.close pending.tempFilePath = none) :
    Owned (staging.complete lib requestId faults).2
      (handedOver (⟨.complete requestId,active,.ofComplete (staging.complete lib requestId faults).1⟩ :: history)) := by
  unfold Staging.complete
  split
  · exact owned
  · rename_i pending found
    obtain ⟨flushes,closes⟩ := succeeds pending found
    have finished : pending.toPayload lib faults staging.files =
        (.ok ⟨pending.metadataPayload,pending.contentLength,pending.tempFilePath,lib.sha1 pending.contentSha1,
          pending.encryptionTrustKeyB64⟩,flushHandle staging.files pending.tempFileHandle) := by
      simp [PendingUpload.toPayload,flushes,closes]
    dsimp only
    rw [finished]
    exact owned_completed owned found (flush_kept staging.files pending.tempFileHandle)

theorem owned_step (owned : Owned run.staging (handedOver run.history)) (harmless : Harmless run label)
    (taken : (calls lib).step run label = some next) : Owned next.staging (handedOver next.history) := by
  obtain ⟨staging,history⟩ := run
  obtain ⟨call,faults⟩ := label
  obtain ⟨offered,rfl⟩ := calls_parts taken
  -- Only a completion's entry can add to what was handed over.
  have kept : ∀ reply : Option OSError, handedOver (⟨call,staging.activeRequestId,.ofUnit reply⟩ :: history) = handedOver history := by
    intro reply
    cases reply <;> rfl
  cases call with
  | start requestId metadataPayload key exclusive name =>
      have started := @owned_start staging (handedOver history) faults requestId name metadataPayload key exclusive owned
        (Option.isNone_iff_eq_none.mp offered) harmless
      exact (kept _).symm ▸ started
  | appendChunk chunk given =>
      have same : handedOver (⟨.appendChunk chunk given,staging.activeRequestId,
          .ofAppend (staging.appendChunk chunk given faults).1⟩ :: history) = handedOver history := by
        rcases (staging.appendChunk chunk given faults).1 with error | message
        · rfl
        · cases message <;> rfl
      exact same.symm ▸ owned_append owned
  | complete requestId => exact owned_complete owned harmless
  | discard requestId =>
      have same : handedOver (⟨.discard requestId,staging.activeRequestId,
          .ofDiscard (staging.discard requestId faults).1⟩ :: history) = handedOver history := by
        cases (staging.discard requestId faults).1 <;> rfl
      exact same.symm ▸ owned_discard owned
  | clear => exact (kept _).symm ▸ owned_clear owned harmless

def Kept (run : Run) : Prop := Owned run.staging (handedOver run.history)

theorem new_kept : Kept Run.new :=
  ⟨new_separate,fun name => by simp [Run.new,Staging.new,paths,handedOver,Table.empty],
    fun _ there => absurd there (List.not_mem_nil)⟩

-- While no flush or close fails where the upload is already out of the map, every
-- staged file is a pending upload's or was handed over.
theorem staged_files_accounted (path : Reaches (calls lib) Harmless Run.new run) : Accounted run := by
  have kept : Kept run := reaches_preserves (fun _ _ _ kept harmless taken => owned_step kept harmless taken) new_kept path
  exact kept.exact

def diskFull : OSError := ⟨"No space left on device",some errnoNoSpace,none,[]⟩

def flushFails : FileFaults := {noFaults with flush:=some diskFull}
def closeFails : FileFaults := {noFaults with close:=fun name => if name = "one.part" then some diskFull else none}

def orphaned (name : String) (run : Run) : Bool :=
  (run.staging.files name).isSome && !(paths run.staging).contains name && !(handedOver run.history).contains name

theorem orphaned_unaccounted (left : orphaned name run = true) : ¬ Accounted run := by
  intro accounted
  simp only [orphaned,Bool.and_eq_true,Bool.not_eq_true',List.contains_eq_mem,decide_eq_false_iff_not] at left
  rcases (accounted name).mp left.1.1 with pending | gone
  · exact left.1.2 pending
  · exact left.2 gone

-- A completion that does not flush, a restart whose replaced upload does not close, and
-- a clear whose first upload does not close.
def failingComplete : List (Call × FileFaults) :=
  [(.start "1" [] none false "one.part",noFaults),(.complete "1",flushFails)]
def failingRestart : List (Call × FileFaults) :=
  [(.start "1" [] none false "one.part",noFaults),(.start "1" [] none false "two.part",closeFails)]
def failingClear : List (Call × FileFaults) :=
  [(.start "1" [] none false "one.part",noFaults),(.start "2" [] none false "two.part",noFaults),(.clear,closeFails)]

def ranOn (schedule : List (Call × FileFaults)) : Option Run :=
  (calls sampleLibraries).checkedRun (fun _ _ => True) Run.new schedule

theorem schedule_leaks {schedule : List (Call × FileFaults)} (name : String)
    (left : (ranOn schedule).any (orphaned name) = true) : ∃ run, ranOn schedule = some run ∧ ¬ Accounted run := by
  cases ran : ranOn schedule with
  | none => simp [ran] at left
  | some run => exact ⟨run,rfl,orphaned_unaccounted (by simpa [ran] using left)⟩

theorem staged_files_leak :
    (∃ run, ranOn failingComplete = some run ∧ ¬ Accounted run) ∧
      (∃ run, ranOn failingRestart = some run ∧ ¬ Accounted run) ∧
      ∃ run, ranOn failingClear = some run ∧ ¬ Accounted run :=
  ⟨schedule_leaks "one.part" (by decide +kernel),schedule_leaks "two.part" (by decide +kernel),
    schedule_leaks "two.part" (by decide +kernel)⟩

instance (run : Run) (label : Call × FileFaults) : Decidable (Harmless run label) :=
  match label with
  | (.complete requestId,faults) => inferInstanceAs (Decidable (∀ pending ∈ run.staging.pending? requestId,
      faults.flush = none ∧ faults.close pending.tempFilePath = none))
  | (.start requestId _ _ exclusive _,faults) => inferInstanceAs (Decidable (faults.create = none →
      ∀ pending ∈ run.staging.pendingByRequestId.rows,
        exclusive = true ∨ pending.requestId = requestId → faults.close pending.tempFilePath = none))
  | (.clear,faults) => inferInstanceAs (Decidable (∀ pending ∈ run.staging.pendingByRequestId.rows.dropLast,
      faults.close pending.tempFilePath = none))
  | (.appendChunk _ _,_) => inferInstanceAs (Decidable True)
  | (.discard _,_) => inferInstanceAs (Decidable True)

def harmlessRun : List (Call × FileFaults) :=
  [(.start "1" [] none false "one.part",noFaults),(.appendChunk [97] none,{noFaults with write:=some (diskFull,0)}),
    (.discard "1",closeFails),(.start "2" [] none false "two.part",noFaults),(.appendChunk [97] (some "2"),noFaults),
    (.start "3" [] none false "three.part",noFaults),(.complete "2",noFaults)]

theorem staged_files_accounted_run : ∃ run, Accounted run ∧
    (handedOver run.history = ["two.part"] ∧ paths run.staging = ["three.part"]) := by
  obtain ⟨run,path,left⟩ := checkedRun_exhibits (calls sampleLibraries) Harmless Run.new harmlessRun
    (fun run => handedOver run.history == ["two.part"] && paths run.staging == ["three.part"]) (by decide +kernel)
  exact ⟨run,staged_files_accounted path,by simpa using left⟩

end ImageSearch.StagedOrphans
