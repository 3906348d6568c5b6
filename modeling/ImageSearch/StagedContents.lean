import ImageSearch.StagedUploads
import ImageSearch.UploadOutcomes

namespace ImageSearch.StagedContents
open Payload Tables Transitions StagedUploads UploadOutcomes

structure Acceptance where
  metadataPayload : Fields
  encryptionTrustKeyB64 : Option String
  chunks : List Bytes

def Acceptance.add (acceptance : Acceptance) (chunk : Bytes) : Acceptance :=
  {acceptance with chunks:=acceptance.chunks ++ [chunk]}

-- A chunk without a request id counts for the one that active_request_id named.
def sinceStart (requestId : String) : List Entry → Option Acceptance
  | [] => none
  | entry :: older => match entry.call,entry.reply with
    | .start other metadataPayload key _ _,.done =>
      if other = requestId then some ⟨metadataPayload,key,[]⟩ else sinceStart requestId older
    | .appendChunk chunk given,.done =>
      if given.or entry.active = some requestId then (sinceStart requestId older).map fun accepted => accepted.add chunk
      else sinceStart requestId older
    | _,_ => sinceStart requestId older

-- The file and what is still in the handle's buffer make up what was accepted.
structure Holds (files : TempFiles) (pending : PendingUpload) (acceptance : Acceptance) : Prop where
  metadata : pending.metadataPayload = acceptance.metadataPayload
  key : pending.encryptionTrustKeyB64 = acceptance.encryptionTrustKeyB64
  digest : pending.contentSha1 = acceptance.chunks.flatten
  length : pending.contentLength = acceptance.chunks.flatten.length
  file : ∃ written, files pending.tempFilePath = some written ∧
    written ++ pending.tempFileHandle.buffered = acceptance.chunks.flatten

structure Followed (run : Run) : Prop where
  separate : Separate run.staging
  uploads : ∀ pending ∈ run.staging.pendingByRequestId.rows, ∃ acceptance,
    sinceStart pending.requestId run.history = some acceptance ∧ Holds run.staging.files pending acceptance

-- No write of a chunk raises; every other file operation may.
def WritesSucceed (_ : Run) (label : Call × FileFaults) : Prop := label.2.write = none

variable {lib : Libraries} {run next : Run} {label : Call × FileFaults} {staging after : Staging} {history : List Entry}
  {pending fresh : PendingUpload} {faults : FileFaults} {requestId name : String} {chunk : Bytes} {given : Option String}
  {files other : TempFiles} {acceptance : Acceptance} {entry : Entry}

theorem holds_file (holds : Holds files pending acceptance) (same : other pending.tempFilePath = files pending.tempFilePath) :
    Holds other pending acceptance :=
  ⟨holds.metadata,holds.key,holds.digest,holds.length,by rw [same]; exact holds.file⟩

theorem holds_new {metadataPayload : Fields} {key : Option String} (empty : files name = some []) :
    Holds files (newUpload requestId metadataPayload key name) ⟨metadataPayload,key,[]⟩ :=
  ⟨rfl,rfl,rfl,rfl,[],empty,rfl⟩

theorem holds_appended (holds : Holds files pending acceptance) :
    Holds files (pending.appendChunk chunk none).2 (acceptance.add chunk) := by
  obtain ⟨written,there,content⟩ := holds.file
  refine ⟨holds.metadata,holds.key,?_,?_,written,there,?_⟩
  · simp [PendingUpload.appendChunk,Acceptance.add,holds.digest]
  · simp [PendingUpload.appendChunk,Acceptance.add,holds.length]
  · simp [PendingUpload.appendChunk,Acceptance.add,← content]

theorem holds_empty (holds : Holds files pending acceptance) : Holds files pending (acceptance.add []) :=
  ⟨holds.metadata,holds.key,by simpa [Acceptance.add] using holds.digest,by simpa [Acceptance.add] using holds.length,
    by simpa [Acceptance.add] using holds.file⟩

theorem followed_narrowed (followed : Followed ⟨staging,history⟩) (narrowed : Narrowed staging after)
    (same : ∀ requestId, sinceStart requestId (entry :: history) = sinceStart requestId history) :
    Followed ⟨after,entry :: history⟩ := by
  refine ⟨narrowed_separate narrowed followed.separate,?_⟩
  intro pending member
  obtain ⟨acceptance,recorded,holds⟩ := followed.uploads pending (narrowed.rows.subset member)
  exact ⟨acceptance,(same _).trans recorded,holds_file holds (narrowed.files pending member)⟩

theorem start_followed {metadataPayload : Fields} {key active : Option String} {exclusive : Bool}
    (followed : Followed ⟨staging,history⟩) (free : staging.files name = none) :
    Followed ⟨(staging.start requestId metadataPayload key exclusive name faults).2,
      ⟨.start requestId metadataPayload key exclusive name,active,
        .ofUnit (staging.start requestId metadataPayload key exclusive name faults).1⟩ :: history⟩ := by
  have separate : Separate staging := followed.separate
  rcases @start_parts staging faults requestId name metadataPayload key exclusive separate free with
    ⟨error,failed,narrowed⟩ | ⟨done,middle,narrowed,absent,empty,apart,result⟩
  · rw [failed]
    exact followed_narrowed followed narrowed fun _ => rfl
  · refine ⟨start_separate separate free,?_⟩
    rw [done,result]
    intro pending member
    have member : pending ∈ (middle.put (newUpload requestId metadataPayload key name)).pendingByRequestId.rows := member
    rw [put_rows absent] at member
    rcases List.mem_append.mp member with old | new
    · have different : requestId ≠ pending.requestId := by
        rintro rfl
        exact find_none.mp absent (List.mem_map_of_mem old)
      obtain ⟨acceptance,recorded,holds⟩ := followed.uploads pending (narrowed.rows.subset old)
      refine ⟨acceptance,?_,holds_file holds (narrowed.files pending old)⟩
      simpa [sinceStart,Reply.ofUnit,different] using recorded
    · cases List.mem_singleton.mp new
      refine ⟨⟨metadataPayload,key,[]⟩,?_,holds_new empty⟩
      simp [sinceStart,Reply.ofUnit,newUpload]

-- A chunk that is written is the next one of the upload it was resolved to, and no
-- other upload's.
theorem append_followed (followed : Followed ⟨staging,history⟩) (succeeds : faults.write = none) :
    Followed ⟨(staging.appendChunk chunk given faults).2,
      ⟨.appendChunk chunk given,staging.activeRequestId,.ofAppend (staging.appendChunk chunk given faults).1⟩ :: history⟩ := by
  have separate : Separate staging := followed.separate
  refine ⟨append_separate separate,?_⟩
  rcases @append_parts staging faults chunk given with ⟨same,accepted⟩ | ⟨pending,found,result⟩
  · rw [same]
    intro pending member
    obtain ⟨acceptance,recorded,holds⟩ := followed.uploads pending member
    cases reply : (staging.appendChunk chunk given faults).1 with
    | error error => exact ⟨acceptance,recorded,holds⟩
    | ok message =>
        cases message with
        | some message => exact ⟨acceptance,recorded,holds⟩
        | none =>
            have recorded : sinceStart pending.requestId history = some acceptance := recorded
            cases accepted reply
            by_cases named : given.or staging.activeRequestId = some pending.requestId
            · refine ⟨acceptance.add [],?_,holds_empty holds⟩
              simp [sinceStart,Reply.ofAppend,named,recorded]
            · refine ⟨acceptance,?_,holds⟩
              simp [sinceStart,Reply.ofAppend,named,recorded]
  · obtain ⟨named,member⟩ := resolve_mem found
    have reply : (staging.appendTo pending chunk faults).1 = .ok none := by
      simp [Staging.appendTo,succeeds,PendingUpload.appendChunk]
    rw [result,reply]
    intro other present
    rw [appendTo_files]
    rcases appendTo_mem member present with rfl | ⟨old,different⟩
    · obtain ⟨acceptance,recorded,holds⟩ := followed.uploads pending member
      have recorded : sinceStart pending.requestId history = some acceptance := recorded
      rw [succeeds]
      refine ⟨acceptance.add chunk,?_,holds_appended holds⟩
      rw [appended_id]
      simp [sinceStart,Reply.ofAppend,named,recorded]
    · obtain ⟨acceptance,recorded,holds⟩ := followed.uploads other old
      have recorded : sinceStart other.requestId history = some acceptance := recorded
      refine ⟨acceptance,?_,holds⟩
      have unnamed : pending.requestId ≠ other.requestId := fun same => different same.symm
      simp [sinceStart,Reply.ofAppend,named,unnamed,recorded]

theorem followed_step (followed : Followed run) (succeeds : WritesSucceed run label)
    (taken : (calls lib).step run label = some next) : Followed next := by
  obtain ⟨staging,history⟩ := run
  obtain ⟨call,faults⟩ := label
  obtain ⟨offered,rfl⟩ := calls_parts taken
  cases call with
  | start requestId metadataPayload key exclusive name => exact start_followed followed (Option.isNone_iff_eq_none.mp offered)
  | appendChunk chunk given => exact append_followed followed succeeds
  | complete requestId => exact followed_narrowed followed (complete_narrowed lib followed.separate) fun _ => rfl
  | discard requestId => exact followed_narrowed followed (discard_narrowed followed.separate) fun _ => rfl
  | clear => exact followed_narrowed followed clear_narrowed fun _ => rfl

theorem followed_reaches (path : Reaches (calls lib) WritesSucceed Run.new run) : Followed run :=
  reaches_preserves (fun _ _ _ followed succeeds taken => followed_step followed succeeds taken)
    ⟨new_separate,fun _ member => absurd member (List.not_mem_nil)⟩ path

theorem complete_parts {payload : TransferAssetUploadPayload}
    (completed : (staging.complete lib requestId faults).1 = .ok (.ok payload)) :
    ∃ pending, staging.pending? requestId = some pending ∧
      payload = ⟨pending.metadataPayload,pending.contentLength,pending.tempFilePath,lib.sha1 pending.contentSha1,
        pending.encryptionTrustKeyB64⟩ ∧
      (staging.complete lib requestId faults).2.files = flushHandle staging.files pending.tempFileHandle := by
  unfold Staging.complete at completed ⊢
  split at completed
  · cases completed
  · rename_i pending found
    refine ⟨pending,found,?_⟩
    dsimp only
    unfold PendingUpload.toPayload at completed ⊢
    split at completed
    · cases completed
    · dsimp only at completed ⊢
      split at completed
      · cases completed
      · cases completed
        exact ⟨rfl,rfl⟩

theorem holds_flushed (holds : Holds files pending acceptance) :
    flushHandle files pending.tempFileHandle pending.tempFilePath = some acceptance.chunks.flatten := by
  obtain ⟨written,there,content⟩ := holds.file
  have there : files pending.tempFileHandle.name = some written := there
  simp [flushHandle,PendingUpload.tempFilePath,there,content]

theorem appendTo_found (found : staging.pending? pending.requestId = some pending) :
    (staging.appendTo pending chunk faults).2.pending? pending.requestId =
      some (pending.appendChunk chunk faults.write).2 := by
  have member := (pending_mem found).1
  have row : (pending.appendChunk chunk faults.write).2 ∈
      (staging.appendTo pending chunk faults).2.pendingByRequestId.rows := by
    rw [appendTo_rows]
    refine List.mem_map.mpr ⟨pending,member,?_⟩
    rw [if_pos rfl]
    exact (appendTo_row member member rfl faults.write).1
  have located := find_of_mem row
  rwa [appended_id] at located

theorem appendTo_others {id : String} (different : id ≠ pending.requestId) :
    (staging.appendTo pending chunk faults).2.pending? id = staging.pending? id := by
  have modified : (staging.appendTo pending chunk faults).2.pending? id =
      (staging.pending? id).map fun other => if other.requestId = pending.requestId then
        {(pending.appendChunk chunk faults.write).2 with requestId:=other.requestId} else other := by
    unfold Staging.appendTo
    dsimp only
    split <;> simp [Staging.pending?,find_modify]
  rw [modified]
  cases found : staging.pending? id with
  | none => rfl
  | some other =>
      have named : other.requestId ≠ pending.requestId := by rw [(pending_mem found).2]; exact different
      rw [Option.map_some,if_neg named]

-- A payload is exactly what was accepted for its request id since that was started; a
-- chunk without a request id goes to the upload that active_request_id names or nowhere.
theorem completed_upload_exact (path : Reaches (calls lib) WritesSucceed Run.new run) :
    (∀ requestId faults payload, (run.staging.complete lib requestId faults).1 = .ok (.ok payload) →
      ∃ accepted, sinceStart requestId run.history = some accepted ∧
        (run.staging.complete lib requestId faults).2.files payload.tempFilePath = some accepted.chunks.flatten ∧
        payload.contentLength = accepted.chunks.flatten.length ∧
        payload.contentSha1 = lib.sha1 accepted.chunks.flatten ∧
        payload.metadataPayload = accepted.metadataPayload ∧
        payload.encryptionTrustKeyB64 = accepted.encryptionTrustKeyB64) ∧
    ∀ chunk faults, faults.write = none →
      ((run.staging.appendChunk chunk none faults).1 = .ok none ∧ ∃ pending,
        run.staging.activeRequestId = some pending.requestId ∧ run.staging.pending? pending.requestId = some pending ∧
        (run.staging.appendChunk chunk none faults).2.pending? pending.requestId = some (pending.appendChunk chunk none).2 ∧
        ∀ id ≠ pending.requestId, (run.staging.appendChunk chunk none faults).2.pending? id = run.staging.pending? id) ∨
      ((run.staging.appendChunk chunk none faults).2 = run.staging ∧
        ((run.staging.appendChunk chunk none faults).1 = .ok none → chunk = [])) := by
  have followed := followed_reaches path
  constructor
  · intro requestId faults payload completed
    obtain ⟨pending,found,rfl,files⟩ := complete_parts completed
    obtain ⟨member,rfl⟩ := pending_mem found
    obtain ⟨accepted,recorded,holds⟩ := followed.uploads pending member
    refine ⟨accepted,recorded,?_,holds.length,?_,holds.metadata,holds.key⟩
    · rw [files]
      exact holds_flushed holds
    · exact congrArg lib.sha1 holds.digest
  · intro chunk faults succeeds
    rcases @append_parts run.staging faults chunk none with unchanged | ⟨pending,found,result⟩
    · exact .inr unchanged
    · obtain ⟨named,member⟩ := resolve_mem found
      have located : run.staging.pending? pending.requestId = some pending := find_of_mem member
      rw [result]
      refine .inl ⟨?_,pending,named,located,?_,fun id different => appendTo_others different⟩
      · simp [Staging.appendTo,succeeds,PendingUpload.appendChunk]
      · rw [appendTo_found located,succeeds]

def noFaults : FileFaults := ⟨none,none,none,fun _ => none⟩

instance (run : Run) (label : Call × FileFaults) : Decidable (WritesSucceed run label) :=
  inferInstanceAs (Decidable (label.2.write = none))

def interleaved : List (Call × FileFaults) :=
  [.start "1" [] none false "one.part",.appendChunk [1] none,.start "2" [] none false "two.part",
    .appendChunk [98] none,.start "1" [("asset_id",.string "a")] (some "key") false "three.part",
    .appendChunk [97] (some "1")].map fun call => (call,noFaults)

def bothCompleted (run : Run) : Bool :=
  match run.staging.complete sampleLibraries "1" noFaults with
  | (.ok (.ok one),middle) => match (middle.complete sampleLibraries "2" noFaults).1 with
    | .ok (.ok two) => one.tempFilePath == "three.part" && two.tempFilePath == "two.part" &&
        two.contentSha1 == "e9d71f5ee7c92d6dc9e92ffdad17b8bd49418f98"
    | _ => false
  | _ => false

theorem completed_upload_exact_interleaved :
    ∃ run payload accepted, bothCompleted run = true ∧
      (run.staging.complete sampleLibraries "1" noFaults).1 = .ok (.ok payload) ∧
      sinceStart "1" run.history = some accepted ∧ payload.contentSha1 = sampleLibraries.sha1 accepted.chunks.flatten := by
  obtain ⟨run,path,both⟩ := checkedRun_exhibits (calls sampleLibraries) WritesSucceed Run.new interleaved bothCompleted
    (by decide +kernel)
  have answered : ∃ payload, (run.staging.complete sampleLibraries "1" noFaults).1 = .ok (.ok payload) := by
    unfold bothCompleted at both
    split at both
    · rename_i one middle done
      exact ⟨one,by rw [done]⟩
    · cases both
  obtain ⟨payload,done⟩ := answered
  obtain ⟨accepted,recorded,-,-,digest,-⟩ := (completed_upload_exact path).1 "1" noFaults payload done
  exact ⟨run,payload,accepted,both,done,recorded,digest⟩

end ImageSearch.StagedContents
