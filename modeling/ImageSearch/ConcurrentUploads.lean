import ImageSearch.TerminalSessions

namespace ImageSearch.ConcurrentUploads
open Transitions Threads Payload BackupState BackupFolder MobileStore TransferService UploadOutcomes TransferThreads
  TerminalSessions

variable {lib : Libraries} {given files files' : Files} {call call' : UploadCall} {stage stage' : UploadStage}
  {d d' : Desktop} {t t' u : Activity} {job : UploadJob} {path : RelativePath} {location : Location}

-- The location a call has picked for its asset, from the probe that found it free on.
def target? : UploadStage → Option Location
  | .picked job path | .receiving job path .. | .claiming job path _ | .moving job path .. | .copying job path ..
  | .copied job path .. => some (job.at path)
  | .stamping job asset | .recording job asset | .counting job asset | .stored job asset =>
    some (job.at asset.localRelativePath)
  | _ => none

def picks (call : UploadCall) (d : Desktop) : UploadStage → Option Location
  | .probing job attemptNumber =>
    let location := job.at (probedPath call job attemptNumber)
    if fileExists d.files location then none else some location
  | _ => none

def crosses (call : UploadCall) : Bool := call.tempFilePath.isSome && (call.faults .replace).any isCrossDevice

-- Two calls that may claim one location: the same bytes, each moved there in one step.
def interchangeable (given : Files) (call call' : UploadCall) : Bool :=
  uploadedContent call given = uploadedContent call' given && !crosses call && !crosses call'

def contends (given : Files) (d : Desktop) : Activity → Activity → Bool
  | .upload call stage,.upload call' stage' =>
    (picks call d stage).any fun location => target? stage' = some location && !interchangeable given call call'
  | _,_ => false

-- No probe settles on a location that another call has already picked for other content.
def uncontended (given : Files) : Condition Desktop Activity Unit Empty where
  beside d t _ u := contends given d t u = false

def Private (call : UploadCall) (location : Location) : Prop :=
  (∃ staged, call.tempFilePath = some staged ∧ location = .staged staged) ∨
    ∃ folder path, location = .asset folder (partPath call path)

def Unmoved (given files : Files) (call : UploadCall) : Prop :=
  ∀ staged, call.tempFilePath = some staged → readFile files (.staged staged) = readFile given (.staged staged)

def Claimable (given : Files) (job : UploadJob) (path : RelativePath) : Prop :=
  path.Visible ∧ '/' ∉ path.monthDirectory.toList ∧ readFile given (job.at path) = none

def Claimed (given files : Files) (call : UploadCall) (location : Location) : Prop :=
  ∃ content, uploadedContent call given = some content ∧ readFile files location = some content

-- What a call relies on between two of its steps, `given` being the files of the start.
def Relies (given files : Files) (call : UploadCall) : UploadStage → Prop
  | .received | .authorised _ | .unsigned _ | .skipping .. => Unmoved given files call
  | .probing .. => Unmoved given files call ∧ beginFault call = none
  | .picked job path => Unmoved given files call ∧ beginFault call = none ∧ Claimable given job path
  | .receiving job path reads index remaining written =>
      call.tempFilePath = none ∧ Claimable given job path ∧
      readFile files (job.at (partPath call path)) = some written ∧
      ∀ content, receiveBody call.faults reads index remaining written = (none,content) →
        uploadedContent call given = some content
  | .claiming job path written =>
      Claimable given job path ∧ readFile files (job.at (partPath call path)) = some written ∧
      uploadedContent call given = some written
  | .moving job path staged content _ =>
      call.tempFilePath = some staged ∧ Claimable given job path ∧ uploadedContent call given = some content ∧
      readFile files (.staged staged) = some content
  | .copying job path staged content _ =>
      call.tempFilePath = some staged ∧ Claimable given job path ∧ uploadedContent call given = some content ∧
      crosses call = true
  | .copied job path staged _ _ =>
      call.tempFilePath = some staged ∧ Claimable given job path ∧ Claimed given files call (job.at path)
  | .stamping job asset | .recording job asset | .counting job asset | .stored job asset =>
      Claimable given job asset.localRelativePath ∧ Claimed given files call (job.at asset.localRelativePath)
  | .discarding .. | .failing .. | .finished _ => True

theorem part_private {folder : String} : Private call (.asset folder (partPath call path)) := .inr ⟨folder,path,rfl⟩

theorem private_hidden {folder : String} (owned : Private call (.asset folder path)) : ¬ path.Visible := by
  rcases owned with ⟨staged,-,equal⟩ | ⟨folder',path',equal⟩
  · cases equal
  · cases equal
    exact part_hidden _ _ _

theorem target_claimable (relies : Relies given files call stage) (held : target? stage = some location) :
    ∃ job path, location = UploadJob.at job path ∧ Claimable given job path := by
  cases stage with
  | picked job path => cases held; exact ⟨job,path,rfl,relies.2.2⟩
  | receiving job path => cases held; exact ⟨job,path,rfl,relies.2.1⟩
  | claiming job path => cases held; exact ⟨job,path,rfl,relies.1⟩
  | moving job path => cases held; exact ⟨job,path,rfl,relies.2.1⟩
  | copying job path => cases held; exact ⟨job,path,rfl,relies.2.1⟩
  | copied job path => cases held; exact ⟨job,path,rfl,relies.2.1⟩
  | stamping job asset => cases held; exact ⟨job,_,rfl,relies.1⟩
  | recording job asset => cases held; exact ⟨job,_,rfl,relies.1⟩
  | counting job asset => cases held; exact ⟨job,_,rfl,relies.1⟩
  | stored job asset => cases held; exact ⟨job,_,rfl,relies.1⟩
  | _ => cases held

theorem target_unowned (relies : Relies given files call stage) (held : target? stage = some location) :
    ¬ Private call' location := by
  obtain ⟨job,path,rfl,visible,-⟩ := target_claimable relies held
  exact fun owned => private_hidden owned visible

-- A call's reliance survives a change that spares its private files and leaves its own
-- content, at most, at the location it has picked.
theorem relies_kept (relies : Relies given files call stage)
    (spared : ∀ location, Private call location → readFile files' location = readFile files location)
    (picked : ∀ location, target? stage = some location → readFile files' location = readFile files location ∨
      readFile files' location = uploadedContent call given) : Relies given files' call stage := by
  have unmoved : Unmoved given files call → Unmoved given files' call := by
    intro before staged handed
    rw [spared _ (.inl ⟨staged,handed,rfl⟩)]
    exact before staged handed
  have claimed : ∀ location, target? stage = some location → Claimed given files call location →
      Claimed given files' call location := by
    rintro location held ⟨content,delivered,there⟩
    refine ⟨content,delivered,?_⟩
    rcases picked location held with same | same
    · rw [same]; exact there
    · rw [same]; exact delivered
  cases stage with
  | received => exact unmoved relies
  | authorised => exact unmoved relies
  | unsigned => exact unmoved relies
  | skipping => exact unmoved relies
  | probing => exact ⟨unmoved relies.1,relies.2⟩
  | picked => exact ⟨unmoved relies.1,relies.2⟩
  | receiving job path =>
      obtain ⟨streamed,free,part,body⟩ := relies
      exact ⟨streamed,free,(spared _ part_private).trans part,body⟩
  | claiming job path =>
      obtain ⟨free,part,body⟩ := relies
      exact ⟨free,(spared _ part_private).trans part,body⟩
  | moving job path staged =>
      obtain ⟨handed,free,delivered,there⟩ := relies
      exact ⟨handed,free,delivered,(spared _ (.inl ⟨staged,handed,rfl⟩)).trans there⟩
  | copying => exact relies
  | copied => exact ⟨relies.1,relies.2.1,claimed _ rfl relies.2.2⟩
  | stamping => exact ⟨relies.1,claimed _ rfl relies.2⟩
  | recording => exact ⟨relies.1,claimed _ rfl relies.2⟩
  | counting => exact ⟨relies.1,claimed _ rfl relies.2⟩
  | stored => exact ⟨relies.1,claimed _ rfl relies.2⟩
  | discarding => trivial
  | failing => trivial
  | finished => trivial

def Touches (given : Files) (call : UploadCall) (stage : UploadStage) (files files' : Files) (location : Location) : Prop :=
  readFile files' location = readFile files location ∨ Private call location ∨
    (target? stage = some location ∧ (readFile files' location = uploadedContent call given ∨ crosses call = true))

structure FileStep (given : Files) (call : UploadCall) (d : Desktop) (stage : UploadStage) (d' : Desktop)
    (stage' : UploadStage) : Prop where
  relies : Relies given d'.files call stage'
  touches : ∀ location, Touches given call stage d.files d'.files location
  target : ∀ location, target? stage' = some location → target? stage = some location ∨ picks call d stage = some location

theorem still_step (same : d'.files = d.files) (relies : Relies given d.files call stage')
    (target : ∀ location, target? stage' = some location →
      target? stage = some location ∨ picks call d stage = some location) : FileStep given call d stage d' stage' :=
  ⟨by rw [same]; exact relies,fun _ => .inl (by rw [same]),target⟩

theorem unaimed_step (same : d'.files = d.files) (relies : Relies given d.files call stage') (none : target? stage' = none) :
    FileStep given call d stage d' stage' := still_step same relies fun location held => by simp [none] at held

theorem cleanup_touches : Touches given call stage files (cleanupTempUploadFile call files) location := by
  unfold cleanupTempUploadFile
  split
  · rename_i staged handed _
    by_cases own : Location.staged staged = location
    · exact .inr (.inl (.inl ⟨staged,handed,own.symm⟩))
    · exact .inl (by rw [read_unlink,if_neg own])
  · exact .inl rfl

theorem write_part_touches {folder : String} {content : Bytes} :
    Touches given call stage files (writeFile files (.asset folder (partPath call path)) content) location := by
  by_cases own : Location.asset folder (partPath call path) = location
  · exact .inr (.inl (own ▸ part_private))
  · exact .inl (by rw [read_write,if_neg own])

theorem write_target_touches {content : Bytes} (held : target? stage = some (job.at path))
    (allowed : uploadedContent call given = some content ∨ crosses call = true) :
    Touches given call stage files (writeFile files (job.at path) content) location := by
  by_cases own : job.at path = location
  · refine .inr (.inr ⟨own ▸ held,allowed.imp ?_ id⟩)
    intro delivered
    rw [read_write,if_pos own,delivered]
  · exact .inl (by rw [read_write,if_neg own])

theorem replace_touches {source : Location} {content : Bytes} (owned : Private call source)
    (present : readFile files source = some content) (delivered : uploadedContent call given = some content)
    (held : target? stage = some (job.at path)) :
    Touches given call stage files (replace files source (job.at path)) location := by
  by_cases own : job.at path = location
  · refine .inr (.inr ⟨own ▸ held,.inl ?_⟩)
    rw [read_replace present,if_pos own,delivered]
  · by_cases from_ : source = location
    · exact .inr (.inl (from_ ▸ owned))
    · exact .inl (by rw [read_replace present,if_neg own,if_neg from_])

theorem dropped_step (relies : Relies given d'.files call stage') (none : target? stage' = none)
    (touches : ∀ location, Touches given call stage d.files d'.files location) : FileStep given call d stage d' stage' :=
  ⟨relies,touches,fun location held => by simp [none] at held⟩

theorem fail_files (context : MobileTransferContext) (currentTime : DateTime) (publish : Bool) (response : Response)
    (d : Desktop) : (failTransfer context currentTime publish response d).2.files = d.files := by
  unfold failTransfer markTransferFailed
  cases resolveNextBackupState context.folderTransferState .transferFailed .transferInProgress with
  | none => rfl
  | some next => rfl

theorem receive_files {reads : List (Except OSError Bytes)} {index remaining : Nat} {written : Bytes}
    (relies : Relies given d.files call (.receiving job path reads index remaining written))
    (received : receiveChunk call d job path reads index remaining written = (d',stage')) :
    FileStep given call d (.receiving job path reads index remaining written) d' stage' := by
  obtain ⟨streamed,free,part,body⟩ := relies
  cases remaining with
  | zero =>
      simp only [receiveChunk] at received
      split at received
      · cases received
        exact dropped_step trivial rfl fun _ => .inl rfl
      · cases received
        exact still_step rfl ⟨free,part,body written (by simp [receiveBody])⟩ fun _ held => .inl held
  | succ remaining =>
      cases reads with
      | nil =>
          cases received
          exact dropped_step trivial rfl fun _ => .inl rfl
      | cons read rest =>
          cases read with
          | error error =>
              cases received
              exact dropped_step trivial rfl fun _ => .inl rfl
          | ok bytes =>
              simp only [receiveChunk] at received
              split at received
              · cases received
                exact dropped_step trivial rfl fun _ => .inl rfl
              · rename_i some_
                split at received
                · cases received
                  exact dropped_step trivial rfl fun _ => .inl rfl
                · rename_i wrote
                  cases received
                  refine ⟨⟨streamed,free,by rw [read_write,if_pos rfl],?_⟩,fun _ => write_part_touches,
                    fun _ held => .inl held⟩
                  intro content rest
                  apply body content
                  simpa only [receiveBody,if_neg some_,wrote] using rest

theorem open_files (relies : Relies given d.files call (.picked job path))
    (opened : openUpload lib call d job path = (d',stage')) : FileStep given call d (.picked job path) d' stage' := by
  obtain ⟨unmoved,begun,free⟩ := relies
  unfold openUpload at opened
  split at opened
  · rename_i staged handed
    split at opened
    · cases opened
      exact dropped_step trivial rfl fun _ => .inl rfl
    · rename_i content present
      split at opened
      · cases opened
        exact dropped_step trivial rfl fun _ => .inl rfl
      · cases opened
        have delivered : uploadedContent call given = some content := by
          simp only [uploadedContent,handed]
          rw [← unmoved staged handed,present]
        exact still_step rfl ⟨handed,free,delivered,present⟩ fun _ held => .inl held
  · rename_i streamed
    split at opened
    · cases opened
      exact dropped_step trivial rfl fun _ => .inl rfl
    · cases opened
      refine ⟨⟨streamed,free,by rw [read_write,if_pos rfl],?_⟩,fun _ => write_part_touches,fun _ held => .inl held⟩
      intro content whole
      cases body : call.bodyStream with
      | none => simp [beginFault,streamed,body] at begun
      | some reads =>
          rw [body,Option.getD_some] at whole
          simp [uploadedContent,streamed,body,whole]

theorem attempt_visible (attemptNumber : Nat) : (probedPath call job attemptNumber).Visible := by
  have named := sanitize_head job.metadata.filename
  unfold probedPath attemptName RelativePath.Visible
  split
  · simpa using named
  · exact candidate_head named attemptNumber

def Kept (given files : Files) : Prop :=
  ∀ folder path content, readFile given (.asset folder path) = some content →
    readFile files (.asset folder path) = some content

theorem upload_files (kept : Kept given d.files) (relies : Relies given d.files call stage)
    (moved : stepUpload lib call d stage = some (d',stage')) : FileStep given call d stage d' stage' := by
  cases stage with
  | received =>
      simp only [stepUpload] at moved
      split at moved
      · rename_i cleans result refused
        cases moved
        refine dropped_step trivial rfl ?_
        intro location
        cases cleans with
        | false => exact .inl rfl
        | true => exact cleanup_touches
      · cases moved
        exact unaimed_step rfl relies rfl
  | authorised job =>
      simp only [stepUpload] at moved
      split at moved
      · cases moved; exact unaimed_step rfl trivial rfl
      · cases moved; exact unaimed_step rfl relies rfl
      · cases moved; exact unaimed_step rfl relies rfl
  | unsigned job =>
      simp only [stepUpload] at moved
      split at moved
      · cases moved; exact unaimed_step rfl relies rfl
      · split at moved
        · cases moved; exact unaimed_step rfl trivial rfl
        · rename_i begun
          cases moved; exact unaimed_step rfl ⟨relies,begun⟩ rfl
  | skipping job message row =>
      cases moved
      exact dropped_step trivial rfl fun _ => cleanup_touches
  | probing job attemptNumber =>
      simp only [stepUpload] at moved
      split at moved
      · cases moved
        exact unaimed_step rfl relies rfl
      · rename_i free
        cases moved
        have unwritten : readFile given (job.at (probedPath call job attemptNumber)) = none := by
          cases before : readFile given (job.at (probedPath call job attemptNumber)) with
          | none => rfl
          | some content => simp [fileExists,UploadJob.at,kept _ _ _ before] at free
        refine still_step rfl ⟨relies.1,relies.2,attempt_visible _,strftime_slashless _,unwritten⟩ ?_
        intro location held
        exact .inr (by simpa [picks,target?,free] using held)
  | picked job path =>
      exact open_files relies (Option.some.inj moved)
  | receiving job path reads index remaining written =>
      exact receive_files relies (Option.some.inj moved)
  | claiming job path written =>
      obtain ⟨free,part,delivered⟩ := relies
      simp only [stepUpload] at moved
      split at moved
      · cases moved; exact unaimed_step rfl trivial rfl
      · cases moved
        refine ⟨⟨free,written,delivered,?_⟩,fun _ => replace_touches part_private part delivered rfl,
          fun _ held => .inl held⟩
        rw [read_replace part,if_pos rfl]
  | discarding job path error =>
      cases moved
      refine dropped_step trivial rfl ?_
      intro location
      unfold discardPart
      split
      · exact .inl rfl
      · by_cases own : job.at (partPath call path) = location
        · exact .inr (.inl (own ▸ part_private))
        · exact .inl (by rw [read_unlink,if_neg own])
  | moving job path staged content contentSha1 =>
      obtain ⟨handed,free,delivered,present⟩ := relies
      simp only [stepUpload] at moved
      split at moved
      · cases moved
        refine ⟨⟨free,content,delivered,?_⟩,
          fun _ => replace_touches (.inl ⟨staged,handed,rfl⟩) present delivered rfl,fun _ held => .inl held⟩
        rw [read_replace present,if_pos rfl]
      · rename_i error refused
        split at moved
        · rename_i device
          cases moved
          have crossed : crosses call = true := by simp [crosses,handed,refused,device]
          exact ⟨⟨handed,free,delivered,crossed⟩,fun _ => write_target_touches rfl (.inr crossed),fun _ held => .inl held⟩
        · cases moved; exact unaimed_step rfl trivial rfl
  | copying job path staged content contentSha1 =>
      obtain ⟨handed,free,delivered,crossed⟩ := relies
      simp only [stepUpload] at moved
      split at moved
      · cases moved
        exact dropped_step trivial rfl fun _ => write_target_touches rfl (.inr crossed)
      · cases moved
        refine ⟨⟨handed,free,content,delivered,by rw [read_write,if_pos rfl]⟩,
          fun _ => write_target_touches rfl (.inr crossed),fun _ held => .inl held⟩
  | copied job path staged content contentSha1 =>
      obtain ⟨handed,free,content',delivered,there⟩ := relies
      simp only [stepUpload] at moved
      split at moved
      · cases moved; exact unaimed_step rfl trivial rfl
      · cases moved
        refine ⟨⟨free,content',delivered,?_⟩,?_,fun _ held => .inl held⟩
        · rw [read_unlink,if_neg (by simp [UploadJob.at])]
          exact there
        · intro location
          by_cases own : Location.staged staged = location
          · exact .inr (.inl (.inl ⟨staged,handed,own.symm⟩))
          · exact .inl (by rw [read_unlink,if_neg own])
  | stamping job asset =>
      simp only [stepUpload] at moved
      split at moved
      · cases moved; exact unaimed_step rfl trivial rfl
      · cases moved; exact still_step rfl relies fun _ held => .inl held
  | failing job error =>
      cases moved
      refine dropped_step trivial rfl ?_
      intro location
      rw [fail_files]
      exact cleanup_touches
  | recording job asset =>
      cases moved
      exact still_step rfl relies fun _ held => .inl held
  | counting job asset =>
      cases moved
      exact still_step rfl relies fun _ held => .inl held
  | stored job asset => cases moved
  | finished result => cases moved

theorem checked_files {Pending : Type} {check : Store → Except (Except Raised Response) Pending}
    {write : Pending → Desktop → Except Raised Response × Desktop} {held held' : Checked Pending}
    (moved : stepChecked check write d held = some (d',held')) (still : ∀ pending, (write pending d).2.files = d.files) :
    d'.files = d.files := by
  rcases stepChecked_parts moved with ⟨-,same,-⟩ | ⟨pending,result,-,written,-⟩
  · rw [same]
  · have kept := still pending
    rw [written] at kept
    exact kept

theorem start_files (request : MobileTransferSessionRequest) (context : MobileTransferContext) (currentTime : DateTime)
    (d : Desktop) : (acceptStart request context currentTime d).2.files = d.files := by
  unfold acceptStart
  repeat' split
  all_goals rfl

theorem complete_files (payload : Fields) (request : MobileTransferSessionRequest) (context : MobileTransferContext)
    (currentTime : DateTime) (d : Desktop) : (finishTransfer payload request context currentTime d).2.files = d.files := by
  unfold finishTransfer
  repeat' (first | split | dsimp only)

theorem other_files (moved : stepActivity lib d t () = some (d',t')) (idle : ∀ call stage, t ≠ .upload call stage) :
    d'.files = d.files ∧ ∀ call stage, t' ≠ .upload call stage := by
  cases t with
  | upload call stage => exact absurd rfl (idle call stage)
  | start payload currentTime stage =>
      obtain ⟨⟨after,stage'⟩,step,equal⟩ := Option.map_eq_some_iff.mp moved
      cases equal
      exact ⟨checked_files step fun pending => start_files pending.1 pending.2 currentTime d,by simp⟩
  | existence payload stage =>
      obtain ⟨⟨after,stage'⟩,step,equal⟩ := Option.map_eq_some_iff.mp moved
      cases equal
      exact ⟨checked_files step fun _ => rfl,by simp⟩
  | complete payload currentTime stage =>
      obtain ⟨⟨after,stage'⟩,step,equal⟩ := Option.map_eq_some_iff.mp moved
      cases equal
      exact ⟨checked_files step fun pending => complete_files payload pending.1 pending.2 currentTime d,by simp⟩
  | streamError metadataPayload error currentTime stage =>
      obtain ⟨⟨after,stage'⟩,step,equal⟩ := Option.map_eq_some_iff.mp moved
      cases equal
      exact ⟨checked_files step fun pending => fail_files pending currentTime true (streamErrorResponse error) d,
        by simp⟩

-- What is promised of a call's private names: uuid4 and the temporary directory hand out
-- new ones of fixed length.
def Issued (given : Files) (call : UploadCall) : Prop :=
  call.partToken.length = 32 ∧ ∀ folder path, readFile given (.asset folder (partPath call path)) = none

def NamedApart (call call' : UploadCall) : Prop :=
  call.partToken ≠ call'.partToken ∧ ∀ staged, call.tempFilePath = some staged → call'.tempFilePath ≠ some staged

theorem partName_token {a b one two : String} (lengths : one.length = two.length)
    (equal : partName a one = partName b two) : one = two := by
  have chars := congrArg String.toList equal
  simp only [partName,String.toList_append] at chars
  have trimmed := List.append_cancel_right chars
  have same := (List.append_inj' trimmed (by simpa only [String.length_toList] using lengths)).2
  exact String.toList_inj.mp same

theorem private_apart (issued : Issued given call) (issued' : Issued given call') (apart : NamedApart call call')
    (owned : Private call location) : ¬ Private call' location := by
  rintro (⟨staged',handed',equal'⟩ | ⟨folder',path',equal'⟩)
  · rcases owned with ⟨staged,handed,equal⟩ | ⟨folder,path,equal⟩
    · have same := Location.staged.inj (equal.symm.trans equal')
      exact apart.2 staged handed (same ▸ handed')
    · cases equal.symm.trans equal'
  · rcases owned with ⟨staged,handed,equal⟩ | ⟨folder,path,equal⟩
    · cases equal.symm.trans equal'
    · have paths := (Location.asset.inj (equal.symm.trans equal')).2
      have names : partName path.name call.partToken = partName path'.name call'.partToken :=
        (RelativePath.mk.inj paths).2
      exact apart.1 (partName_token (issued.1.trans issued'.1.symm) names)

structure Apart (given : Files) (call : UploadCall) (stage : UploadStage) (call' : UploadCall) (stage' : UploadStage) :
    Prop where
  named : NamedApart call call'
  target : ∀ location, target? stage = some location → target? stage' = some location →
    interchangeable given call call' = true

def uploadAssertions (given : Files) : Assertions Desktop Activity where
  world d := Kept given d.files
  thread d t := ∀ call stage, t = .upload call stage → Issued given call ∧ Relies given d.files call stage
  pair t u := ∀ call stage call' stage', t = .upload call stage → u = .upload call' stage' →
    Apart given call stage call' stage'

theorem interchangeable_parts (same : interchangeable given call call' = true) :
    uploadedContent call given = uploadedContent call' given ∧ crosses call = false ∧ crosses call' = false := by
  simpa [interchangeable,and_assoc] using same

theorem interchangeable_symm (same : interchangeable given call call' = true) :
    interchangeable given call' call = true := by
  obtain ⟨content,one,two⟩ := interchangeable_parts same
  simp [interchangeable,content,one,two]

theorem kept_step (kept : Kept given d.files) (issued : Issued given call) (relies : Relies given d.files call stage)
    (step : FileStep given call d stage d' stage') : Kept given d'.files := by
  intro folder path content before
  rcases step.touches (.asset folder path) with same | owned | ⟨held,-⟩
  · rw [same]; exact kept folder path content before
  · rcases owned with ⟨staged,-,equal⟩ | ⟨folder',path',equal⟩
    · cases equal
    · rw [equal,issued.2 folder' path'] at before
      cases before
  · obtain ⟨job,path',equal,-,-,free⟩ := target_claimable relies held
    rw [equal,free] at before
    cases before

theorem relies_beside (issued : Issued given call) (issued' : Issued given call')
    (relies : Relies given d.files call stage) (relies' : Relies given d.files call' stage')
    (apart : Apart given call stage call' stage') {after : UploadStage} (step : FileStep given call d stage d' after) :
    Relies given d'.files call' stage' := by
  apply relies_kept relies'
  · intro location owned
    rcases step.touches location with same | mine | ⟨held,-⟩
    · exact same
    · exact absurd owned (private_apart issued issued' apart.named mine)
    · exact absurd owned (target_unowned relies held)
  · intro location held'
    rcases step.touches location with same | mine | ⟨held,written | crossed⟩
    · exact .inl same
    · exact absurd mine (target_unowned relies' held')
    · exact .inr (written.trans (interchangeable_parts (apart.target location held held')).1)
    · have uncrossed := (interchangeable_parts (apart.target location held held')).2.1
      exact absurd crossed (by simp [uncrossed])

theorem apart_step (apart : Apart given call stage call' stage')
    (allowed : contends given d (.upload call stage) (.upload call' stage') = false) {after : UploadStage}
    (step : FileStep given call d stage d' after) : Apart given call after call' stage' := by
  refine ⟨apart.named,?_⟩
  intro location held held'
  rcases step.target location held with before | picked
  · exact apart.target location before held'
  · simpa [contends,picked,held'] using allowed

theorem apart_symm (apart : Apart given call stage call' stage') : Apart given call' stage' call stage := by
  refine ⟨⟨apart.named.1.symm,?_⟩,?_⟩
  · intro staged handed' handed
    exact apart.named.2 staged handed handed'
  · intro location held' held
    exact interchangeable_symm (apart.target location held held')

theorem upload_parts (moved : stepActivity lib d (.upload call stage) () = some (d',t')) :
    ∃ after, t' = .upload call after ∧ stepUpload lib call d stage = some (d',after) := by
  obtain ⟨⟨world,after⟩,step,equal⟩ := Option.map_eq_some_iff.mp moved
  cases equal
  exact ⟨after,rfl,step⟩

theorem upload_stable (environment : Desktop → Empty → Option Desktop) :
    Stable (uploadAssertions given) (stepActivity lib) environment (uncontended given) where
  own := by
    intro d t input d' t' kept thread allowed moved
    by_cases idle : ∀ call stage, t ≠ .upload call stage
    · obtain ⟨same,idle'⟩ := other_files moved idle
      refine ⟨by simpa [uploadAssertions,same] using kept,?_⟩
      intro call stage equal
      exact absurd equal (idle' call stage)
    · push Not at idle
      obtain ⟨call,stage,rfl⟩ := idle
      obtain ⟨issued,relies⟩ := thread call stage rfl
      obtain ⟨after,rfl,stepped⟩ := upload_parts moved
      have step := upload_files kept relies stepped
      refine ⟨kept_step kept issued relies step,?_⟩
      intro call' stage' equal
      cases equal
      exact ⟨issued,step.relies⟩
  other := by
    intro d t u input d' t' kept thread thread' pair pair' allowed beside moved
    by_cases idle : ∀ call stage, t ≠ .upload call stage
    · obtain ⟨same,idle'⟩ := other_files moved idle
      refine ⟨?_,?_,?_⟩
      · intro call stage equal
        rw [same]; exact thread' call stage equal
      · intro call stage call' stage' equal
        exact absurd equal (idle' call stage)
      · intro call stage call' stage' _ equal
        exact absurd equal (idle' call' stage')
    · push Not at idle
      obtain ⟨call,stage,rfl⟩ := idle
      obtain ⟨issued,relies⟩ := thread call stage rfl
      obtain ⟨after,rfl,stepped⟩ := upload_parts moved
      have step := upload_files kept relies stepped
      have apart : ∀ call' stage', u = .upload call' stage' → Apart given call after call' stage' := by
        intro call' stage' equal
        subst equal
        exact apart_step (pair call stage call' stage' rfl rfl) beside step
      refine ⟨?_,?_,?_⟩
      · intro call' stage' equal
        obtain ⟨issued',relies'⟩ := thread' call' stage' equal
        exact ⟨issued',relies_beside issued issued' relies relies' (pair call stage call' stage' rfl equal) step⟩
      · intro one first two second equal equal'
        cases equal
        exact apart two second equal'
      · intro one first two second equal equal'
        cases equal'
        exact apart_symm (apart one first equal)
  eventWorld := fun {_ event} => nomatch event
  eventThread := fun {_ event} => nomatch event

variable {Index : Type} {start s : Pool Index Desktop Activity}

structure Handed (start : Pool Index Desktop Activity) : Prop where
  arriving : ∀ i, arriving (start.threads i) = true
  issued : ∀ i call stage, start.threads i = .upload call stage → Issued start.world.files call
  apart : ∀ i j, i ≠ j → ∀ call stage call' stage', start.threads i = .upload call stage →
    start.threads j = .upload call' stage' → NamedApart call call'

theorem handed_holds (handed : Handed start) : (uploadAssertions start.world.files).Hold start := by
  have received : ∀ i call stage, start.threads i = .upload call stage → stage = .received := by
    intro i call stage here
    have arrives := handed.arriving i
    rw [here] at arrives
    cases stage <;> first | rfl | cases arrives
  refine ⟨fun _ _ _ => id,?_,?_⟩
  · intro i call stage here
    cases received i call stage here
    exact ⟨handed.issued i call _ here,fun _ _ => rfl⟩
  · intro i j different call stage call' stage' here there
    cases received i call stage here
    exact ⟨handed.apart i j different call _ call' stage' here there,nofun⟩

structure StoredPhoto where
  folderPath : String
  path : RelativePath
  content : Option Bytes
  deriving DecidableEq

def storedPhoto (given : Files) : Activity → Option StoredPhoto
  | .upload call (.stored job asset) =>
    some ⟨job.context.folderPath,asset.localRelativePath,uploadedContent call given⟩
  | _ => none

theorem stored_parts {photo : StoredPhoto} (stored : storedPhoto given t = some photo) :
    ∃ call job asset, t = .upload call (.stored job asset) ∧
      photo = ⟨job.context.folderPath,asset.localRelativePath,uploadedContent call given⟩ := by
  cases t with
  | upload call stage =>
      cases stage with
      | stored job asset => cases stored; exact ⟨call,job,asset,rfl,rfl⟩
      | _ => cases stored
  | _ => cases stored

-- Different stored content has different places, each place holds its own, and what was
-- there before is still there.
structure Undisturbed (given : Files) (s : Pool Index Desktop Activity) : Prop where
  apart : ∀ i j, i ≠ j → ∀ photo photo', storedPhoto given (s.threads i) = some photo →
    storedPhoto given (s.threads j) = some photo' → photo.content ≠ photo'.content →
    photo.folderPath = photo'.folderPath → photo.path.asPosix ≠ photo'.path.asPosix
  held : ∀ i photo, storedPhoto given (s.threads i) = some photo →
    ∃ content, photo.content = some content ∧
      readFile s.world.files (.asset photo.folderPath photo.path) = some content
  kept : Kept given s.world.files

variable [DecidableEq Index]

theorem stored_undisturbed (lib : Libraries) (start s : Pool Index Desktop Activity) (handed : Handed start)
    (path : Reaches (transferPool Index lib) (uncontended start.world.files).Admits start s) :
    Undisturbed start.world.files s := by
  have holds := hold_reaches (upload_stable _) (handed_holds handed) path
  refine ⟨?_,?_,holds.world⟩
  · intro i j different photo photo' stored stored' content folder equal
    obtain ⟨call,job,asset,here,rfl⟩ := stored_parts stored
    obtain ⟨call',job',asset',there,rfl⟩ := stored_parts stored'
    dsimp only at content folder equal
    obtain ⟨⟨-,slashless,-⟩,-⟩ := (holds.thread i call _ here).2
    obtain ⟨⟨-,slashless',-⟩,-⟩ := (holds.thread j call' _ there).2
    have same := asPosix_injective slashless slashless' equal
    have shared := (holds.pair i j different call _ call' _ here there).target (job.at asset.localRelativePath) rfl
      (by simp only [target?,UploadJob.at]; rw [folder,same])
    exact content (interchangeable_parts shared).1
  · intro i photo stored
    obtain ⟨call,job,asset,here,rfl⟩ := stored_parts stored
    exact (holds.thread i call _ here).2.2

def photo (i : Fin 2) : UploadCall :=
  if i = 0 then {sampleCall "asset-1" "/tmp/1" "86f7e437faa5a7fce15d1ddcb9eaeaea377667b8" with
    partToken:="11111111111111111111111111111111"}
  else {sampleCall "asset-2" "/tmp/2" "e9d71f5ee7c92d6dc9e92ffdad17b8bd49418f98" with
    partToken:="22222222222222222222222222222222"}

def twoPhotos : Pool (Fin 2) Desktop Activity where
  world := {sampleDesktop with files:=writeFile (writeFile .empty (.staged "/tmp/1") [97]) (.staged "/tmp/2") [98]}
  threads i := .upload (photo i) .received

theorem twoPhotos_handed : Handed twoPhotos := by
  refine ⟨fun _ => rfl,?_,?_⟩
  · intro i call stage here
    cases here
    refine ⟨by revert i; decide,?_⟩
    intro folder path
    simp only [twoPhotos,read_write]
    rfl
  · intro i j different call stage call' stage' here there
    cases here
    cases there
    refine ⟨by revert i j; decide,?_⟩
    intro staged handed handed'
    have paths : ∀ i j : Fin 2, i ≠ j → (photo i).tempFilePath ≠ (photo j).tempFilePath := by decide
    exact paths i j different (handed.trans handed'.symm)

def bothStored (name name' : String) (s : Pool (Fin 2) Desktop Activity) : Bool :=
  storedPhoto twoPhotos.world.files (s.threads 0) = some ⟨"/backup/Phone",⟨"2024-01",name⟩,some [97]⟩ &&
    storedPhoto twoPhotos.world.files (s.threads 1) = some ⟨"/backup/Phone",⟨"2024-01",name'⟩,some [98]⟩

-- Both calls probe the name before either has moved its file there.
theorem raced_name_overwritten : ¬ ∀ (lib : Libraries) (start s : Pool (Fin 2) Desktop Activity), Handed start →
    Reachable (transferPool (Fin 2) lib) start s → Undisturbed start.world.files s := by
  intro all
  obtain ⟨s,path,seen⟩ := checkedRun_exhibits (transferPool (Fin 2) sampleLibraries) (fun _ _ => True) twoPhotos
    (List.replicate 4 (.thread 0 ()) ++ List.replicate 9 (.thread 1 ()) ++ List.replicate 5 (.thread 0 ()))
    (bothStored "IMG_0001.JPG" "IMG_0001.JPG") (by decide +kernel)
  obtain ⟨first,second⟩ := Bool.and_eq_true_iff.mp seen
  have disturbed := all sampleLibraries twoPhotos s twoPhotos_handed path
  exact disturbed.apart 0 1 (by decide) _ _ (of_decide_eq_true first) (of_decide_eq_true second) (by decide) rfl rfl

instance (given : Files) (d : Desktop) (t : Activity) (x : Unit) : Decidable ((uncontended given).own d t x) :=
  inferInstanceAs (Decidable True)
instance (given : Files) (d : Desktop) (t : Activity) (x : Unit) (u : Activity) :
    Decidable ((uncontended given).beside d t x u) := inferInstanceAs (Decidable (contends given d t u = false))
instance (given : Files) (d : Desktop) (e : Empty) (u : Activity) : Decidable ((uncontended given).event d e u) :=
  inferInstanceAs (Decidable True)

-- One call after the other: the second probe finds the name taken.
theorem later_photo_renamed : ∃ s, Reaches (transferPool (Fin 2) sampleLibraries)
      (uncontended twoPhotos.world.files).Admits twoPhotos s ∧
    bothStored "IMG_0001.JPG" "IMG_0001-2.JPG" s = true ∧ Undisturbed twoPhotos.world.files s := by
  obtain ⟨s,path,seen⟩ := checkedRun_exhibits (transferPool (Fin 2) sampleLibraries)
    (uncontended twoPhotos.world.files).Admits twoPhotos
    (List.replicate 9 (.thread 0 ()) ++ List.replicate 10 (.thread 1 ())) (bothStored "IMG_0001.JPG" "IMG_0001-2.JPG")
    (by decide +kernel)
  exact ⟨s,path,seen,stored_undisturbed sampleLibraries twoPhotos s twoPhotos_handed path⟩

end ImageSearch.ConcurrentUploads
