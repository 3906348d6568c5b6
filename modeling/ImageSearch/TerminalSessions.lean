import ImageSearch.TransferThreads

namespace ImageSearch.TerminalSessions
open Transitions Threads Payload Tables BackupState BackupFolder MobileStore TransferService UploadOutcomes TransferThreads

variable {lib : Libraries} {d d' : Desktop} {t t' : Activity} {k : String} {store store' : Store}

-- A statement of a request of session k: it writes no other session's row, and it ends
-- the session only where `ends` says so.
structure WritesSession (k : String) (ends : Bool) (store store' : Store) : Prop where
  others : ∀ j, j ≠ k → store'.sessions.find? j = store.sessions.find? j
  status : ends = false → ∀ row', store'.sessions.find? k = some row' →
    ∃ row, store.sessions.find? k = some row ∧ (row'.status.Terminal → row.status.Terminal)

theorem writes_of_find {ends : Bool} {f : BackupSessionRow → BackupSessionRow}
    (found : ∀ j, store'.sessions.find? j = (store.sessions.find? j).map f)
    (others : ∀ row, row.sessionId ≠ k → f row = row)
    (status : ends = false → ∀ row, (f row).status.Terminal → row.status.Terminal) :
    WritesSession k ends store store' := by
  refine ⟨?_,?_⟩
  · intro j other
    rw [found]
    cases there : store.sessions.find? j with
    | none => rfl
    | some row =>
        have differs : row.sessionId ≠ k := (find_mem there).2 ▸ other
        rw [Option.map_some,others row differs]
  · intro still row' there
    rw [found] at there
    obtain ⟨row,before,becomes⟩ := Option.map_eq_some_iff.mp there
    exact ⟨row,before,becomes ▸ status still row⟩

theorem unwritten {ends : Bool} (same : store'.sessions = store.sessions) : WritesSession k ends store store' :=
  writes_of_find (f := id) (by simp [same]) (fun _ _ => rfl) fun _ _ => id

theorem update_writes {deviceUuid : String} {status : SessionStatus} {state : FolderTransferState}
    {updatedAt : DateTime} {endedAt : Option DateTime} {total transferred failed : Option Int} {ends : Bool}
    (still : ends = false → ¬ status.Terminal) :
    WritesSession k ends store
      (updateMobileTransferState store k deviceUuid status state updatedAt endedAt total transferred failed) := by
  refine writes_of_find update_find ?_ ?_
  · intro row other
    simp [other]
  · intro unended row
    split
    · intro ended; exact absurd ended (still unended)
    · exact id

theorem count_writes {metadata : MobileTransferAssetMetadata} {ends : Bool} :
    WritesSession metadata.sessionId ends store (countTransferred store metadata) := by
  refine writes_of_find increment_find ?_ ?_
  · intro row other
    simp [other]
  · intro _ row
    split <;> exact id

def writesCompletion (payload : Fields) (request : MobileTransferSessionRequest) : Bool :=
  (optionalNonEmptyString payload "interruption_reason").isOk &&
    bindsAsInteger (request.transferredCount.getD 0) && bindsAsInteger (request.failedCount.getD 0)

def pending : Activity → Option String
  | .upload _ stage => stage.job?.map fun job => job.context.sessionId
  | .start _ _ (.passed (request,_)) =>
    if bindsAsInteger (request.totalAssets.getD 0) then some request.sessionId else none
  | .complete payload _ (.passed (request,_)) =>
    if writesCompletion payload request then some request.sessionId else none
  | .streamError _ _ _ (.passed context) => some context.sessionId
  | _ => none

def ending : Activity → Option String
  | .upload _ (.failing job _) => some job.context.sessionId
  | .complete payload _ (.passed (request,_)) =>
    if writesCompletion payload request then some request.sessionId else none
  | .streamError _ _ _ (.passed context) => some context.sessionId
  | _ => none

def arriving : Activity → Bool
  | .upload _ .received | .start _ _ .received | .existence _ .received | .complete _ _ .received
  | .streamError _ _ _ .received => true
  | _ => false

def sessionOf (lib : Libraries) : Activity → Option String
  | .upload call _ => (parseTransferAssetMetadata lib call.metadataPayload).toOption.map fun metadata => metadata.sessionId
  | .start payload _ _ => (parseTransferSessionRequest payload true false).toOption.map fun request => request.sessionId
  | .existence payload _ =>
    (parseTransferAssetExistenceRequest lib payload).toOption.map fun request => request.session.sessionId
  | .complete payload _ _ => (parseTransferSessionRequest payload false true).toOption.map fun request => request.sessionId
  | .streamError metadataPayload _ _ _ =>
    (metadataPayload.bind fun payload => (parseTransferAssetMetadata lib payload).toOption).map fun metadata =>
      metadata.sessionId

def Parsed (lib : Libraries) : Activity → Prop
  | .upload call stage => ∀ job, stage.job? = some job →
      parseTransferAssetMetadata lib call.metadataPayload = .ok job.metadata ∧
      job.context.sessionId = job.metadata.sessionId
  | .start payload _ (.passed (request,_)) => parseTransferSessionRequest payload true false = .ok request
  | .complete payload _ (.passed (request,_)) => parseTransferSessionRequest payload false true = .ok request
  | .streamError metadataPayload error currentTime (.passed context) =>
      sessionOf lib (.streamError metadataPayload error currentTime .received) = some context.sessionId
  | _ => True

theorem pending_session (parsed : Parsed lib t) (waiting : pending t = some k) : sessionOf lib t = some k := by
  cases t with
  | upload call stage =>
      obtain ⟨job,here,rfl⟩ := Option.map_eq_some_iff.mp waiting
      obtain ⟨read,same⟩ := parsed job here
      simp [sessionOf,read,same,Except.toOption]
  | start payload currentTime stage =>
      cases stage with
      | passed held =>
          rw [← (Option.ite_none_right_eq_some.mp waiting).2]
          have read : parseTransferSessionRequest payload true false = .ok held.1 := parsed
          simp [sessionOf,read,Except.toOption]
      | received => cases waiting
      | finished => cases waiting
  | existence payload stage => cases waiting
  | complete payload currentTime stage =>
      cases stage with
      | passed held =>
          rw [← (Option.ite_none_right_eq_some.mp waiting).2]
          have read : parseTransferSessionRequest payload false true = .ok held.1 := parsed
          simp [sessionOf,read,Except.toOption]
      | received => cases waiting
      | finished => cases waiting
  | streamError metadataPayload error currentTime stage =>
      cases stage with
      | passed context => cases waiting; exact parsed
      | received => cases waiting
      | finished => cases waiting

theorem context_session {sessionId deviceUuid : String} {context : MobileTransferContext}
    (found : getMobileTransferContext store sessionId deviceUuid = some context) :
    context.sessionId = sessionId ∧
      ∀ row, store.sessions.find? sessionId = some row → row.status = context.sessionStatus := by
  obtain ⟨session,device,folder,located,-,-,-,rfl⟩ := context_parts found
  exact ⟨rfl,fun row there => by cases located.symm.trans there; rfl⟩

def OpenIn (store : Store) (k : String) : Prop :=
  ∀ row, store.sessions.find? k = some row → ¬ row.status.Terminal

theorem found_open {sessionId deviceUuid : String} {context : MobileTransferContext} {statuses : List SessionStatus}
    (found : getMobileTransferContext store sessionId deviceUuid = some context)
    (checked : context.sessionStatus ∈ statuses) (live : ∀ status ∈ statuses, ¬ status.Terminal) :
    OpenIn store sessionId := by
  intro row there
  rw [(context_session found).2 row there]
  exact live _ checked

theorem fail_store (context : MobileTransferContext) (currentTime : DateTime) (publish : Bool) (response : Response)
    (d : Desktop) : (failTransfer context currentTime publish response d).2.store = d.store ∨
      ∃ state, (failTransfer context currentTime publish response d).2.store = updateMobileTransferState d.store
        context.sessionId context.deviceUuid .failed state currentTime (some currentTime) none none none := by
  unfold failTransfer markTransferFailed
  cases resolveNextBackupState context.folderTransferState .transferFailed .transferInProgress with
  | none => exact .inl rfl
  | some next => exact .inr ⟨_,rfl⟩

theorem open_job {call : UploadCall} {job : UploadJob} {path : RelativePath} {stage' : UploadStage}
    (opened : openUpload lib call d job path = (d',stage')) :
    d'.store = d.store ∧ ∀ other, stage'.job? = some other → other = job := by
  unfold openUpload at opened
  repeat' split at opened
  all_goals
    cases opened
    exact ⟨rfl,fun _ here => (Option.some.inj here).symm⟩

theorem receive_job {call : UploadCall} {job : UploadJob} {path : RelativePath} {reads : List (Except OSError Bytes)}
    {index remaining : Nat} {written : Bytes} {stage' : UploadStage}
    (received : receiveChunk call d job path reads index remaining written = (d',stage')) :
    d'.store = d.store ∧ ∀ other, stage'.job? = some other → other = job := by
  unfold receiveChunk at received
  repeat' (first | split at received | dsimp only at received)
  all_goals
    cases received
    exact ⟨rfl,fun _ here => (Option.some.inj here).symm⟩

structure StageStep (lib : Libraries) (call : UploadCall) (d : Desktop) (stage : UploadStage) (d' : Desktop)
    (stage' : UploadStage) : Prop where
  store : d'.store = d.store ∨ ∃ job, stage.job? = some job ∧
    (d'.store = countTransferred d.store job.metadata ∨
      (∃ stored, stage = .recording job stored ∧
        d'.store = upsertMobileAssetRecord d.store (storedRow job.metadata call.currentTime stored)) ∨
      ∃ error state, stage = .failing job error ∧ d'.store = updateMobileTransferState d.store job.context.sessionId
        job.context.deviceUuid .failed state call.currentTime (some call.currentTime) none none none)
  running : ∀ job, stage'.job? = some job →
    (stage.job? = some job ∧ ∀ error, stage ≠ .failing job error) ∨
      (d'.store = d.store ∧ checkUpload lib call d.store = .passed job.metadata job.context)

theorem quiet_step {call : UploadCall} {stage stage' : UploadStage} {job : UploadJob} (same : d'.store = d.store)
    (here : stage.job? = some job) (alive : ∀ error, stage ≠ .failing job error)
    (there : ∀ other, stage'.job? = some other → other = job) : StageStep lib call d stage d' stage' :=
  ⟨.inl same,fun other moved => .inl (there other moved ▸ ⟨here,alive⟩)⟩

theorem stage_step {call : UploadCall} {stage stage' : UploadStage}
    (moved : stepUpload lib call d stage = some (d',stage')) : StageStep lib call d stage d' stage' := by
  have last : ∀ {after : UploadStage} {job : UploadJob}, after.job? = some job →
      ∀ other, after.job? = some other → other = job := fun one other two => Option.some.inj (two.symm.trans one)
  have none_ : ∀ {after : UploadStage} {job : UploadJob}, after.job? = none →
      ∀ other, after.job? = some other → other = job := fun one other two => by simp [one] at two
  cases stage with
  | received =>
      simp only [stepUpload] at moved
      split at moved
      · cases moved
        refine ⟨.inl ?_,fun job here => by simp [UploadStage.job?] at here⟩
        split <;> rfl
      · rename_i metadata context passed
        cases moved
        exact ⟨.inl rfl,fun job here => .inr ⟨rfl,by cases here; exact passed⟩⟩
  | authorised job =>
      simp only [stepUpload] at moved
      split at moved <;> cases moved
      · exact quiet_step rfl rfl (by simp) (none_ rfl)
      · exact quiet_step rfl rfl (by simp) (last rfl)
      · exact quiet_step rfl rfl (by simp) (last rfl)
  | unsigned job =>
      simp only [stepUpload] at moved
      split at moved
      · cases moved; exact quiet_step rfl rfl (by simp) (last rfl)
      · split at moved <;> cases moved <;> exact quiet_step rfl rfl (by simp) (last rfl)
  | skipping job message row =>
      cases moved
      exact ⟨.inr ⟨job,rfl,.inl rfl⟩,fun job here => by simp [UploadStage.job?] at here⟩
  | probing job attemptNumber =>
      simp only [stepUpload] at moved
      split at moved <;> cases moved <;> exact quiet_step rfl rfl (by simp) (last rfl)
  | picked job path =>
      simp only [stepUpload,Option.some.injEq] at moved
      obtain ⟨same,there⟩ := open_job moved
      exact quiet_step same rfl (by simp) there
  | receiving job path reads index remaining written =>
      simp only [stepUpload,Option.some.injEq] at moved
      obtain ⟨same,there⟩ := receive_job moved
      exact quiet_step same rfl (by simp) there
  | claiming job path written =>
      simp only [stepUpload] at moved
      split at moved <;> cases moved <;> exact quiet_step rfl rfl (by simp) (last rfl)
  | discarding job path error => cases moved; exact quiet_step rfl rfl (by simp) (last rfl)
  | moving job path staged content contentSha1 =>
      simp only [stepUpload] at moved
      split at moved
      · cases moved; exact quiet_step rfl rfl (by simp) (last rfl)
      · split at moved <;> cases moved <;> exact quiet_step rfl rfl (by simp) (last rfl)
  | copying job path staged content contentSha1 =>
      simp only [stepUpload] at moved
      split at moved <;> cases moved <;> exact quiet_step rfl rfl (by simp) (last rfl)
  | copied job path staged content contentSha1 =>
      simp only [stepUpload] at moved
      split at moved <;> cases moved <;> exact quiet_step rfl rfl (by simp) (last rfl)
  | stamping job stored =>
      simp only [stepUpload] at moved
      split at moved <;> cases moved <;> exact quiet_step rfl rfl (by simp) (last rfl)
  | failing job error =>
      cases moved
      refine ⟨?_,fun job here => by simp [UploadStage.job?] at here⟩
      rcases fail_store job.context call.currentTime _ _ (d.cleaned call) with same | ⟨state,written⟩
      · exact .inl same
      · exact .inr ⟨job,rfl,.inr (.inr ⟨error,state,rfl,written⟩)⟩
  | recording job stored =>
      cases moved
      exact ⟨.inr ⟨job,rfl,.inr (.inl ⟨_,rfl,rfl⟩)⟩,fun other here => .inl ⟨here,by simp⟩⟩
  | counting job stored =>
      cases moved
      exact ⟨.inr ⟨job,rfl,.inl rfl⟩,fun job here => by simp [UploadStage.job?] at here⟩
  | stored job stored => cases moved
  | finished result => cases moved

theorem stepChecked_parts {Pending : Type} {check : Store → Except (Except Raised Response) Pending}
    {write : Pending → Desktop → Except Raised Response × Desktop} {stage stage' : Checked Pending}
    (moved : stepChecked check write d stage = some (d',stage')) :
    (stage = .received ∧ d' = d ∧ ((∃ held, check d.store = .ok held ∧ stage' = .passed held) ∨
      ∃ result, stage' = .finished result)) ∨
    ∃ held result, stage = .passed held ∧ write held d = (result,d') ∧ stage' = .finished result := by
  cases stage with
  | received =>
      simp only [stepChecked] at moved
      split at moved
      · cases moved; exact .inl ⟨rfl,rfl,.inr ⟨_,rfl⟩⟩
      · rename_i held passed
        cases moved; exact .inl ⟨rfl,rfl,.inl ⟨held,passed,rfl⟩⟩
  | passed held => cases moved; exact .inr ⟨held,_,rfl,rfl,rfl⟩
  | finished => cases moved

-- What one step of a request does: nothing to the tables, or a statement of its own
-- pending session; and a request that is pending afterwards was so before, or has just
-- found its session open.
structure RequestStep (lib : Libraries) (d : Desktop) (t : Activity) (d' : Desktop) (t' : Activity) : Prop where
  writes : d'.store = d.store ∨ ∃ k, pending t = some k ∧ WritesSession k (ending t).isSome d.store d'.store
  parsed : Parsed lib t'
  waits : ∀ k, pending t' = some k → (pending t = some k ∧ ending t = none) ∨ (d'.store = d.store ∧ OpenIn d.store k)
  payload : sessionOf lib t' = sessionOf lib t

theorem no_wait {property : String → Prop} (idle : pending t = none) : ∀ k, pending t = some k → property k :=
  fun k waiting => by simp [idle] at waiting

theorem start_store (request : MobileTransferSessionRequest) (context : MobileTransferContext) (currentTime : DateTime)
    (d : Desktop) : (acceptStart request context currentTime d).2.store = d.store ∨
      (bindsAsInteger (request.totalAssets.getD 0) = true ∧
        WritesSession request.sessionId false d.store (acceptStart request context currentTime d).2.store) := by
  unfold acceptStart
  split
  · exact .inl rfl
  · split
    · exact .inl rfl
    · rename_i binds
      exact .inr ⟨by simpa using binds,update_writes fun _ => by decide⟩

theorem complete_store (payload : Fields) (request : MobileTransferSessionRequest) (context : MobileTransferContext)
    (currentTime : DateTime) (d : Desktop) : (finishTransfer payload request context currentTime d).2.store = d.store ∨
      (writesCompletion payload request = true ∧
        WritesSession request.sessionId true d.store (finishTransfer payload request context currentTime d).2.store) := by
  unfold finishTransfer
  split
  · exact .inl rfl
  · rename_i reason given
    simp only
    split
    · exact .inl rfl
    · split
      · exact .inl rfl
      · rename_i binds
        have binds : bindsAsInteger (request.transferredCount.getD 0) = true ∧
            bindsAsInteger (request.failedCount.getD 0) = true := by simpa using binds
        exact .inr ⟨by simp [writesCompletion,given,binds,Except.isOk,Except.toBool],update_writes fun never => by cases never⟩

theorem streamError_parts {metadataPayload : Option Fields} {error : OSError} {context : MobileTransferContext}
    (passed : checkStreamError lib store metadataPayload error = .ok context) :
    ∃ metadata, metadataPayload.bind (fun payload => (parseTransferAssetMetadata lib payload).toOption) = some metadata ∧
      getMobileTransferContext store metadata.sessionId metadata.deviceUuid = some context ∧
      context.sessionStatus ∈ [SessionStatus.transferring] := by
  unfold checkStreamError at passed
  split at passed
  · cases passed
  · split at passed
    · cases passed
    · cases passed
    · cases passed
    · rename_i metadata read
      split at passed
      · cases passed
      · split at passed
        · cases passed
        · cases passed
        · rename_i granted
          cases passed
          obtain ⟨payload,rfl,parsed⟩ := Option.map_eq_some_iff.mp read
          exact ⟨metadata,by simp [parsed,Except.toOption],authorise_parts granted⟩

theorem upload_request {call : UploadCall} {stage stage' : UploadStage} (own : Parsed lib (.upload call stage))
    (moved : stepUpload lib call d stage = some (d',stage')) :
    RequestStep lib d (.upload call stage) d' (.upload call stage') := by
  obtain ⟨store,running⟩ := stage_step moved
  refine ⟨?_,?_,?_,rfl⟩
  · rcases store with same | ⟨job,here,written⟩
    · exact .inl same
    · have waiting : pending (.upload call stage) = some job.context.sessionId := by simp [pending,here]
      refine .inr ⟨_,waiting,?_⟩
      rcases written with counted | ⟨stored,rfl,recorded⟩ | ⟨error,state,rfl,failed⟩
      · rw [counted,(own job here).2]; exact count_writes
      · rw [recorded]; exact unwritten rfl
      · rw [failed]; exact update_writes fun never => by cases never
  · intro job here
    rcases running job here with ⟨before,-⟩ | ⟨-,passed⟩
    · exact own job before
    · have accepted := check_passed passed
      exact ⟨accepted.parsed,(context_session (authorise_parts accepted.granted).1).1⟩
  · intro k waiting
    obtain ⟨job,here,rfl⟩ := Option.map_eq_some_iff.mp waiting
    rcases running job here with ⟨before,alive⟩ | ⟨same,passed⟩
    · refine .inl ⟨by simp [pending,before],?_⟩
      cases stage <;> first | rfl | (cases before; exact absurd rfl (alive _))
    · obtain ⟨found,checked⟩ := authorise_parts (check_passed passed).granted
      rw [(context_session found).1]
      exact .inr ⟨same,found_open found checked (by decide)⟩

theorem request_step (own : Parsed lib t) (moved : stepActivity lib d t () = some (d',t')) :
    RequestStep lib d t d' t' := by
  cases t with
  | upload call stage =>
      obtain ⟨⟨after,stage'⟩,step,equal⟩ := Option.map_eq_some_iff.mp moved
      cases equal
      exact upload_request own step
  | start payload currentTime stage =>
      obtain ⟨⟨after,stage'⟩,step,equal⟩ := Option.map_eq_some_iff.mp moved
      cases equal
      rcases stepChecked_parts step with ⟨rfl,rfl,⟨held,passed,rfl⟩ | ⟨result,rfl⟩⟩ | ⟨held,result,rfl,written,rfl⟩
      · obtain ⟨read,found,checked⟩ := session_parts passed
        refine ⟨.inl rfl,read,?_,rfl⟩
        intro k waiting
        obtain ⟨-,equal⟩ := Option.ite_none_right_eq_some.mp waiting
        cases equal
        exact .inr ⟨rfl,found_open found checked (by decide)⟩
      · exact ⟨.inl rfl,trivial,no_wait rfl,rfl⟩
      · refine ⟨?_,trivial,no_wait rfl,rfl⟩
        rcases start_store held.1 held.2 currentTime d with same | ⟨binds,writes⟩
        · rw [written] at same; exact .inl same
        · rw [written] at writes; exact .inr ⟨_,by simp [pending,binds],writes⟩
  | existence payload stage =>
      obtain ⟨⟨after,stage'⟩,step,equal⟩ := Option.map_eq_some_iff.mp moved
      cases equal
      rcases stepChecked_parts step with ⟨rfl,rfl,⟨held,passed,rfl⟩ | ⟨result,rfl⟩⟩ | ⟨held,result,rfl,written,rfl⟩
      · exact ⟨.inl rfl,trivial,no_wait rfl,rfl⟩
      · exact ⟨.inl rfl,trivial,no_wait rfl,rfl⟩
      · cases written
        exact ⟨.inl rfl,trivial,no_wait rfl,rfl⟩
  | complete payload currentTime stage =>
      obtain ⟨⟨after,stage'⟩,step,equal⟩ := Option.map_eq_some_iff.mp moved
      cases equal
      rcases stepChecked_parts step with ⟨rfl,rfl,⟨held,passed,rfl⟩ | ⟨result,rfl⟩⟩ | ⟨held,result,rfl,written,rfl⟩
      · obtain ⟨read,found,checked⟩ := session_parts passed
        refine ⟨.inl rfl,read,?_,rfl⟩
        intro k waiting
        obtain ⟨-,equal⟩ := Option.ite_none_right_eq_some.mp waiting
        cases equal
        exact .inr ⟨rfl,found_open found checked (by decide)⟩
      · exact ⟨.inl rfl,trivial,no_wait rfl,rfl⟩
      · refine ⟨?_,trivial,no_wait rfl,rfl⟩
        rcases complete_store payload held.1 held.2 currentTime d with same | ⟨binds,writes⟩
        · rw [written] at same; exact .inl same
        · rw [written] at writes
          exact .inr ⟨held.1.sessionId,by simp [pending,binds],by simpa [ending,binds] using writes⟩
  | streamError metadataPayload error currentTime stage =>
      obtain ⟨⟨after,stage'⟩,step,equal⟩ := Option.map_eq_some_iff.mp moved
      cases equal
      rcases stepChecked_parts step with ⟨rfl,rfl,⟨held,passed,rfl⟩ | ⟨result,rfl⟩⟩ | ⟨held,result,rfl,written,rfl⟩
      · obtain ⟨metadata,read,found,checked⟩ := streamError_parts passed
        have named := (context_session found).1
        refine ⟨.inl rfl,?_,?_,rfl⟩
        · simp [Parsed,sessionOf,read,named]
        · intro k waiting
          cases waiting
          rw [named]
          exact .inr ⟨rfl,found_open found checked (by decide)⟩
      · exact ⟨.inl rfl,trivial,no_wait rfl,rfl⟩
      · refine ⟨?_,trivial,no_wait rfl,rfl⟩
        rcases fail_store held currentTime true (streamErrorResponse error) d with same | ⟨state,writes⟩
        · rw [written] at same; exact .inl same
        · rw [written] at writes
          refine .inr ⟨held.sessionId,rfl,?_⟩
          change after.store = _ at writes
          simp only [writes]
          exact update_writes fun never => by cases never

-- A session is ended only when no other request of it still has writes to come.
def endsAlone : Condition Desktop Activity Unit Empty where
  beside _ t _ u := (ending t).all fun k => pending u ≠ some k

def sessionAssertions (lib : Libraries) : Assertions Desktop Activity where
  thread d t := Parsed lib t ∧ ∀ k, pending t = some k → OpenIn d.store k

theorem ending_pending (ends : ending t = some k) : pending t = some k := by
  cases t with
  | upload call stage =>
      cases stage with
      | failing job error => exact ends
      | _ => cases ends
  | start payload currentTime stage => cases ends
  | existence payload stage => cases ends
  | complete payload currentTime stage =>
      cases stage with
      | passed held => exact ends
      | _ => cases ends
  | streamError metadataPayload error currentTime stage =>
      cases stage with
      | passed context => exact ends
      | _ => cases ends

theorem open_kept (writes : WritesSession k false store store') (before : OpenIn store k) : OpenIn store' k := by
  intro row' there
  obtain ⟨row,found,back⟩ := writes.status rfl row' there
  exact fun ended => before row found (back ended)

theorem open_beside {ends : Bool} {j : String} (writes : WritesSession k ends store store') (other : j ≠ k)
    (before : OpenIn store j) : OpenIn store' j := by
  intro row there
  rw [writes.others j other] at there
  exact before row there

theorem session_stable (environment : Desktop → Empty → Option Desktop) :
    Stable (sessionAssertions lib) (stepActivity lib) environment endsAlone where
  own := by
    rintro d t ⟨⟩ d' t' - ⟨parsed,live⟩ - moved
    obtain ⟨writes,parsed',waits,-⟩ := request_step parsed moved
    refine ⟨trivial,parsed',?_⟩
    intro k waiting
    rcases waits k waiting with ⟨before,alive⟩ | ⟨same,open_⟩
    · rcases writes with same | ⟨j,mine,writes⟩
      · rw [same]; exact live k before
      · cases mine.symm.trans before
        rw [alive] at writes
        exact open_kept writes (live _ before)
    · rw [same]; exact open_
  other := by
    rintro d t u ⟨⟩ d' t' - ⟨parsed,-⟩ ⟨parsedOther,live⟩ - - - alone moved
    obtain ⟨writes,-,-,-⟩ := request_step parsed moved
    refine ⟨⟨parsedOther,?_⟩,trivial,trivial⟩
    intro k waiting
    rcases writes with same | ⟨j,mine,writes⟩
    · rw [same]; exact live k waiting
    · by_cases shared : k = j
      · subst shared
        cases ends : ending t with
        | none => rw [ends] at writes; exact open_kept writes (live _ waiting)
        | some other =>
            cases (ending_pending ends).symm.trans mine
            simp [endsAlone,ends,waiting] at alone
      · exact open_beside writes shared (live k waiting)
  eventWorld := fun {_ event} => nomatch event
  eventThread := fun {_ event} => nomatch event

variable {Index : Type} {start s later : Pool Index Desktop Activity}

theorem arriving_holds (arrives : ∀ i, arriving (start.threads i) = true) : (sessionAssertions lib).Hold start := by
  refine ⟨trivial,?_,fun _ _ _ => trivial⟩
  intro i
  have fresh := arrives i
  cases found : start.threads i with
  | upload call stage =>
      cases stage <;> simp only [found,arriving,Bool.false_eq_true] at fresh
      exact ⟨fun job here => by simp [UploadStage.job?] at here,no_wait rfl⟩
  | start payload currentTime stage =>
      cases stage <;> simp only [found,arriving,Bool.false_eq_true] at fresh
      exact ⟨trivial,no_wait rfl⟩
  | existence payload stage =>
      cases stage <;> simp only [found,arriving,Bool.false_eq_true] at fresh
      exact ⟨trivial,no_wait rfl⟩
  | complete payload currentTime stage =>
      cases stage <;> simp only [found,arriving,Bool.false_eq_true] at fresh
      exact ⟨trivial,no_wait rfl⟩
  | streamError metadataPayload error currentTime stage =>
      cases stage <;> simp only [found,arriving,Bool.false_eq_true] at fresh
      exact ⟨trivial,no_wait rfl⟩

theorem ended_quiet (holds : (sessionAssertions lib).Hold s) {row : BackupSessionRow}
    (found : s.world.store.sessions.find? k = some row) (ended : row.status.Terminal) (i : Index) :
    pending (s.threads i) ≠ some k :=
  fun waiting => (holds.thread i).2 k waiting row found ended

variable [DecidableEq Index]

theorem holds_reached (arrives : ∀ i, arriving (start.threads i) = true)
    (path : Reaches (transferPool Index lib) endsAlone.Admits start s) : (sessionAssertions lib).Hold s :=
  hold_reaches (session_stable _) (arriving_holds arrives) path

-- What a step leaves alone once the row of a session is terminal.
structure Finality (lib : Libraries) (k : String) (row : BackupSessionRow) (s : Pool Index Desktop Activity) : Prop where
  row : s.world.store.sessions.find? k = some row
  folder : ∀ i next, sessionOf lib (s.threads i) = some k → (transferPool Index lib).step s (.thread i ()) = some next →
    next.world.store.mobileFolders = s.world.store.mobileFolders

theorem ended_step (holds : (sessionAssertions lib).Hold s) {row : BackupSessionRow}
    (found : s.world.store.sessions.find? k = some row) (ended : row.status.Terminal) {move : Move Index Unit Empty}
    {next : Pool Index Desktop Activity} (taken : (transferPool Index lib).step s move = some next) :
    next.world.store.sessions.find? k = some row := by
  cases move with
  | environment event => cases event
  | thread i input =>
      obtain ⟨world',thread',moved,rfl⟩ := thread_parts taken
      rcases (request_step (holds.thread i).1 moved).writes with same | ⟨j,mine,writes⟩
      · rw [same]; exact found
      · have other : k ≠ j := fun equal => ended_quiet holds found ended i (equal ▸ mine)
        rw [writes.others k other]; exact found

def Ended (lib : Libraries) (k : String) (row : BackupSessionRow) (s : Pool Index Desktop Activity) : Prop :=
  (sessionAssertions lib).Hold s ∧ s.world.store.sessions.find? k = some row

theorem ended_reached {row : BackupSessionRow} (ended : row.status.Terminal) (before : Ended lib k row s)
    (onward : Reaches (transferPool Index lib) endsAlone.Admits s later) : Ended lib k row later := by
  refine reaches_preserves ?_ before onward
  intro s label next old allowed taken
  exact ⟨hold_preserved (session_stable _) old.1 allowed taken,ended_step old.1 old.2 ended taken⟩

theorem terminal_final (lib : Libraries) (start s later : Pool Index Desktop Activity)
    (arrives : ∀ i, arriving (start.threads i) = true)
    (path : Reaches (transferPool Index lib) endsAlone.Admits start s) (k : String) (row : BackupSessionRow)
    (found : s.world.store.sessions.find? k = some row) (ended : row.status.Terminal)
    (onward : Reaches (transferPool Index lib) endsAlone.Admits s later) : Finality lib k row later := by
  obtain ⟨holds,still⟩ := ended_reached ended ⟨holds_reached arrives path,found⟩ onward
  refine ⟨still,?_⟩
  intro i next mine taken
  obtain ⟨world',thread',moved,rfl⟩ := thread_parts taken
  rcases (request_step (holds.thread i).1 moved).writes with same | ⟨j,waiting,-⟩
  · simp only [same]
  · cases (pending_session (holds.thread i).1 waiting).symm.trans mine
    exact absurd waiting (ended_quiet holds still ended i)

instance (d : Desktop) (t : Activity) (x : Unit) : Decidable (endsAlone.own d t x) := inferInstanceAs (Decidable True)
instance (d : Desktop) (t : Activity) (x : Unit) (u : Activity) : Decidable (endsAlone.beside d t x u) :=
  inferInstanceAs (Decidable ((ending t).all (fun k => pending u ≠ some k) = true))
instance (d : Desktop) (e : Empty) (u : Activity) : Decidable (endsAlone.event d e u) := inferInstanceAs (Decidable True)

def uploadAndComplete : Pool (Fin 2) Desktop Activity where
  world := {sampleDesktop with files:=writeFile .empty (.staged "/tmp/1") [97]}
  threads i :=
    if i = 0 then .upload (sampleCall "asset-1" "/tmp/1" "86f7e437faa5a7fce15d1ddcb9eaeaea377667b8") .received
    else .complete sampleCompletion 1704067200000000 .received

theorem uploadAndComplete_arriving : ∀ i, arriving (uploadAndComplete.threads i) = true := by decide

def completedRow (transferredCount : Int) : BackupSessionRow :=
  ⟨"session-1","phone-1",1,.completed,2,transferredCount,0,0,some 0,some 1704067200000000⟩

def sessionIs (row : BackupSessionRow) (s : Pool (Fin 2) Desktop Activity) : Bool :=
  s.world.store.sessions.find? "session-1" = some row

-- The upload passes its check, the session is completed, and the upload goes on to count.
theorem counted_after_completion : ¬ ∀ (lib : Libraries) (start s later : Pool (Fin 2) Desktop Activity),
    (∀ i, arriving (start.threads i) = true) → Reachable (transferPool (Fin 2) lib) start s → ∀ k row,
    s.world.store.sessions.find? k = some row → row.status.Terminal → Reachable (transferPool (Fin 2) lib) s later →
    Finality lib k row later := by
  intro all
  let early : List (Move (Fin 2) Unit Empty) := [.thread 0 (),.thread 1 (),.thread 1 ()]
  let late : List (Move (Fin 2) Unit Empty) := List.replicate 8 (.thread 0 ())
  let system := transferPool (Fin 2) sampleLibraries
  obtain ⟨s,path,seen⟩ := checkedRun_exhibits system (fun _ _ => True) uploadAndComplete early
    (fun s => sessionIs (completedRow 0) s &&
      (system.checkedRun (fun _ _ => True) s late).any (sessionIs (completedRow 1))) (by decide +kernel)
  obtain ⟨ended,goesOn⟩ := Bool.and_eq_true_iff.mp seen
  obtain ⟨later,onward,counted⟩ := checkedRun_exhibits system (fun _ _ => True) s late (sessionIs (completedRow 1)) goesOn
  have final := all sampleLibraries uploadAndComplete s later uploadAndComplete_arriving path "session-1" (completedRow 0)
    (of_decide_eq_true ended) (by decide) onward
  have same := final.row.symm.trans (of_decide_eq_true counted)
  exact absurd same (by decide)

theorem completed_stays : ∃ s, Reaches (transferPool (Fin 2) sampleLibraries) endsAlone.Admits uploadAndComplete s ∧
    s.world.store.sessions.find? "session-1" = some (completedRow 0) ∧
    Finality sampleLibraries "session-1" (completedRow 0) s := by
  obtain ⟨s,path,seen⟩ := checkedRun_exhibits (transferPool (Fin 2) sampleLibraries) endsAlone.Admits uploadAndComplete
    (List.replicate 9 (.thread 0 ()) ++ [.thread 1 (),.thread 1 ()]) (sessionIs (completedRow 0)) (by decide +kernel)
  have found := of_decide_eq_true seen
  exact ⟨s,path,found,terminal_final sampleLibraries uploadAndComplete s s uploadAndComplete_arriving path "session-1"
    (completedRow 0) found (by decide) reaches_refl⟩

end ImageSearch.TerminalSessions
