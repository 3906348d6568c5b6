import ImageSearch.TransferPipeline

namespace ImageSearch.PipelineSteps
open Payload AsyncQueue TransferClients TransferPipeline

variable {transfer : Transfer} {p p' : Pipeline} {input : Input}

@[simp] theorem fail_pipelineError : (failPipeline p).pipelineError = true := by
  unfold failPipeline
  split
  · assumption
  · rfl

theorem fail_parts : (failPipeline p).prepareSettled = p.prepareSettled ∧
    (failPipeline p).existenceSettled = p.existenceSettled ∧ (failPipeline p).uploadSettled = p.uploadSettled ∧
    (failPipeline p).preparedAssetQueue.outstanding = p.preparedAssetQueue.outstanding ∧
    (failPipeline p).uploadAssetQueue.outstanding = p.uploadAssetQueue.outstanding := by
  unfold failPipeline
  split
  · exact ⟨rfl,rfl,rfl,rfl,rfl⟩
  · exact ⟨rfl,rfl,rfl,close_outstanding,close_outstanding⟩

def livePrepare : Coroutine → Nat
  | .prepare .settled => 0
  | .prepare _ => 1
  | _ => 0

def liveExistence : Coroutine → Nat
  | .existence .settled => 0
  | .existence _ => 1
  | _ => 0

def liveUpload : Coroutine → Nat
  | .upload .settled => 0
  | .upload _ => 1
  | _ => 0

def awaitsPrepared : Coroutine → Nat
  | .existence (.awaiting _) => 1
  | _ => 0

def awaitsUpload : Coroutine → Nat
  | .upload (.awaiting _) => 1
  | _ => 0

-- The promises and the settled coroutines agree with what the coroutines are doing.
structure Settles (p : Pipeline) (t : Coroutine) (p' : Pipeline) (t' : Coroutine) : Prop where
  prepare : p'.prepareSettled + livePrepare t' = p.prepareSettled + livePrepare t
  existence : p'.existenceSettled + liveExistence t' = p.existenceSettled + liveExistence t
  upload : p'.uploadSettled + liveUpload t' = p.uploadSettled + liveUpload t
  prepared : p'.preparedAssetQueue.outstanding + awaitsPrepared t = p.preparedAssetQueue.outstanding + awaitsPrepared t'
  uploads : p'.uploadAssetQueue.outstanding + awaitsUpload t = p.uploadAssetQueue.outstanding + awaitsUpload t'

theorem settles_trans {middle : Pipeline} {t t' : Coroutine}
    (same : middle.prepareSettled = p.prepareSettled ∧ middle.existenceSettled = p.existenceSettled ∧
      middle.uploadSettled = p.uploadSettled ∧
      middle.preparedAssetQueue.outstanding = p.preparedAssetQueue.outstanding ∧
      middle.uploadAssetQueue.outstanding = p.uploadAssetQueue.outstanding)
    (after : Settles middle t p' t') : Settles p t p' t' := by
  obtain ⟨prepare,existence,upload,prepared,uploads⟩ := after
  obtain ⟨one,two,three,four,five⟩ := same
  exact ⟨by omega,by omega,by omega,by omega,by omega⟩

theorem prepareHead_settles {phase : PreparePhase} (live : livePrepare (.prepare phase) = 1) :
    Settles p (.prepare phase) (prepareHead transfer p).1 (.prepare (prepareHead transfer p).2) := by
  unfold prepareHead
  split
  · exact ⟨by rw [live]; rfl,rfl,rfl,rfl,rfl⟩
  · split
    · exact ⟨by rw [live]; rfl,rfl,rfl,rfl,rfl⟩
    · split
      · exact ⟨by rw [live]; rfl,rfl,rfl,rfl,rfl⟩
      · exact ⟨by rw [live]; rfl,rfl,rfl,rfl,rfl⟩

theorem existenceHead_settles {phase : ExistencePhase} (live : liveExistence (.existence phase) = 1)
    (idle : awaitsPrepared (.existence phase) = 0) :
    Settles p (.existence phase) (existenceHead p).1 (.existence (existenceHead p).2) := by
  unfold existenceHead
  split
  · exact ⟨rfl,by rw [live]; rfl,rfl,by rw [idle]; rfl,rfl⟩
  · exact ⟨rfl,by rw [live]; rfl,rfl,by rw [idle]; exact shift_outstanding,rfl⟩

theorem uploadHead_settles {phase : UploadPhase} (live : liveUpload (.upload phase) = 1)
    (idle : awaitsUpload (.upload phase) = 0) :
    Settles p (.upload phase) (uploadHead p).1 (.upload (uploadHead p).2) := by
  unfold uploadHead
  split
  · exact ⟨rfl,rfl,by rw [live]; rfl,rfl,by rw [idle]; rfl⟩
  · exact ⟨rfl,rfl,by rw [live]; rfl,rfl,by rw [idle]; exact shift_outstanding⟩

theorem hand_parts {asset : NormalizedTransferAsset} {sha1 : String} :
    (handCandidate p asset sha1).prepareSettled = p.prepareSettled ∧
    (handCandidate p asset sha1).existenceSettled = p.existenceSettled ∧
    (handCandidate p asset sha1).uploadSettled = p.uploadSettled ∧
    (handCandidate p asset sha1).preparedAssetQueue.outstanding = p.preparedAssetQueue.outstanding ∧
    (handCandidate p asset sha1).uploadAssetQueue.outstanding = p.uploadAssetQueue.outstanding := by
  unfold handCandidate
  split
  · exact ⟨rfl,rfl,rfl,push_outstanding,rfl⟩
  · exact ⟨rfl,rfl,rfl,rfl,push_outstanding⟩

theorem prepare_settles {phase : PreparePhase} {next : Pipeline × PreparePhase}
    (moved : stepPrepare transfer p phase input = some next) :
    Settles p (.prepare phase) next.1 (.prepare next.2) := by
  unfold stepPrepare at moved
  split at moved
  · cases moved
    exact prepareHead_settles rfl
  · split at moved
    · cases moved
      exact settles_trans hand_parts (prepareHead_settles rfl)
    · cases moved
      exact settles_trans hand_parts (prepareHead_settles rfl)
    · cases moved
      exact settles_trans fail_parts (prepareHead_settles rfl)
    · cases moved
  · cases moved

theorem pushes_outstanding {works : List PreparedAssetWork} {queue : Queue NormalizedTransferAsset} :
    (works.foldl (fun queue work => queue.push work.asset) queue).outstanding = queue.outstanding := by
  induction works generalizing queue with
  | nil => rfl
  | cons work works ih => exact ih.trans push_outstanding

theorem existence_settles {phase : ExistencePhase} {next : Pipeline × ExistencePhase}
    (moved : stepExistence transfer p phase input = some next) :
    Settles p (.existence phase) next.1 (.existence next.2) := by
  have failed : ∀ batch, Settles p (.existence (.checking batch)) (settleExistence (failPipeline p)).1
      (.existence (settleExistence (failPipeline p)).2) := fun batch =>
    settles_trans fail_parts ⟨rfl,rfl,rfl,rfl,rfl⟩
  unfold stepExistence at moved
  split at moved
  · cases moved
    exact existenceHead_settles rfl rfl
  · split at moved
    · cases moved
    · rename_i promise nextPrepared queue taken
      have received := take_outstanding taken
      dsimp only at moved
      split at moved
      · split at moved
        · cases moved
          exact ⟨rfl,rfl,rfl,received,rfl⟩
        · cases moved
          have head : Settles {p with preparedAssetQueue:=queue.dropItems (fillBatch nextPrepared.toList queue.items).2}
            (.existence .ready) _ _ := existenceHead_settles rfl rfl
          obtain ⟨prepare,existence,upload,prepared,uploads⟩ := head
          refine ⟨prepare,existence,upload,?_,uploads⟩
          change _ + 0 = queue.outstanding + _ at prepared
          change _ + 1 = p.preparedAssetQueue.outstanding + _
          omega
      · cases moved
        exact ⟨rfl,rfl,rfl,received,rfl⟩
  · cases moved
    exact ⟨rfl,rfl,rfl,rfl,rfl⟩
  · split at moved
    · cases moved
      exact failed _
    · split at moved
      · cases moved
        exact failed _
      · cases moved
        refine ⟨rfl,rfl,rfl,rfl,?_⟩
        dsimp only [matchBatch]
        rw [pushes_outstanding]
        rfl
  · cases moved
    exact failed _
  · cases moved
    exact existenceHead_settles rfl rfl
  · cases moved

theorem uploadFailed_settles {phase : UploadPhase} (live : liveUpload (.upload phase) = 1)
    (idle : awaitsUpload (.upload phase) = 0) :
    Settles p (.upload phase) (uploadFailed p).1 (.upload (uploadFailed p).2) := by
  unfold uploadFailed
  dsimp only
  split
  · refine settles_trans ?_ (uploadHead_settles live idle)
    exact fail_parts
  · refine settles_trans ?_ (uploadHead_settles live idle)
    exact ⟨rfl,rfl,rfl,rfl,rfl⟩

theorem uploadBroken_settles {asset : NormalizedTransferAsset} {attempt : Nat} {connectionLost : Bool} :
    Settles p (.upload (.uploading asset attempt)) (uploadBroken transfer p asset attempt connectionLost).1
      (.upload (uploadBroken transfer p asset attempt connectionLost).2) := by
  unfold uploadBroken
  split
  · exact ⟨rfl,rfl,rfl,rfl,rfl⟩
  · exact uploadFailed_settles rfl rfl

theorem uploadAnswered_settles {asset : NormalizedTransferAsset} {attempt statusCode : Nat} {status : Option String} :
    Settles p (.upload (.uploading asset attempt)) (uploadAnswered p asset statusCode status) (.upload .counted) := by
  unfold uploadAnswered
  dsimp only
  split
  · exact ⟨rfl,rfl,rfl,rfl,rfl⟩
  · split <;> exact ⟨rfl,rfl,rfl,rfl,rfl⟩

theorem upload_settles {phase : UploadPhase} {next : Pipeline × UploadPhase}
    (moved : stepUpload transfer p phase input = some next) :
    Settles p (.upload phase) next.1 (.upload next.2) := by
  unfold stepUpload at moved
  split at moved
  · cases moved
    exact uploadHead_settles rfl rfl
  · split at moved
    · cases moved
    · rename_i queue taken
      cases moved
      exact ⟨rfl,rfl,rfl,rfl,take_outstanding taken⟩
    · rename_i promise asset queue taken
      have received := take_outstanding taken
      dsimp only at moved
      split at moved
      · cases moved
        have head : Settles ({p with uploadAssetQueue:=queue}.observe (.handed asset.assetId)) (.upload .ready) _ _ :=
          settles_trans fail_parts (uploadHead_settles rfl rfl)
        obtain ⟨prepare,existence,upload,prepared,uploads⟩ := head
        refine ⟨prepare,existence,upload,prepared,?_⟩
        change _ + 0 = queue.outstanding + _ at uploads
        change _ + 1 = p.uploadAssetQueue.outstanding + _
        omega
      · cases moved
        exact ⟨rfl,rfl,rfl,rfl,received⟩
  · cases moved
    exact ⟨rfl,rfl,rfl,rfl,rfl⟩
  · split at moved
    · cases moved
      exact uploadBroken_settles
    · cases moved
      exact uploadAnswered_settles
  · cases moved
    exact uploadBroken_settles
  · split at moved
    · cases moved
      exact ⟨rfl,rfl,rfl,rfl,rfl⟩
    · cases moved
      exact uploadFailed_settles rfl rfl
  · cases moved
    exact uploadHead_settles rfl rfl
  · cases moved

theorem main_settles {phase : MainPhase} {next : Pipeline × MainPhase}
    (moved : stepMain transfer p phase input = some next) : Settles p (.main phase) next.1 (.main next.2) := by
  unfold stepMain at moved
  split at moved
  · split at moved
    · cases moved
      exact ⟨rfl,rfl,rfl,rfl,rfl⟩
    · split at moved
      · cases moved
        exact ⟨rfl,rfl,rfl,close_outstanding,rfl⟩
      · cases moved
  · split at moved
    · cases moved
      exact ⟨rfl,rfl,rfl,rfl,close_outstanding⟩
    · cases moved
  · split at moved
    · cases moved
      exact ⟨rfl,rfl,rfl,rfl,rfl⟩
    · cases moved
  · cases moved
    exact ⟨rfl,rfl,rfl,rfl,rfl⟩
  · repeat' (first | split at moved | dsimp only at moved)
    all_goals
      cases moved
      exact ⟨rfl,rfl,rfl,rfl,rfl⟩
  all_goals first | cases moved; exact ⟨rfl,rfl,rfl,rfl,rfl⟩ | cases moved

theorem coroutine_settles {t : Coroutine} {next : Pipeline × Coroutine}
    (moved : stepCoroutine transfer p t input = some next) : Settles p t next.1 next.2 := by
  cases t with
  | main phase =>
      obtain ⟨after,step,rfl⟩ := Option.map_eq_some_iff.mp moved
      exact main_settles step
  | prepare phase =>
      obtain ⟨after,step,rfl⟩ := Option.map_eq_some_iff.mp moved
      exact prepare_settles step
  | existence phase =>
      obtain ⟨after,step,rfl⟩ := Option.map_eq_some_iff.mp moved
      exact existence_settles step
  | upload phase =>
      obtain ⟨after,step,rfl⟩ := Option.map_eq_some_iff.mp moved
      exact upload_settles step

structure Keeps (p p' : Pipeline) : Prop where
  error : p.pipelineError = true → p'.pipelineError = true
  index : p.prepareNextIndex ≤ p'.prepareNextIndex
  rejected : p.prepareRejected = true → p'.prepareRejected = true
  prepared : p.preparedAssetQueue.Drained → p'.preparedAssetQueue.Drained
  uploads : p.uploadAssetQueue.Drained → p'.uploadAssetQueue.Drained

theorem keeps_refl : Keeps p p := ⟨id,Nat.le_refl _,id,id,id⟩

theorem keeps_trans {middle : Pipeline} (one : Keeps p middle) (two : Keeps middle p') : Keeps p p' :=
  ⟨two.error ∘ one.error,one.index.trans two.index,two.rejected ∘ one.rejected,two.prepared ∘ one.prepared,
    two.uploads ∘ one.uploads⟩

theorem fail_keeps : Keeps p (failPipeline p) := by
  unfold failPipeline
  split
  · exact keeps_refl
  · exact ⟨fun _ => rfl,Nat.le_refl _,id,close_drained,close_drained⟩

theorem hand_keeps {asset : NormalizedTransferAsset} {sha1 : String} : Keeps p (handCandidate p asset sha1) := by
  unfold handCandidate
  split
  · exact ⟨id,Nat.le_refl _,id,push_drained,id⟩
  · exact ⟨id,Nat.le_refl _,id,id,push_drained⟩

theorem prepareHead_keeps : Keeps p (prepareHead transfer p).1 := by
  unfold prepareHead
  split
  · exact ⟨id,Nat.le_refl _,id,id,id⟩
  · split
    · exact ⟨id,Nat.le_refl _,fun _ => rfl,id,id⟩
    · split <;> exact ⟨id,Nat.le_succ _,id,id,id⟩

theorem existenceHead_keeps : Keeps p (existenceHead p).1 := by
  unfold existenceHead
  split
  · exact ⟨id,Nat.le_refl _,id,id,id⟩
  · exact ⟨id,Nat.le_refl _,id,shift_drained,id⟩

theorem uploadHead_keeps : Keeps p (uploadHead p).1 := by
  unfold uploadHead
  split
  · exact ⟨id,Nat.le_refl _,id,id,id⟩
  · exact ⟨id,Nat.le_refl _,id,id,shift_drained⟩

theorem uploadFailed_keeps : Keeps p (uploadFailed p).1 := by
  have counted : Keeps p {p with
      failedAssets:=p.failedAssets+1
      consecutiveUploadFailures:=p.consecutiveUploadFailures+1} := ⟨id,Nat.le_refl _,id,id,id⟩
  unfold uploadFailed
  dsimp only
  split
  · exact keeps_trans counted (keeps_trans fail_keeps uploadHead_keeps)
  · exact keeps_trans counted uploadHead_keeps

theorem uploadBroken_keeps {asset : NormalizedTransferAsset} {attempt : Nat} {connectionLost : Bool} :
    Keeps p (uploadBroken transfer p asset attempt connectionLost).1 := by
  unfold uploadBroken
  split
  · exact keeps_refl
  · exact uploadFailed_keeps

theorem uploadAnswered_keeps {asset : NormalizedTransferAsset} {statusCode : Nat} {status : Option String} :
    Keeps p (uploadAnswered p asset statusCode status) := by
  unfold uploadAnswered
  dsimp only
  split
  · exact ⟨id,Nat.le_refl _,id,id,id⟩
  · split <;> exact ⟨id,Nat.le_refl _,id,id,id⟩

theorem pushes_drained {works : List PreparedAssetWork} {queue : Queue NormalizedTransferAsset} (finished : queue.Drained) :
    (works.foldl (fun queue work => queue.push work.asset) queue).Drained := by
  induction works generalizing queue with
  | nil => exact finished
  | cons work works ih => exact ih (push_drained finished)

theorem match_keeps {batch : List PreparedAssetWork} {matched : List String} : Keeps p (matchBatch p batch matched) :=
  ⟨id,Nat.le_refl _,id,id,pushes_drained⟩

theorem prepare_keeps {phase : PreparePhase} {next : Pipeline × PreparePhase}
    (moved : stepPrepare transfer p phase input = some next) : Keeps p next.1 := by
  unfold stepPrepare at moved
  split at moved
  · cases moved
    exact prepareHead_keeps
  · split at moved
    · cases moved
      exact keeps_trans hand_keeps prepareHead_keeps
    · cases moved
      exact keeps_trans hand_keeps prepareHead_keeps
    · cases moved
      exact keeps_trans fail_keeps prepareHead_keeps
    · cases moved
  · cases moved

theorem settle_keeps : Keeps p (settleExistence (failPipeline p)).1 :=
  keeps_trans fail_keeps ⟨id,Nat.le_refl _,id,id,id⟩

theorem existence_keeps {phase : ExistencePhase} {next : Pipeline × ExistencePhase}
    (moved : stepExistence transfer p phase input = some next) : Keeps p next.1 := by
  unfold stepExistence at moved
  split at moved
  · cases moved
    exact existenceHead_keeps
  · split at moved
    · cases moved
    · rename_i nextPrepared queue taken
      have drained : ∀ count, Keeps p {p with preparedAssetQueue:=queue.dropItems count} := fun count =>
        ⟨id,Nat.le_refl _,id,fun finished => dropItems_drained (take_drained finished taken),id⟩
      dsimp only at moved
      split at moved
      · split at moved
        · cases moved
          exact keeps_trans (drained _) ⟨id,Nat.le_refl _,id,id,id⟩
        · cases moved
          exact keeps_trans (drained _) existenceHead_keeps
      · cases moved
        exact drained _
  · cases moved
    exact keeps_refl
  · split at moved
    · cases moved
      exact settle_keeps
    · split at moved
      · cases moved
        exact settle_keeps
      · cases moved
        exact match_keeps
  · cases moved
    exact settle_keeps
  · cases moved
    exact existenceHead_keeps
  · cases moved

theorem upload_keeps {phase : UploadPhase} {next : Pipeline × UploadPhase}
    (moved : stepUpload transfer p phase input = some next) : Keeps p next.1 := by
  unfold stepUpload at moved
  split at moved
  · cases moved
    exact uploadHead_keeps
  · split at moved
    · cases moved
    · rename_i queue taken
      cases moved
      exact ⟨id,Nat.le_refl _,id,id,fun finished => take_drained finished taken⟩
    · rename_i asset queue taken
      have handed : Keeps p ({p with uploadAssetQueue:=queue}.observe (.handed asset.assetId)) :=
        ⟨id,Nat.le_refl _,id,id,fun finished => take_drained finished taken⟩
      dsimp only at moved
      split at moved
      · cases moved
        exact keeps_trans handed (keeps_trans fail_keeps uploadHead_keeps)
      · cases moved
        exact handed
  · cases moved
    exact keeps_refl
  · split at moved
    · cases moved
      exact uploadBroken_keeps
    · cases moved
      exact uploadAnswered_keeps
  · cases moved
    exact uploadBroken_keeps
  · split at moved
    · cases moved
      exact keeps_refl
    · cases moved
      exact uploadFailed_keeps
  · cases moved
    exact uploadHead_keeps
  · cases moved

theorem main_keeps {phase : MainPhase} {next : Pipeline × MainPhase}
    (moved : stepMain transfer p phase input = some next) : Keeps p next.1 := by
  unfold stepMain at moved
  split at moved
  · split at moved
    · cases moved
      exact keeps_refl
    · split at moved
      · cases moved
        exact ⟨id,Nat.le_refl _,id,close_drained,id⟩
      · cases moved
  · split at moved
    · cases moved
      exact ⟨id,Nat.le_refl _,id,id,close_drained⟩
    · cases moved
  · split at moved
    · cases moved
      exact keeps_refl
    · cases moved
  · cases moved
    exact ⟨id,Nat.le_refl _,id,id,id⟩
  · repeat' (first | split at moved | dsimp only at moved)
    all_goals
      cases moved
      exact ⟨id,Nat.le_refl _,id,id,id⟩
  all_goals first | cases moved; exact keeps_refl | cases moved

theorem coroutine_keeps {t : Coroutine} {next : Pipeline × Coroutine}
    (moved : stepCoroutine transfer p t input = some next) : Keeps p next.1 := by
  cases t with
  | main phase =>
      obtain ⟨after,step,rfl⟩ := Option.map_eq_some_iff.mp moved
      exact main_keeps step
  | prepare phase =>
      obtain ⟨after,step,rfl⟩ := Option.map_eq_some_iff.mp moved
      exact prepare_keeps step
  | existence phase =>
      obtain ⟨after,step,rfl⟩ := Option.map_eq_some_iff.mp moved
      exact existence_keeps step
  | upload phase =>
      obtain ⟨after,step,rfl⟩ := Option.map_eq_some_iff.mp moved
      exact upload_keeps step

def Observes (transfer : Transfer) (p : Pipeline) : Coroutine → Input → Observation → Prop
  | .main .publishing,.resume,observation => observation = .completing
  | .main .completing,.answer statusCode body,observation =>
    (∃ answer, transfer.link.receive .complete statusCode body = .ok answer) ∧
      (observation = .completed statusCode ∨ observation = .deleted p.successfullyTransferredAssetIds ∧ p.aborted = false)
  | .existence (.checking batch),.answer statusCode body,observation =>
    ∃ answer, transfer.link.receive .existence statusCode body = .ok answer ∧
      observation = .checked (batch.map PreparedAssetWork.assetId) (answerMatches answer).dedup
  | .upload (.awaiting _),.resume,observation => ∃ asset : NormalizedTransferAsset, observation = .handed asset.assetId
  | .upload (.uploading asset _),.answer statusCode body,observation =>
    ∃ answer, transfer.link.receive .asset statusCode body = .ok answer ∧
      observation = .uploaded asset.assetId statusCode (answerStatus answer)
  | _,_,_ => False

def Vouches : Observation → String → Prop
  | .checked _ matched,assetId => assetId ∈ matched
  | .uploaded uploadedId _ status,assetId => assetId = uploadedId ∧ (status = some "stored" ∨ status = some "skipped")
  | _,_ => False

def Records (transfer : Transfer) (p : Pipeline) (t : Coroutine) (input : Input) (p' : Pipeline) : Prop :=
  ∃ more, p'.observed = p.observed ++ more ∧ (∀ observation ∈ more, Observes transfer p t input observation) ∧
    ∀ assetId ∈ p'.successfullyTransferredAssetIds, assetId ∈ p.successfullyTransferredAssetIds ∨
      ∃ observation ∈ more, Vouches observation assetId

def Silent (p p' : Pipeline) : Prop :=
  p'.observed = p.observed ∧ p'.successfullyTransferredAssetIds = p.successfullyTransferredAssetIds

theorem silent_trans {middle : Pipeline} (one : Silent p middle) (two : Silent middle p') : Silent p p' :=
  ⟨two.1.trans one.1,two.2.trans one.2⟩

theorem fail_silent : Silent p (failPipeline p) := by
  unfold failPipeline
  split <;> exact ⟨rfl,rfl⟩

theorem hand_silent {asset : NormalizedTransferAsset} {sha1 : String} : Silent p (handCandidate p asset sha1) := by
  unfold handCandidate
  split <;> exact ⟨rfl,rfl⟩

theorem prepareHead_silent : Silent p (prepareHead transfer p).1 := by
  unfold prepareHead
  repeat' split
  all_goals exact ⟨rfl,rfl⟩

theorem existenceHead_silent : Silent p (existenceHead p).1 := by
  unfold existenceHead
  split <;> exact ⟨rfl,rfl⟩

theorem uploadHead_silent : Silent p (uploadHead p).1 := by
  unfold uploadHead
  split <;> exact ⟨rfl,rfl⟩

theorem uploadFailed_silent : Silent p (uploadFailed p).1 := by
  have counted : Silent p {p with
      failedAssets:=p.failedAssets+1
      consecutiveUploadFailures:=p.consecutiveUploadFailures+1} := ⟨rfl,rfl⟩
  unfold uploadFailed
  dsimp only
  split
  · exact silent_trans counted (silent_trans fail_silent uploadHead_silent)
  · exact silent_trans counted uploadHead_silent

theorem uploadBroken_silent {asset : NormalizedTransferAsset} {attempt : Nat} {connectionLost : Bool} :
    Silent p (uploadBroken transfer p asset attempt connectionLost).1 := by
  unfold uploadBroken
  split
  · exact ⟨rfl,rfl⟩
  · exact uploadFailed_silent

theorem records_silent {t : Coroutine} (silent : Silent p p') : Records transfer p t input p' :=
  ⟨[],by rw [silent.1,List.append_nil],by simp,fun _ member => .inl (silent.2 ▸ member)⟩

theorem records_one {t : Coroutine} {observation : Observation} (observed : p'.observed = p.observed ++ [observation])
    (observes : Observes transfer p t input observation)
    (vouched : ∀ assetId ∈ p'.successfullyTransferredAssetIds, assetId ∈ p.successfullyTransferredAssetIds ∨
      Vouches observation assetId) : Records transfer p t input p' := by
  refine ⟨[observation],observed,?_,?_⟩
  · intro other member
    cases List.mem_singleton.mp member
    exact observes
  · intro assetId member
    rcases vouched assetId member with old | vouch
    · exact .inl old
    · exact .inr ⟨observation,List.mem_singleton_self _,vouch⟩

theorem prepare_records {phase : PreparePhase} {next : Pipeline × PreparePhase}
    (moved : stepPrepare transfer p phase input = some next) : Records transfer p (.prepare phase) input next.1 := by
  apply records_silent
  unfold stepPrepare at moved
  split at moved
  · cases moved
    exact prepareHead_silent
  · split at moved
    · cases moved
      exact silent_trans hand_silent prepareHead_silent
    · cases moved
      exact silent_trans hand_silent prepareHead_silent
    · cases moved
      exact silent_trans fail_silent prepareHead_silent
    · cases moved
  · cases moved

theorem inserts_member {matched ids : List String} {assetId : String}
    (member : assetId ∈ matched.foldl (fun ids assetId => ids.insert assetId) ids) : assetId ∈ ids ∨ assetId ∈ matched := by
  induction matched generalizing ids with
  | nil => exact .inl member
  | cons first matched ih =>
      rcases ih member with early | late
      · rcases List.mem_insert_iff.mp early with rfl | old
        · exact .inr List.mem_cons_self
        · exact .inl old
      · exact .inr (List.mem_cons_of_mem _ late)

theorem settle_silent : Silent p (settleExistence (failPipeline p)).1 := silent_trans fail_silent ⟨rfl,rfl⟩

theorem existence_records {phase : ExistencePhase} {next : Pipeline × ExistencePhase}
    (moved : stepExistence transfer p phase input = some next) :
    Records transfer p (.existence phase) input next.1 := by
  unfold stepExistence at moved
  split at moved
  · cases moved
    exact records_silent existenceHead_silent
  · apply records_silent
    split at moved
    · cases moved
    · rename_i nextPrepared queue taken
      have drained : ∀ count, Silent p {p with preparedAssetQueue:=queue.dropItems count} := fun _ => ⟨rfl,rfl⟩
      dsimp only at moved
      split at moved
      · split at moved
        · cases moved
          exact ⟨rfl,rfl⟩
        · cases moved
          exact silent_trans (drained _) existenceHead_silent
      · cases moved
        exact drained _
  · cases moved
    exact records_silent ⟨rfl,rfl⟩
  · split at moved
    · cases moved
      exact records_silent settle_silent
    · rename_i answer received
      split at moved
      · cases moved
        exact records_silent settle_silent
      · cases moved
        exact records_one rfl ⟨answer,received,rfl⟩ fun _ member => inserts_member member
  · cases moved
    exact records_silent settle_silent
  · cases moved
    exact records_silent existenceHead_silent
  · cases moved

theorem uploadAnswered_records {asset : NormalizedTransferAsset} {attempt statusCode : Nat} {body : Fields} {answer : Json}
    (received : transfer.link.receive .asset statusCode body = .ok answer) :
    Records transfer p (.upload (.uploading asset attempt)) (.answer statusCode body)
      (uploadAnswered p asset statusCode (answerStatus answer)) := by
  have added : ∀ assetId ∈ p.successfullyTransferredAssetIds.insert asset.assetId,
      assetId ∈ p.successfullyTransferredAssetIds ∨ assetId = asset.assetId := fun _ member =>
    (List.mem_insert_iff.mp member).symm
  have observes : Observes transfer p (.upload (.uploading asset attempt)) (.answer statusCode body)
      (.uploaded asset.assetId statusCode (answerStatus answer)) := ⟨answer,received,rfl⟩
  unfold uploadAnswered
  dsimp only
  split
  · rename_i skipped
    refine records_one rfl observes fun assetId member => ?_
    exact (added assetId member).imp_right fun same => ⟨same,.inr skipped⟩
  · split
    · rename_i stored
      refine records_one rfl observes fun assetId member => ?_
      exact (added assetId member).imp_right fun same => ⟨same,.inl stored⟩
    · exact records_one rfl observes fun _ member => .inl member

theorem upload_records {phase : UploadPhase} {next : Pipeline × UploadPhase}
    (moved : stepUpload transfer p phase input = some next) : Records transfer p (.upload phase) input next.1 := by
  unfold stepUpload at moved
  split at moved
  · cases moved
    exact records_silent uploadHead_silent
  · split at moved
    · cases moved
    · cases moved
      exact records_silent ⟨rfl,rfl⟩
    · rename_i asset queue taken
      dsimp only at moved
      split at moved
      · cases moved
        have after := @silent_trans _ _ _ (@fail_silent ({p with uploadAssetQueue:=queue}.observe (.handed asset.assetId)))
          uploadHead_silent
        exact records_one after.1 ⟨asset,rfl⟩ fun assetId member => .inl (after.2 ▸ member)
      · cases moved
        exact records_one rfl ⟨asset,rfl⟩ fun _ member => .inl member
  · cases moved
    exact records_silent ⟨rfl,rfl⟩
  · split at moved
    · cases moved
      exact records_silent uploadBroken_silent
    · rename_i answer received
      cases moved
      exact uploadAnswered_records received
  · cases moved
    exact records_silent uploadBroken_silent
  · split at moved
    · cases moved
      exact records_silent ⟨rfl,rfl⟩
    · cases moved
      exact records_silent uploadFailed_silent
  · cases moved
    exact records_silent uploadHead_silent
  · cases moved

theorem main_records {phase : MainPhase} {next : Pipeline × MainPhase}
    (moved : stepMain transfer p phase input = some next) : Records transfer p (.main phase) input next.1 := by
  unfold stepMain at moved
  split at moved
  · apply records_silent
    split at moved
    · cases moved
      exact ⟨rfl,rfl⟩
    · split at moved
      · cases moved
        exact ⟨rfl,rfl⟩
      · cases moved
  · apply records_silent
    split at moved
    · cases moved
      exact ⟨rfl,rfl⟩
    · cases moved
  · apply records_silent
    split at moved
    · cases moved
      exact ⟨rfl,rfl⟩
    · cases moved
  · cases moved
    exact records_one rfl rfl fun _ member => .inl member
  · rename_i statusCode body
    split at moved
    · cases moved
      exact records_silent ⟨rfl,rfl⟩
    · rename_i answer received
      have completed : Observes transfer p (.main .completing) (.answer statusCode body) (.completed statusCode) :=
        ⟨⟨answer,received⟩,.inl rfl⟩
      dsimp only at moved
      split at moved
      · cases moved
        exact records_one rfl completed fun _ member => .inl member
      · rename_i running
        split at moved
        · cases moved
          refine ⟨[.completed statusCode,.deleted p.successfullyTransferredAssetIds],?_,?_,fun _ member => .inl member⟩
          · exact List.append_assoc _ _ _
          · intro observation member
            rcases List.mem_cons.mp member with rfl | rest
            · exact completed
            · cases List.mem_singleton.mp rest
              exact ⟨⟨answer,received⟩,.inr ⟨rfl,by simpa using running⟩⟩
        · cases moved
          exact records_one rfl completed fun _ member => .inl member
  all_goals first | cases moved; exact records_silent ⟨rfl,rfl⟩ | cases moved

theorem coroutine_records {t : Coroutine} {next : Pipeline × Coroutine}
    (moved : stepCoroutine transfer p t input = some next) : Records transfer p t input next.1 := by
  cases t with
  | main phase =>
      obtain ⟨after,step,rfl⟩ := Option.map_eq_some_iff.mp moved
      exact main_records step
  | prepare phase =>
      obtain ⟨after,step,rfl⟩ := Option.map_eq_some_iff.mp moved
      exact prepare_records step
  | existence phase =>
      obtain ⟨after,step,rfl⟩ := Option.map_eq_some_iff.mp moved
      exact existence_records step
  | upload phase =>
      obtain ⟨after,step,rfl⟩ := Option.map_eq_some_iff.mp moved
      exact upload_records step

-- The desktop reports matches only among the assets it was asked about.
def answersBatch (transfer : Transfer) : Coroutine → Input → Bool
  | .existence (.checking batch),.answer statusCode body =>
    match transfer.link.receive .existence statusCode body with
    | .ok answer => (answerMatches answer).all fun assetId => assetId ∈ batch.map PreparedAssetWork.assetId
    | .error _ => true
  | _,_ => true

theorem answersBatch_parts {batch : List PreparedAssetWork} {statusCode : Nat} {body : Fields} {answer : Json}
    (answers : answersBatch transfer (.existence (.checking batch)) (.answer statusCode body) = true)
    (received : transfer.link.receive .existence statusCode body = .ok answer) :
    answerMatches answer ⊆ batch.map PreparedAssetWork.assetId := by
  intro assetId member
  simp only [answersBatch,received,List.all_eq_true,decide_eq_true_eq] at answers
  exact answers assetId member

def numberedPhoto (n : Nat) : NormalizedTransferAsset :=
  ⟨"asset-" ++ toString n,⟨none,some 1,some "2024-01-01T00:00:00Z"⟩,⟨none,none,none,none⟩⟩

def plainLink (transport : Transport) : Link :=
  ⟨transport,⟨fun _ => "",fun _ _ _ => "",fun _ _ _ => none⟩,none,"request-1"⟩

def photoTransfer (transport : Transport) (n : Nat) : Transfer :=
  ⟨(List.range n).map numberedPhoto,plainLink transport,true⟩

def hash : Input := .hashed (some "86f7e437faa5a7fce15d1ddcb9eaeaea377667b8")
def noMatches : Input := .answer 200 [("matches",.array [])]
def stored : Input := .answer 200 [("status",.string "stored")]

end ImageSearch.PipelineSteps
