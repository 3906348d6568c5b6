import ImageSearch.PipelineSteps

namespace ImageSearch.AssetAccounts
open AsyncQueue TransferPipeline PipelineSteps

variable {transfer : Transfer} {p p' : Pipeline} {f : String → Nat} {input : Input}

def weigh (f : String → Nat) (asset : NormalizedTransferAsset) : Nat := f asset.assetId
def weighWork (f : String → Nat) (work : PreparedAssetWork) : Nat := f work.assetId

-- What an observation puts on record of the assets: each one handed to an upload, each
-- one of a batch that was matched.
def recorded (f : String → Nat) : Observation → Nat
  | .handed assetId => f assetId
  | .checked assetIds matched => ((assetIds.filter fun assetId => assetId ∈ matched).map f).sum
  | _ => 0

def recordedWeight (f : String → Nat) (p : Pipeline) : Nat := (p.observed.map (recorded f)).sum

def pipelineWeight (transfer : Transfer) (f : String → Nat) (p : Pipeline) : Nat :=
  ((transfer.assets.drop p.prepareNextIndex).map (weigh f)).sum + p.preparedAssetQueue.weight (weighWork f) +
    p.uploadAssetQueue.weight (weigh f) + recordedWeight f p

def heldWeight (f : String → Nat) : Coroutine → Nat
  | .prepare (.preparing asset) => weigh f asset
  | .existence (.publishing batch) | .existence (.checking batch) => (batch.map (weighWork f)).sum
  | _ => 0

def owed : Observation → Nat
  | .handed _ => 1
  | .checked _ matched => matched.length
  | _ => 0

def owedTotal (p : Pipeline) : Nat := (p.observed.map owed).sum

def countedAssets (p : Pipeline) : Nat := p.matchedAssets + p.transferredAssets + p.failedAssets

def inFlight : Coroutine → Nat
  | .upload (.publishing _) | .upload (.uploading ..) | .upload (.reconnecting ..) => 1
  | _ => 0

structure Conserves (transfer : Transfer) (f : String → Nat) (p : Pipeline) (t : Coroutine) (p' : Pipeline)
    (t' : Coroutine) : Prop where
  weight : pipelineWeight transfer f p' + heldWeight f t' = pipelineWeight transfer f p + heldWeight f t
  counted : countedAssets p' + inFlight t' + owedTotal p = countedAssets p + inFlight t + owedTotal p'

theorem conserves_trans {middle : Pipeline} {t between t' : Coroutine} (one : Conserves transfer f p t middle between)
    (two : Conserves transfer f middle between p' t') : Conserves transfer f p t p' t' := by
  obtain ⟨weight,counted⟩ := one
  obtain ⟨weight',counted'⟩ := two
  exact ⟨by omega,by omega⟩

theorem observe_weight {observation : Observation} :
    recordedWeight f (p.observe observation) = recordedWeight f p + recorded f observation := by
  simp [recordedWeight,Pipeline.observe]

theorem observe_owed {observation : Observation} : owedTotal (p.observe observation) = owedTotal p + owed observation := by
  simp [owedTotal,Pipeline.observe]

theorem rest_taken {assets : List NormalizedTransferAsset} {index : Nat} {asset : NormalizedTransferAsset}
    (here : assets[index]? = some asset) :
    ((assets.drop (index+1)).map (weigh f)).sum + weigh f asset = ((assets.drop index).map (weigh f)).sum := by
  obtain ⟨within,rfl⟩ := List.getElem?_eq_some_iff.mp here
  rw [List.drop_eq_getElem_cons within,List.map_cons,List.sum_cons,Nat.add_comm]

theorem rest_ended {assets : List NormalizedTransferAsset} {index : Nat} (beyond : assets[index]? = none) :
    ((assets.drop (index+1)).map (weigh f)).sum = ((assets.drop index).map (weigh f)).sum := by
  have ended := List.getElem?_eq_none_iff.mp beyond
  rw [List.drop_eq_nil_of_le ended,List.drop_eq_nil_of_le (Nat.le_succ_of_le ended)]

theorem prepareHead_conserves : Conserves transfer f p (.prepare .ready) (prepareHead transfer p).1
    (.prepare (prepareHead transfer p).2) := by
  unfold prepareHead
  split
  · exact ⟨rfl,rfl⟩
  · split
    · exact ⟨rfl,rfl⟩
    · split
      · rename_i beyond
        refine ⟨?_,rfl⟩
        simp only [pipelineWeight,rest_ended beyond]
        rfl
      · rename_i asset here
        refine ⟨?_,rfl⟩
        have taken := rest_taken (f := f) here
        simp only [pipelineWeight,heldWeight,recordedWeight]
        omega

def Opened (p : Pipeline) (t : Coroutine) : Prop :=
  (livePrepare t = 1 → p.preparedAssetQueue.closed = false ∧ p.uploadAssetQueue.closed = false) ∧
    (liveExistence t = 1 → p.uploadAssetQueue.closed = false)

theorem hand_conserves {asset : NormalizedTransferAsset} {sha1 : String}
    (opened : p.preparedAssetQueue.closed = false ∧ p.uploadAssetQueue.closed = false) :
    Conserves transfer f p (.prepare (.preparing asset)) (handCandidate p asset sha1) (.prepare .ready) := by
  unfold handCandidate
  split
  · refine ⟨?_,rfl⟩
    simp only [pipelineWeight,heldWeight,recordedWeight,push_weight opened.1]
    simp only [weighWork,PreparedAssetWork.assetId,weigh]
    omega
  · refine ⟨?_,rfl⟩
    simp only [pipelineWeight,heldWeight,recordedWeight,push_weight opened.2]
    omega

theorem prepareHead_error : (prepareHead transfer p).1.pipelineError = p.pipelineError := by
  unfold prepareHead
  split
  · rfl
  · split
    · rfl
    · split <;> rfl

theorem prepare_conserves {phase : PreparePhase} {next : Pipeline × PreparePhase} (opened : Opened p (.prepare phase))
    (fine : next.1.pipelineError = false) (moved : stepPrepare transfer p phase input = some next) :
    Conserves transfer f p (.prepare phase) next.1 (.prepare next.2) := by
  unfold stepPrepare at moved
  split at moved
  · cases moved
    exact prepareHead_conserves
  · rename_i asset
    split at moved
    · cases moved
      exact conserves_trans (hand_conserves (opened.1 rfl)) prepareHead_conserves
    · rename_i sha1 _
      cases moved
      have handed : Conserves transfer f p (.prepare (.preparing (asset.withSha1 sha1)))
        (handCandidate p (asset.withSha1 sha1) sha1) (.prepare .ready) := hand_conserves (opened.1 rfl)
      exact conserves_trans ⟨handed.weight,handed.counted⟩ prepareHead_conserves
    · cases moved
      simp [prepareHead_error] at fine
    · cases moved
  · cases moved

theorem existenceHead_conserves : Conserves transfer f p (.existence .ready) (existenceHead p).1
    (.existence (existenceHead p).2) := by
  unfold existenceHead
  split
  · exact ⟨rfl,rfl⟩
  · refine ⟨?_,rfl⟩
    simp only [pipelineWeight,heldWeight,recordedWeight,shift_weight]

theorem fill_whole {Item : Type} {pending items : List Item}
    (room : pending.length + items.length ≤ transferExistenceBatchSize) :
    fillBatch pending items = (pending ++ items,items.length) := by
  induction items generalizing pending with
  | nil => simp [fillBatch]
  | cons next items ih =>
      rw [List.length_cons] at room
      have below : pending.length < transferExistenceBatchSize := by omega
      have rest := @ih (pending ++ [next]) (by rw [List.length_append,List.length_singleton]; omega)
      simp [fillBatch,below,rest]

theorem pushes_weight {works : List PreparedAssetWork} {queue : Queue NormalizedTransferAsset}
    (opened : queue.closed = false) :
    (works.foldl (fun queue work => queue.push work.asset) queue).weight (weigh f) =
      queue.weight (weigh f) + (works.map (weighWork f)).sum := by
  induction works generalizing queue with
  | nil => rfl
  | cons work works ih =>
      rw [List.foldl_cons,ih (push_closed.trans opened),push_weight opened,List.map_cons,List.sum_cons]
      exact Nat.add_assoc _ _ _

theorem sum_split {Item : Type} (g : Item → Nat) (keep : Item → Bool) (items : List Item) :
    (items.map g).sum = ((items.filter keep).map g).sum + ((items.filter fun item => !keep item).map g).sum := by
  induction items with
  | nil => rfl
  | cons item items ih =>
      cases kept : keep item with
      | true => simp only [List.filter_cons,kept,List.map_cons,List.sum_cons,if_true,Bool.not_true]; simp; omega
      | false => simp only [List.filter_cons,kept,List.map_cons,List.sum_cons,Bool.not_false,if_true]; simp; omega

theorem batch_split {batch : List PreparedAssetWork} {matched : List String} :
    (batch.map (weighWork f)).sum =
      (((batch.map PreparedAssetWork.assetId).filter fun assetId => assetId ∈ matched).map f).sum +
        ((batch.filter fun work => work.assetId ∉ matched).map (weighWork f)).sum := by
  rw [sum_split (weighWork f) (fun work => work.assetId ∈ matched) batch,List.filter_map,List.map_map]
  congr 2
  simp

theorem match_conserves {batch : List PreparedAssetWork} {matched : List String}
    (opened : p.uploadAssetQueue.closed = false) :
    Conserves transfer f p (.existence (.checking batch)) (matchBatch p batch matched) (.existence .published) := by
  have parts := @batch_split f batch matched
  refine ⟨?_,?_⟩
  · simp only [pipelineWeight,heldWeight,recordedWeight,matchBatch,pushes_weight opened,List.map_append,List.map_cons,
      List.map_nil,List.sum_append,List.sum_cons,List.sum_nil,recorded]
    omega
  · simp only [countedAssets,inFlight,owedTotal,matchBatch,List.map_append,List.map_cons,List.map_nil,List.sum_append,
      List.sum_cons,List.sum_nil,owed]
    omega

def roomInBatch (p : Pipeline) : Coroutine → Bool
  | .existence (.awaiting promise) =>
    match p.preparedAssetQueue.take promise with
    | some (nextPrepared,queue) => nextPrepared.toList.length + queue.items.length ≤ transferExistenceBatchSize
    | none => true
  | _ => true

theorem existence_conserves {phase : ExistencePhase} {next : Pipeline × ExistencePhase}
    (opened : Opened p (.existence phase)) (room : roomInBatch p (.existence phase) = true)
    (fine : next.1.pipelineError = false) (moved : stepExistence transfer p phase input = some next) :
    Conserves transfer f p (.existence phase) next.1 (.existence next.2) := by
  unfold stepExistence at moved
  split at moved
  · cases moved
    exact existenceHead_conserves
  · rename_i promise
    split at moved
    · cases moved
    · rename_i nextPrepared queue taken
      simp only [roomInBatch,taken,decide_eq_true_eq] at room
      have whole := fill_whole room
      have received := take_weight (f := weighWork f) taken
      have drained : Conserves transfer f p (.existence (.awaiting promise))
          {p with preparedAssetQueue:=queue.dropItems queue.items.length}
          (.existence (.publishing (nextPrepared.toList ++ queue.items))) := by
        have dropped := @dropItems_weight _ queue (weighWork f) queue.items.length
        rw [List.take_length] at dropped
        refine ⟨?_,rfl⟩
        simp only [pipelineWeight,heldWeight,recordedWeight,List.map_append,List.sum_append]
        cases nextPrepared with
        | none => simp only [Option.elim_none,Option.toList_none,List.map_nil,List.sum_nil] at received ⊢; omega
        | some work =>
            simp only [Option.elim_some,Option.toList_some,List.map_cons,List.map_nil,List.sum_cons,List.sum_nil]
              at received ⊢
            omega
      dsimp only at moved
      rw [whole] at moved
      split at moved
      · rename_i empty
        dsimp only at empty
        rw [empty] at drained
        have ready : Conserves transfer f p (.existence (.awaiting promise))
          {p with preparedAssetQueue:=queue.dropItems queue.items.length} (.existence .ready) :=
          ⟨drained.weight,drained.counted⟩
        split at moved
        · cases moved
          exact conserves_trans ready ⟨rfl,rfl⟩
        · cases moved
          exact conserves_trans ready existenceHead_conserves
      · cases moved
        rw [List.take_of_length_le (by rw [List.length_append]; exact room)]
        exact drained
  · cases moved
    exact ⟨rfl,rfl⟩
  · split at moved
    · cases moved
      simp [settleExistence] at fine
    · split at moved
      · cases moved
        simp [settleExistence] at fine
      · cases moved
        exact match_conserves (opened.2 rfl)
  · cases moved
    simp [settleExistence] at fine
  · cases moved
    have head : Conserves transfer f p (.existence .ready) _ _ := existenceHead_conserves
    exact ⟨head.weight,head.counted⟩
  · cases moved

theorem uploadHead_conserves : Conserves transfer f p (.upload .ready) (uploadHead p).1 (.upload (uploadHead p).2) := by
  unfold uploadHead
  split
  · exact ⟨rfl,rfl⟩
  · refine ⟨?_,rfl⟩
    simp only [pipelineWeight,heldWeight,recordedWeight,shift_weight]

theorem uploadHead_error : (uploadHead p).1.pipelineError = p.pipelineError := by
  unfold uploadHead
  split <;> rfl

theorem uploadFailed_conserves {phase : UploadPhase} (flying : inFlight (.upload phase) = 1)
    (fine : (uploadFailed p).1.pipelineError = false) :
    Conserves transfer f p (.upload phase) (uploadFailed p).1 (.upload (uploadFailed p).2) := by
  have empty : heldWeight f (.upload phase) = 0 := by cases phase <;> rfl
  unfold uploadFailed at fine ⊢
  dsimp only at fine ⊢
  split at fine
  · simp [uploadHead_error] at fine
  · rename_i few
    rw [if_neg few]
    refine conserves_trans ⟨?_,?_⟩ uploadHead_conserves
    · rw [empty]; rfl
    · rw [flying]
      simp only [countedAssets,inFlight,owedTotal]
      omega

theorem uploadBroken_conserves {asset : NormalizedTransferAsset} {attempt : Nat} {connectionLost : Bool}
    (fine : (uploadBroken transfer p asset attempt connectionLost).1.pipelineError = false) :
    Conserves transfer f p (.upload (.uploading asset attempt)) (uploadBroken transfer p asset attempt connectionLost).1
      (.upload (uploadBroken transfer p asset attempt connectionLost).2) := by
  unfold uploadBroken at fine ⊢
  split at fine
  · rename_i retried
    rw [if_pos retried]
    exact ⟨rfl,rfl⟩
  · rename_i given
    rw [if_neg given]
    exact uploadFailed_conserves rfl fine

theorem uploadAnswered_conserves {asset : NormalizedTransferAsset} {attempt statusCode : Nat} {status : Option String} :
    Conserves transfer f p (.upload (.uploading asset attempt)) (uploadAnswered p asset statusCode status)
      (.upload .counted) := by
  have still : ∀ q : Pipeline, recordedWeight f (q.observe (.uploaded asset.assetId statusCode status)) =
    recordedWeight f q := fun q => observe_weight
  have same : ∀ q : Pipeline, owedTotal (q.observe (.uploaded asset.assetId statusCode status)) = owedTotal q :=
    fun q => observe_owed
  unfold uploadAnswered
  dsimp only
  split
  · refine ⟨congrArg (_ + ·) (still p),?_⟩
    have owes := same p
    simp only [owedTotal,countedAssets,inFlight,Pipeline.observe,Pipeline.addTransferred] at owes ⊢
    omega
  · have owes := same p
    split
    · refine ⟨congrArg (_ + ·) (still p),?_⟩
      simp only [owedTotal,countedAssets,inFlight,Pipeline.observe,Pipeline.addTransferred] at owes ⊢
      omega
    · refine ⟨congrArg (_ + ·) (still p),?_⟩
      simp only [owedTotal,countedAssets,inFlight,Pipeline.observe] at owes ⊢
      omega

theorem upload_conserves {phase : UploadPhase} {next : Pipeline × UploadPhase} (fine : next.1.pipelineError = false)
    (moved : stepUpload transfer p phase input = some next) :
    Conserves transfer f p (.upload phase) next.1 (.upload next.2) := by
  unfold stepUpload at moved
  split at moved
  · cases moved
    exact uploadHead_conserves
  · rename_i promise
    split at moved
    · cases moved
    · rename_i queue taken
      have received := take_weight (f := weigh f) taken
      cases moved
      refine ⟨?_,rfl⟩
      simp only [pipelineWeight,heldWeight,recordedWeight]
      simp only [Option.elim_none] at received
      omega
    · rename_i asset queue taken
      have received := take_weight (f := weigh f) taken
      simp only [Option.elim_some] at received
      have handed : Conserves transfer f p (.upload (.awaiting promise))
          ({p with uploadAssetQueue:=queue}.observe (.handed asset.assetId)) (.upload (.publishing asset)) := by
        have weight : recordedWeight f ({p with uploadAssetQueue:=queue}.observe (.handed asset.assetId)) =
          recordedWeight f p + weigh f asset := observe_weight
        have owes : owedTotal ({p with uploadAssetQueue:=queue}.observe (.handed asset.assetId)) = owedTotal p + 1 :=
          observe_owed
        refine ⟨?_,?_⟩
        · simp only [pipelineWeight,heldWeight,weight]
          simp only [Pipeline.observe]
          omega
        · simp only [owes]
          simp only [countedAssets,inFlight,Pipeline.observe]
          omega
      dsimp only at moved
      split at moved
      · cases moved
        simp [uploadHead_error] at fine
      · cases moved
        exact handed
  · cases moved
    exact ⟨rfl,rfl⟩
  · split at moved
    · cases moved
      exact uploadBroken_conserves fine
    · cases moved
      exact uploadAnswered_conserves
  · cases moved
    exact uploadBroken_conserves fine
  · split at moved
    · cases moved
      exact ⟨rfl,rfl⟩
    · cases moved
      exact uploadFailed_conserves rfl fine
  · cases moved
    have head : Conserves transfer f p (.upload .ready) _ _ := uploadHead_conserves
    exact ⟨head.weight,head.counted⟩
  · cases moved

theorem main_conserves {phase : MainPhase} {next : Pipeline × MainPhase}
    (moved : stepMain transfer p phase input = some next) :
    Conserves transfer f p (.main phase) next.1 (.main next.2) := by
  have quiet : ∀ (before after : MainPhase) (q : Pipeline) (observation : Observation), recorded f observation = 0 →
      owed observation = 0 → Conserves transfer f q (.main before) (q.observe observation) (.main after) := by
    intro before after q observation none free
    refine ⟨?_,?_⟩
    · simp only [pipelineWeight,heldWeight,observe_weight,none]
      rfl
    · simp only [observe_owed,free]
      rfl
  unfold stepMain at moved
  split at moved
  · split at moved
    · cases moved
      exact ⟨rfl,rfl⟩
    · split at moved
      · cases moved
        refine ⟨?_,rfl⟩
        simp only [pipelineWeight,heldWeight,recordedWeight,close_weight]
      · cases moved
  · split at moved
    · cases moved
      refine ⟨?_,rfl⟩
      simp only [pipelineWeight,heldWeight,recordedWeight,close_weight]
    · cases moved
  · split at moved
    · cases moved
      exact ⟨rfl,rfl⟩
    · cases moved
  · cases moved
    exact quiet _ _ p .completing rfl rfl
  · rename_i statusCode body
    split at moved
    · cases moved
      exact ⟨rfl,rfl⟩
    · dsimp only at moved
      split at moved
      · cases moved
        exact quiet _ _ p (.completed statusCode) rfl rfl
      · split at moved
        · cases moved
          exact conserves_trans (quiet _ .completing p (.completed statusCode) rfl rfl)
            (quiet _ _ (p.observe (.completed statusCode)) (.deleted p.successfullyTransferredAssetIds) rfl rfl)
        · cases moved
          exact quiet _ _ p (.completed statusCode) rfl rfl
  all_goals first | cases moved; exact ⟨rfl,rfl⟩ | cases moved

theorem coroutine_conserves {t : Coroutine} {next : Pipeline × Coroutine} (opened : Opened p t) (room : roomInBatch p t = true)
    (fine : next.1.pipelineError = false) (moved : stepCoroutine transfer p t input = some next) :
    Conserves transfer f p t next.1 next.2 := by
  cases t with
  | main phase =>
      obtain ⟨after,step,rfl⟩ := Option.map_eq_some_iff.mp moved
      exact main_conserves step
  | prepare phase =>
      obtain ⟨after,step,rfl⟩ := Option.map_eq_some_iff.mp moved
      exact prepare_conserves opened fine step
  | existence phase =>
      obtain ⟨after,step,rfl⟩ := Option.map_eq_some_iff.mp moved
      exact existence_conserves opened room fine step
  | upload phase =>
      obtain ⟨after,step,rfl⟩ := Option.map_eq_some_iff.mp moved
      exact upload_conserves fine step

end ImageSearch.AssetAccounts
