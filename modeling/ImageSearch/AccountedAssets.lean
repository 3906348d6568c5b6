import ImageSearch.AssetAccounts
import Mathlib.Algebra.Order.BigOperators.Group.Finset
import Mathlib.Data.Fintype.BigOperators

namespace ImageSearch.AccountedAssets
open Transitions Threads AsyncQueue TransferPipeline PipelineSteps AssetAccounts

variable {transfer : Transfer} {p p' : Pipeline} {input : Input}

def Finished (transfer : Transfer) (p : Pipeline) : Prop :=
  p.prepareSettled = prepareWorkerCount transfer.assets ∧ p.existenceSettled = 1 ∧
    p.uploadSettled = uploadWorkerCount transfer.assets ∧ p.pipelineError = false

def Stands (transfer : Transfer) (p : Pipeline) : Coroutine → Prop
  | .main .checking => p.prepareSettled = prepareWorkerCount transfer.assets
  | .main .uploading => p.prepareSettled = prepareWorkerCount transfer.assets ∧ p.existenceSettled = 1
  | .main .publishing => Finished transfer p
  | _ => True

-- How a step that leaves the pipeline running ends workers and closes queues.
structure Advances (transfer : Transfer) (p p' : Pipeline) : Prop where
  prepares : p'.preparedAssetQueue.closed = true → p.preparedAssetQueue.closed = true ∨
    p.prepareSettled = prepareWorkerCount transfer.assets ∧ p.prepareRejected = false
  checks : p'.uploadAssetQueue.closed = true → p.uploadAssetQueue.closed = true ∨
    p.prepareSettled = prepareWorkerCount transfer.assets ∧ p.existenceSettled = 1
  ended : p'.prepareSettled ≤ p.prepareSettled ∨ p'.prepareRejected = true ∨
    transfer.assets.length ≤ p'.prepareNextIndex
  checked : p'.existenceSettled ≤ p.existenceSettled ∨ p'.preparedAssetQueue.Drained
  sent : p'.uploadSettled ≤ p.uploadSettled ∨ p'.uploadAssetQueue.Drained

structure Quiet (p p' : Pipeline) : Prop where
  prepares : p'.preparedAssetQueue.closed = p.preparedAssetQueue.closed
  checks : p'.uploadAssetQueue.closed = p.uploadAssetQueue.closed
  ended : p'.prepareSettled = p.prepareSettled
  checked : p'.existenceSettled = p.existenceSettled
  sent : p'.uploadSettled = p.uploadSettled
  rejected : p'.prepareRejected = p.prepareRejected

theorem advances_after {middle : Pipeline} (quiet : Quiet p middle) (after : Advances transfer middle p') :
    Advances transfer p p' := by
  obtain ⟨one,two,three,four,five,six⟩ := quiet
  obtain ⟨prepares,checks,ended,checked,sent⟩ := after
  rw [one,three,six] at prepares
  rw [two,three,four] at checks
  rw [three] at ended
  rw [four] at checked
  rw [five] at sent
  exact ⟨prepares,checks,ended,checked,sent⟩

theorem advances_quiet (quiet : Quiet p p') : Advances transfer p p' :=
  advances_after quiet ⟨.inl,.inl,.inl (Nat.le_refl _),.inl (Nat.le_refl _),.inl (Nat.le_refl _)⟩

theorem hand_quiet {asset : NormalizedTransferAsset} {sha1 : String} : Quiet p (handCandidate p asset sha1) := by
  unfold handCandidate
  split
  · exact ⟨push_closed,rfl,rfl,rfl,rfl,rfl⟩
  · exact ⟨rfl,push_closed,rfl,rfl,rfl,rfl⟩

theorem prepareHead_advances (fine : p.pipelineError = false) : Advances transfer p (prepareHead transfer p).1 := by
  unfold prepareHead
  split
  · rename_i failed
    cases fine.symm.trans failed
  · split
    · exact ⟨.inl,.inl,.inr (.inl rfl),.inl (Nat.le_refl _),.inl (Nat.le_refl _)⟩
    · split
      · rename_i beyond
        have past : transfer.assets.length ≤ p.prepareNextIndex := List.getElem?_eq_none_iff.mp beyond
        exact ⟨.inl,.inl,.inr (.inr (Nat.le_succ_of_le past)),.inl (Nat.le_refl _),.inl (Nat.le_refl _)⟩
      · exact advances_quiet ⟨rfl,rfl,rfl,rfl,rfl,rfl⟩

theorem existenceHead_quiet (fine : p.pipelineError = false) : Quiet p (existenceHead p).1 := by
  unfold existenceHead
  split
  · rename_i failed
    cases fine.symm.trans failed
  · exact ⟨shift_closed,rfl,rfl,rfl,rfl,rfl⟩

theorem uploadHead_quiet (fine : p.pipelineError = false) : Quiet p (uploadHead p).1 := by
  unfold uploadHead
  split
  · rename_i failed
    cases fine.symm.trans failed
  · exact ⟨rfl,shift_closed,rfl,rfl,rfl,rfl⟩

theorem prepare_advances {phase : PreparePhase} {next : Pipeline × PreparePhase} (fine : next.1.pipelineError = false)
    (moved : stepPrepare transfer p phase input = some next) : Advances transfer p next.1 := by
  unfold stepPrepare at moved
  split at moved
  · cases moved
    rw [prepareHead_error] at fine
    exact prepareHead_advances fine
  · split at moved
    · cases moved
      rw [prepareHead_error] at fine
      exact advances_after hand_quiet (prepareHead_advances fine)
    · cases moved
      rw [prepareHead_error] at fine
      exact advances_after hand_quiet (prepareHead_advances fine)
    · cases moved
      simp [prepareHead_error] at fine
    · cases moved
  · cases moved

theorem pushes_closed {works : List PreparedAssetWork} {queue : Queue NormalizedTransferAsset} :
    (works.foldl (fun queue work => queue.push work.asset) queue).closed = queue.closed := by
  induction works generalizing queue with
  | nil => rfl
  | cons work works ih => exact ih.trans push_closed

theorem existence_advances {phase : ExistencePhase} {next : Pipeline × ExistencePhase}
    (fine : next.1.pipelineError = false) (moved : stepExistence transfer p phase input = some next) :
    Advances transfer p next.1 := by
  have running : p.pipelineError = false := by
    by_contra failed
    have still := (existence_keeps moved).error (by simpa using failed)
    cases fine.symm.trans still
  unfold stepExistence at moved
  split at moved
  · cases moved
    exact advances_quiet (existenceHead_quiet running)
  · split at moved
    · cases moved
    · rename_i nextPrepared queue taken
      have drained : ∀ count, Quiet p {p with preparedAssetQueue:=queue.dropItems count} := fun count =>
        ⟨(take_parts taken).2.2.1,rfl,rfl,rfl,rfl,rfl⟩
      dsimp only at moved
      split at moved
      · split at moved
        · rename_i ended
          cases moved
          rw [Option.isNone_iff_eq_none.mp ended] at taken
          exact ⟨fun shut => .inl ((take_parts taken).2.2.1.symm.trans shut),.inl,.inl (Nat.le_refl _),
            .inr (dropItems_drained (take_drained (take_ended taken) taken)),.inl (Nat.le_refl _)⟩
        · cases moved
          exact advances_after (drained _) (advances_quiet (existenceHead_quiet running))
      · cases moved
        exact advances_quiet (drained _)
  · cases moved
    exact advances_quiet ⟨rfl,rfl,rfl,rfl,rfl,rfl⟩
  · split at moved
    · cases moved
      simp [settleExistence] at fine
    · split at moved
      · cases moved
        simp [settleExistence] at fine
      · cases moved
        exact advances_quiet ⟨rfl,pushes_closed,rfl,rfl,rfl,rfl⟩
  · cases moved
    simp [settleExistence] at fine
  · cases moved
    exact advances_quiet (existenceHead_quiet running)
  · cases moved

theorem uploadFailed_quiet (fine : (uploadFailed p).1.pipelineError = false) : Quiet p (uploadFailed p).1 := by
  unfold uploadFailed at fine ⊢
  dsimp only at fine ⊢
  rw [uploadHead_error] at fine
  split at fine
  · simp at fine
  · rename_i few
    rw [if_neg few]
    have head := @uploadHead_quiet {p with
      failedAssets:=p.failedAssets+1
      consecutiveUploadFailures:=p.consecutiveUploadFailures+1} fine
    exact ⟨head.prepares,head.checks,head.ended,head.checked,head.sent,head.rejected⟩

theorem uploadBroken_quiet {asset : NormalizedTransferAsset} {attempt : Nat} {connectionLost : Bool}
    (fine : (uploadBroken transfer p asset attempt connectionLost).1.pipelineError = false) :
    Quiet p (uploadBroken transfer p asset attempt connectionLost).1 := by
  unfold uploadBroken at fine ⊢
  split at fine
  · rename_i retried
    rw [if_pos retried]
    exact ⟨rfl,rfl,rfl,rfl,rfl,rfl⟩
  · rename_i given
    rw [if_neg given]
    exact uploadFailed_quiet fine

theorem uploadAnswered_quiet {asset : NormalizedTransferAsset} {statusCode : Nat} {status : Option String} :
    Quiet p (uploadAnswered p asset statusCode status) := by
  unfold uploadAnswered
  dsimp only
  split
  · exact ⟨rfl,rfl,rfl,rfl,rfl,rfl⟩
  · split <;> exact ⟨rfl,rfl,rfl,rfl,rfl,rfl⟩

theorem upload_advances {phase : UploadPhase} {next : Pipeline × UploadPhase} (fine : next.1.pipelineError = false)
    (moved : stepUpload transfer p phase input = some next) : Advances transfer p next.1 := by
  unfold stepUpload at moved
  split at moved
  · cases moved
    rw [uploadHead_error] at fine
    exact advances_quiet (uploadHead_quiet fine)
  · split at moved
    · cases moved
    · rename_i queue taken
      cases moved
      exact ⟨.inl,fun shut => .inl ((take_parts taken).2.2.1.symm.trans shut),.inl (Nat.le_refl _),.inl (Nat.le_refl _),
        .inr (take_drained (take_ended taken) taken)⟩
    · rename_i queue taken
      dsimp only at moved
      split at moved
      · cases moved
        simp [uploadHead_error] at fine
      · cases moved
        exact advances_quiet ⟨rfl,(take_parts taken).2.2.1,rfl,rfl,rfl,rfl⟩
  · cases moved
    exact advances_quiet ⟨rfl,rfl,rfl,rfl,rfl,rfl⟩
  · split at moved
    · cases moved
      exact advances_quiet (uploadBroken_quiet fine)
    · cases moved
      exact advances_quiet uploadAnswered_quiet
  · cases moved
    exact advances_quiet (uploadBroken_quiet fine)
  · split at moved
    · cases moved
      exact advances_quiet ⟨rfl,rfl,rfl,rfl,rfl,rfl⟩
    · cases moved
      exact advances_quiet (uploadFailed_quiet fine)
  · cases moved
    rw [uploadHead_error] at fine
    exact advances_quiet (uploadHead_quiet fine)
  · cases moved

-- startTransfer closes a queue once the workers that feed it have ended, and is at its
-- next await; it fails nothing itself.
theorem main_advances {phase : MainPhase} {next : Pipeline × MainPhase} (stands : Stands transfer p (.main phase))
    (moved : stepMain transfer p phase input = some next) :
    Advances transfer p next.1 ∧ next.1.pipelineError = p.pipelineError ∧ Stands transfer next.1 (.main next.2) := by
  have same : Advances transfer p p := advances_quiet ⟨rfl,rfl,rfl,rfl,rfl,rfl⟩
  unfold stepMain at moved
  split at moved
  · split at moved
    · cases moved
      exact ⟨same,rfl,trivial⟩
    · rename_i accepted
      split at moved
      · rename_i ended
        cases moved
        exact ⟨⟨fun _ => .inr ⟨ended,by simpa using accepted⟩,.inl,.inl (Nat.le_refl _),.inl (Nat.le_refl _),
          .inl (Nat.le_refl _)⟩,rfl,ended⟩
      · cases moved
  · split at moved
    · rename_i ended
      cases moved
      exact ⟨⟨.inl,fun _ => .inr ⟨stands,ended⟩,.inl (Nat.le_refl _),.inl (Nat.le_refl _),.inl (Nat.le_refl _)⟩,rfl,
        stands,ended⟩
    · cases moved
  · split at moved
    · rename_i ended
      cases moved
      refine ⟨same,rfl,?_⟩
      dsimp only
      split
      · trivial
      · rename_i running
        exact ⟨stands.1,stands.2,ended,by simpa using running⟩
    · cases moved
  · cases moved
    exact ⟨advances_quiet ⟨rfl,rfl,rfl,rfl,rfl,rfl⟩,rfl,trivial⟩
  · repeat' (first | split at moved | dsimp only at moved)
    all_goals
      cases moved
      exact ⟨advances_quiet ⟨rfl,rfl,rfl,rfl,rfl,rfl⟩,rfl,trivial⟩
  · cases moved
    exact ⟨same,rfl,trivial⟩
  · cases moved
    exact ⟨same,rfl,trivial⟩
  · cases moved
    refine ⟨same,rfl,?_⟩
    dsimp only
    split <;> trivial
  · cases moved
    exact ⟨same,rfl,trivial⟩
  · cases moved

theorem coroutine_advances {t : Coroutine} {next : Pipeline × Coroutine} (stands : Stands transfer p t)
    (fine : next.1.pipelineError = false) (moved : stepCoroutine transfer p t input = some next) :
    Advances transfer p next.1 := by
  cases t with
  | main phase =>
      obtain ⟨after,step,rfl⟩ := Option.map_eq_some_iff.mp moved
      exact (main_advances stands step).1
  | prepare phase =>
      obtain ⟨after,step,rfl⟩ := Option.map_eq_some_iff.mp moved
      exact prepare_advances fine step
  | existence phase =>
      obtain ⟨after,step,rfl⟩ := Option.map_eq_some_iff.mp moved
      exact existence_advances fine step
  | upload phase =>
      obtain ⟨after,step,rfl⟩ := Option.map_eq_some_iff.mp moved
      exact upload_advances fine step

theorem coroutine_live {t : Coroutine} {next : Pipeline × Coroutine}
    (moved : stepCoroutine transfer p t input = some next) :
    (∃ phase, t = .main phase) ∨ livePrepare t + liveExistence t + liveUpload t = 1 := by
  cases t with
  | main phase => exact .inl ⟨phase,rfl⟩
  | prepare phase => cases phase <;> first | exact .inr rfl | cases moved
  | existence phase => cases phase <;> first | exact .inr rfl | cases moved
  | upload phase => cases phase <;> first | exact .inr rfl | cases moved

theorem live_bound (t : Coroutine) : livePrepare t ≤ 1 ∧ liveExistence t ≤ 1 ∧ liveUpload t ≤ 1 := by
  cases t with
  | main phase => exact ⟨Nat.zero_le _,Nat.zero_le _,Nat.zero_le _⟩
  | prepare phase => cases phase <;> simp [livePrepare,liveExistence,liveUpload]
  | existence phase => cases phase <;> simp [livePrepare,liveExistence,liveUpload]
  | upload phase => cases phase <;> simp [livePrepare,liveExistence,liveUpload]

theorem coroutine_rests {t : Coroutine} {next : Pipeline × Coroutine}
    (moved : stepCoroutine transfer p t input = some next) :
    livePrepare next.2 ≤ livePrepare t ∧ liveExistence next.2 ≤ liveExistence t ∧ liveUpload next.2 ≤ liveUpload t := by
  have live := coroutine_live moved
  cases t with
  | main phase =>
      obtain ⟨after,-,rfl⟩ := Option.map_eq_some_iff.mp moved
      exact ⟨Nat.le_refl _,Nat.le_refl _,Nat.le_refl _⟩
  | prepare phase =>
      obtain ⟨after,-,rfl⟩ := Option.map_eq_some_iff.mp moved
      have one : livePrepare (.prepare phase) = 1 := by simpa [liveExistence,liveUpload] using live
      exact ⟨by rw [one]; exact (live_bound _).1,Nat.le_refl _,Nat.le_refl _⟩
  | existence phase =>
      obtain ⟨after,-,rfl⟩ := Option.map_eq_some_iff.mp moved
      have one : liveExistence (.existence phase) = 1 := by simpa [livePrepare,liveUpload] using live
      exact ⟨Nat.le_refl _,by rw [one]; exact (live_bound _).2.1,Nat.le_refl _⟩
  | upload phase =>
      obtain ⟨after,-,rfl⟩ := Option.map_eq_some_iff.mp moved
      have one : liveUpload (.upload phase) = 1 := by simpa [livePrepare,liveExistence] using live
      exact ⟨Nat.le_refl _,Nat.le_refl _,by rw [one]; exact (live_bound _).2.2⟩

variable {s next : Pool (CoroutineId transfer) Pipeline Coroutine}

structure Running (transfer : Transfer) (s : Pool (CoroutineId transfer) Pipeline Coroutine) : Prop where
  weight : ∀ f, pipelineWeight transfer f s.world + ∑ i, heldWeight f (s.threads i) = (transfer.assets.map (weigh f)).sum
  counted : countedAssets s.world + ∑ i, inFlight (s.threads i) = owedTotal s.world
  prepared : s.world.preparedAssetQueue.closed = true →
    s.world.prepareSettled = prepareWorkerCount transfer.assets ∧ transfer.assets.length ≤ s.world.prepareNextIndex
  uploads : s.world.uploadAssetQueue.closed = true →
    s.world.prepareSettled = prepareWorkerCount transfer.assets ∧ s.world.existenceSettled = 1
  ended : 0 < s.world.prepareSettled →
    s.world.prepareRejected = true ∨ transfer.assets.length ≤ s.world.prepareNextIndex
  checked : 0 < s.world.existenceSettled → s.world.preparedAssetQueue.Drained
  sent : 0 < s.world.uploadSettled → s.world.uploadAssetQueue.Drained

structure Ledger (transfer : Transfer) (s : Pool (CoroutineId transfer) Pipeline Coroutine) : Prop where
  prepares : s.world.prepareSettled + ∑ i, livePrepare (s.threads i) = prepareWorkerCount transfer.assets
  checks : s.world.existenceSettled + ∑ i, liveExistence (s.threads i) = 1
  sends : s.world.uploadSettled + ∑ i, liveUpload (s.threads i) = uploadWorkerCount transfer.assets
  awaitsPrepared : s.world.preparedAssetQueue.outstanding = ∑ i, awaitsPrepared (s.threads i)
  awaitsUpload : s.world.uploadAssetQueue.outstanding = ∑ i, awaitsUpload (s.threads i)
  stands : ∀ i, Stands transfer s.world (s.threads i)
  completing : .completing ∈ s.world.observed → Finished transfer s.world
  answered : ∀ assetIds matched, .checked assetIds matched ∈ s.world.observed → matched.Nodup ∧ matched ⊆ assetIds
  running : s.world.pipelineError = false → Running transfer s

theorem live_counted (held : Coroutine → Nat) (i : CoroutineId transfer) :
    held (s.threads i) ≤ ∑ j, held (s.threads j) :=
  Finset.single_le_sum (f := fun j => held (s.threads j)) (fun _ _ => Nat.zero_le _) (Finset.mem_univ i)

theorem settled_kept {i : CoroutineId transfer} {after : Pipeline × Coroutine} (ledger : Ledger transfer s)
    (moved : stepCoroutine transfer s.world (s.threads i) input = some after) :
    (s.world.prepareSettled = prepareWorkerCount transfer.assets →
      after.1.prepareSettled = prepareWorkerCount transfer.assets) ∧
    (s.world.existenceSettled = 1 → after.1.existenceSettled = 1) ∧
    (s.world.uploadSettled = uploadWorkerCount transfer.assets →
      after.1.uploadSettled = uploadWorkerCount transfer.assets) := by
  have settles := coroutine_settles moved
  have rests := coroutine_rests moved
  have one := live_counted (s := s) livePrepare i
  have two := live_counted (s := s) liveExistence i
  have three := live_counted (s := s) liveUpload i
  have prepares := ledger.prepares
  have checks := ledger.checks
  have sends := ledger.sends
  have prepare := settles.prepare
  have existence := settles.existence
  have upload := settles.upload
  refine ⟨?_,?_,?_⟩
  · intro full; omega
  · intro full; omega
  · intro full; omega

theorem finished_kept {i : CoroutineId transfer} {after : Pipeline × Coroutine} (ledger : Ledger transfer s)
    (moved : stepCoroutine transfer s.world (s.threads i) input = some after) (finished : Finished transfer s.world) :
    Finished transfer after.1 := by
  obtain ⟨prepare,existence,upload,fine⟩ := finished
  obtain ⟨prepared,checked,sent⟩ := settled_kept ledger moved
  refine ⟨prepared prepare,checked existence,sent upload,?_⟩
  have one := live_counted (s := s) livePrepare i
  have two := live_counted (s := s) liveExistence i
  have three := live_counted (s := s) liveUpload i
  have prepares := ledger.prepares
  have checks := ledger.checks
  have sends := ledger.sends
  rcases coroutine_live moved with ⟨phase,main⟩ | live
  · have stands := ledger.stands i
    rw [main] at moved stands
    obtain ⟨next,step,rfl⟩ := Option.map_eq_some_iff.mp moved
    exact (main_advances stands step).2.1.trans fine
  · omega

theorem stands_kept {i j : CoroutineId transfer} {after : Pipeline × Coroutine} (ledger : Ledger transfer s)
    (moved : stepCoroutine transfer s.world (s.threads i) input = some after) :
    Stands transfer after.1 (s.threads j) := by
  have stands := ledger.stands j
  obtain ⟨prepared,checked,-⟩ := settled_kept ledger moved
  generalize s.threads j = other at stands ⊢
  cases other with
  | main phase =>
      cases phase with
      | checking => exact prepared stands
      | uploading => exact ⟨prepared stands.1,checked stands.2⟩
      | publishing => exact finished_kept ledger moved stands
      | _ => trivial
  | _ => trivial

theorem stands_next {i : CoroutineId transfer} {after : Pipeline × Coroutine} (ledger : Ledger transfer s)
    (moved : stepCoroutine transfer s.world (s.threads i) input = some after) : Stands transfer after.1 after.2 := by
  have stands := ledger.stands i
  generalize s.threads i = t at stands moved
  cases t with
  | main phase =>
      obtain ⟨next,step,rfl⟩ := Option.map_eq_some_iff.mp moved
      exact (main_advances stands step).2.2
  | prepare phase =>
      obtain ⟨next,-,rfl⟩ := Option.map_eq_some_iff.mp moved
      trivial
  | existence phase =>
      obtain ⟨next,-,rfl⟩ := Option.map_eq_some_iff.mp moved
      trivial
  | upload phase =>
      obtain ⟨next,-,rfl⟩ := Option.map_eq_some_iff.mp moved
      trivial

theorem running_opened (i : CoroutineId transfer) (ledger : Ledger transfer s) (running : Running transfer s) :
    Opened s.world (s.threads i) := by
  have prepares := ledger.prepares
  have checks := ledger.checks
  refine ⟨?_,?_⟩
  · intro live
    have one := live_counted (s := s) livePrepare i
    refine ⟨?_,?_⟩
    · by_contra shut
      have ended := (running.prepared (by simpa using shut)).1
      omega
    · by_contra shut
      have ended := (running.uploads (by simpa using shut)).1
      omega
  · intro live
    have one := live_counted (s := s) liveExistence i
    by_contra shut
    have ended := (running.uploads (by simpa using shut)).2
    omega

-- The condition of a run: the existence worker finds room for all that is queued whenever
-- it drains the queue, and the desktop reports matches only among the assets it was asked.
def accounted (transfer : Transfer) : Condition Pipeline Coroutine Input Event where
  own p t input := roomInBatch p t = true ∧ answersBatch transfer t input = true

theorem running_step {i : CoroutineId transfer} {after : Pipeline × Coroutine} (ledger : Ledger transfer s)
    (room : roomInBatch s.world (s.threads i) = true)
    (moved : stepCoroutine transfer s.world (s.threads i) input = some after) (fine : after.1.pipelineError = false) :
    Running transfer ⟨after.1,Function.update s.threads i after.2⟩ := by
  have keeps := coroutine_keeps moved
  have advances := coroutine_advances (ledger.stands i) fine moved
  have before : s.world.pipelineError = false := by
    by_contra failed
    cases fine.symm.trans (keeps.error (by simpa using failed))
  have running := ledger.running before
  have conserves : ∀ f, Conserves transfer f s.world (s.threads i) after.1 after.2 := fun f =>
    coroutine_conserves (running_opened i ledger running) room fine moved
  have kept := settled_kept ledger moved
  refine ⟨?_,?_,?_,?_,?_,?_,?_⟩
  · intro f
    have whole := running.weight f
    have moves := sum_update (heldWeight f) s.threads i after.2
    have weight := (conserves f).weight
    dsimp only
    omega
  · have whole := running.counted
    have moves := sum_update inFlight s.threads i after.2
    have counted := (conserves fun _ => 0).counted
    dsimp only
    omega
  · intro shut
    rcases advances.prepares shut with early | ⟨full,accepted⟩
    · obtain ⟨full,all⟩ := running.prepared early
      exact ⟨kept.1 full,all.trans keeps.index⟩
    · refine ⟨kept.1 full,?_⟩
      rcases running.ended (by rw [full]; unfold prepareWorkerCount transferConcurrentSha1Limit; omega) with rejected | all
      · cases accepted.symm.trans rejected
      · exact all.trans keeps.index
  · intro shut
    rcases advances.checks shut with early | ⟨full,checked⟩
    · obtain ⟨full,checked⟩ := running.uploads early
      exact ⟨kept.1 full,kept.2.1 checked⟩
    · exact ⟨kept.1 full,kept.2.1 checked⟩
  · intro some
    rcases advances.ended with same | new
    · rcases running.ended (Nat.lt_of_lt_of_le some same) with rejected | all
      · exact .inl (keeps.rejected rejected)
      · exact .inr (all.trans keeps.index)
    · exact new
  · intro some
    rcases advances.checked with same | new
    · exact keeps.prepared (running.checked (Nat.lt_of_lt_of_le some same))
    · exact new
  · intro some
    rcases advances.sent with same | new
    · exact keeps.uploads (running.sent (Nat.lt_of_lt_of_le some same))
    · exact new

theorem ledger_step {i : CoroutineId transfer} {after : Pipeline × Coroutine} (ledger : Ledger transfer s)
    (own : (accounted transfer).own s.world (s.threads i) input)
    (moved : stepCoroutine transfer s.world (s.threads i) input = some after) :
    Ledger transfer ⟨after.1,Function.update s.threads i after.2⟩ := by
  have settles := coroutine_settles moved
  obtain ⟨more,observed,observes,-⟩ := coroutine_records moved
  have recorded : ∀ observation ∈ after.1.observed, observation ∈ s.world.observed ∨
      Observes transfer s.world (s.threads i) input observation := by
    intro observation member
    rw [observed] at member
    rcases List.mem_append.mp member with old | new
    · exact .inl old
    · exact .inr (observes observation new)
  refine ⟨?_,?_,?_,?_,?_,?_,?_,?_,running_step ledger own.1 moved⟩
  · have moves := sum_update livePrepare s.threads i after.2
    have whole := ledger.prepares
    have prepare := settles.prepare
    dsimp only
    omega
  · have moves := sum_update liveExistence s.threads i after.2
    have whole := ledger.checks
    have existence := settles.existence
    dsimp only
    omega
  · have moves := sum_update liveUpload s.threads i after.2
    have whole := ledger.sends
    have upload := settles.upload
    dsimp only
    omega
  · have moves := sum_update awaitsPrepared s.threads i after.2
    have whole := ledger.awaitsPrepared
    have prepared := settles.prepared
    dsimp only
    omega
  · have moves := sum_update awaitsUpload s.threads i after.2
    have whole := ledger.awaitsUpload
    have uploads := settles.uploads
    dsimp only
    omega
  · intro j
    by_cases same : j = i
    · subst j
      simpa using stands_next ledger moved
    · simpa [same] using stands_kept (j := j) ledger moved
  · intro seen
    refine finished_kept ledger moved ?_
    rcases recorded _ seen with old | new
    · exact ledger.completing old
    · have stands := ledger.stands i
      unfold Observes at new
      split at new
      · rename_i main
        rw [main] at stands
        exact stands
      all_goals simp at new
  · intro assetIds matched seen
    rcases recorded _ seen with old | new
    · exact ledger.answered assetIds matched old
    · have answers := own.2
      unfold Observes at new
      split at new
      case h_3 checking =>
        obtain ⟨answer,received,same⟩ := new
        cases same
        rw [checking] at answers
        exact ⟨List.nodup_dedup _,fun assetId member =>
          answersBatch_parts answers received (List.mem_dedup.mp member)⟩
      all_goals simp at new

theorem ledger_start : Ledger transfer (launched transfer) := by
  have total : ∀ f, (transfer.assets.map (weigh f)).sum = pipelineWeight transfer f .initial := fun f => by
    simp [pipelineWeight,recordedWeight,Pipeline.initial,Queue.weight,Queue.empty]
  refine ⟨?_,?_,?_,?_,?_,?_,?_,?_,?_⟩
  · simp [launched,livePrepare,Pipeline.initial]
  · simp [launched,liveExistence,Pipeline.initial]
  · simp [launched,liveUpload,Pipeline.initial]
  · simp [launched,awaitsPrepared,Pipeline.initial,Queue.outstanding,Queue.empty]
  · simp [launched,awaitsUpload,Pipeline.initial,Queue.outstanding,Queue.empty]
  · rintro (_ | _ | _ | _) <;> trivial
  · intro seen
    cases seen
  · intro assetIds matched seen
    cases seen
  · intro _
    refine ⟨?_,?_,?_,?_,?_,?_,?_⟩
    · intro f
      rw [total f]
      simp [launched,heldWeight]
    · simp [launched,inFlight,countedAssets,owedTotal,Pipeline.initial]
    all_goals
      intro some
      cases some

theorem ledger_event {event : Event} (ledger : Ledger transfer s) (moved : stepEvent s.world event = some p') :
    Ledger transfer {s with world:=p'} := by
  cases event
  cases moved
  obtain ⟨prepares,checks,sends,awaitsPrepared,awaitsUpload,stands,completing,answered,running⟩ := ledger
  refine ⟨prepares,checks,sends,awaitsPrepared,awaitsUpload,?_,completing,answered,?_⟩
  · intro i
    have old := stands i
    generalize s.threads i = t at old ⊢
    cases t with
    | main phase => cases phase <;> exact old
    | _ => trivial
  · intro fine
    obtain ⟨weight,counted,prepared,uploads,ended,checked,sent⟩ := running fine
    exact ⟨weight,counted,prepared,uploads,ended,checked,sent⟩

theorem ledger_reaches (path : Reaches (startTransfer transfer) (accounted transfer).Admits (launched transfer) s) :
    Ledger transfer s := by
  refine reaches_preserves ?_ ledger_start path
  intro s move next ledger allowed taken
  cases move with
  | thread i input =>
      obtain ⟨world,thread,moved,rfl⟩ := thread_parts taken
      exact ledger_step ledger allowed.1 moved
  | environment event =>
      obtain ⟨world,moved,rfl⟩ := environment_parts taken
      exact ledger_event ledger moved

def reports (assetId : String) : Observation → Bool
  | .checked _ matched => assetId ∈ matched
  | _ => false

def handedTimes (p : Pipeline) (assetId : String) : Nat := p.observed.count (.handed assetId)

def reported (p : Pipeline) (assetId : String) : Bool := p.observed.any (reports assetId)

-- Each asset was reported matched or handed to an upload exactly once, and counted.
structure Accounted (transfer : Transfer) (p : Pipeline) : Prop where
  once : ∀ asset ∈ transfer.assets, handedTimes p asset.assetId = if reported p asset.assetId then 0 else 1
  counted : p.matchedAssets + p.transferredAssets + p.failedAssets = transfer.assets.length

def only (assetId other : String) : Nat := if other = assetId then 1 else 0

theorem only_count {assetId : String} {assetIds : List String} :
    (assetIds.map (only assetId)).sum = assetIds.count assetId := by
  induction assetIds with
  | nil => rfl
  | cons first assetIds ih =>
      rw [List.map_cons,List.sum_cons,List.count_cons,ih,Nat.add_comm]
      simp [only]

theorem checked_only {assetId : String} {assetIds matched : List String} (within : matched ⊆ assetIds) :
    0 < recorded (only assetId) (.checked assetIds matched) ↔ assetId ∈ matched := by
  simp only [recorded,only_count,List.count_pos_iff,List.mem_filter,decide_eq_true_eq]
  exact ⟨fun both => both.2,fun member => ⟨within member,member⟩⟩

-- An asset's share of the record is how often it was handed over, and more if it was reported.
theorem recorded_only {assetId : String} {observations : List Observation}
    (answered : ∀ assetIds matched, .checked assetIds matched ∈ observations → matched ⊆ assetIds) :
    observations.count (.handed assetId) + (if observations.any (reports assetId) then 1 else 0) ≤
      (observations.map (recorded (only assetId))).sum ∧
    (observations.any (reports assetId) = false →
      (observations.map (recorded (only assetId))).sum = observations.count (.handed assetId)) := by
  induction observations with
  | nil => simp
  | cons observation observations ih =>
      obtain ⟨least,exact⟩ := ih fun assetIds matched member => answered assetIds matched (List.mem_cons_of_mem _ member)
      have head : (if observation = .handed assetId then 1 else 0) + (if reports assetId observation then 1 else 0) ≤
            recorded (only assetId) observation ∧
          (reports assetId observation = false →
            recorded (only assetId) observation = if observation = .handed assetId then 1 else 0) := by
        cases observation with
        | checked assetIds matched =>
            have share := @checked_only assetId _ _ (answered assetIds matched List.mem_cons_self)
            simp only [reports,decide_eq_true_eq,decide_eq_false_iff_not,reduceCtorEq,if_false,Nat.zero_add]
            refine ⟨?_,fun absent => ?_⟩
            · split
              · exact share.mpr ‹_›
              · exact Nat.zero_le _
            · have none := mt share.mp absent
              omega
        | handed other => simp [reports,recorded,only]
        | _ => simp [reports,recorded]
      simp only [List.count_cons,List.any_cons,List.map_cons,List.sum_cons,beq_iff_eq,Bool.or_eq_true,Bool.or_eq_false_iff]
      refine ⟨?_,fun absent => ?_⟩
      · have one := head.1
        have either : (if reports assetId observation = true ∨ observations.any (reports assetId) = true then 1 else 0) ≤
            (if reports assetId observation = true then 1 else 0) +
              (if observations.any (reports assetId) = true then 1 else 0) := by
          by_cases here : reports assetId observation = true
          · simp [here]
          · simp [here]
        omega
      · have one := head.2 absent.1
        have rest := exact absent.2
        omega

theorem total_only {assetId : String} :
    (transfer.assets.map (weigh (only assetId))).sum = (transfer.assets.map NormalizedTransferAsset.assetId).count assetId := by
  rw [← only_count,List.map_map]
  rfl

theorem settled_idle {f : String → Nat} {t : Coroutine}
    (settled : livePrepare t + liveExistence t + liveUpload t = 0) :
    heldWeight f t = 0 ∧ inFlight t = 0 ∧ awaitsPrepared t = 0 ∧ awaitsUpload t = 0 := by
  cases t with
  | main phase => exact ⟨rfl,rfl,rfl,rfl⟩
  | prepare phase => cases phase <;> first | exact ⟨rfl,rfl,rfl,rfl⟩ | cases settled
  | existence phase => cases phase <;> first | exact ⟨rfl,rfl,rfl,rfl⟩ | cases settled
  | upload phase => cases phase <;> first | exact ⟨rfl,rfl,rfl,rfl⟩ | cases settled

theorem finished_settled (ledger : Ledger transfer s) (finished : Finished transfer s.world) (i : CoroutineId transfer) :
    livePrepare (s.threads i) + liveExistence (s.threads i) + liveUpload (s.threads i) = 0 := by
  obtain ⟨prepare,existence,upload,-⟩ := finished
  have prepares := ledger.prepares
  have checks := ledger.checks
  have sends := ledger.sends
  have one := live_counted (s := s) livePrepare i
  have two := live_counted (s := s) liveExistence i
  have three := live_counted (s := s) liveUpload i
  omega

theorem finished_weight {f : String → Nat} (ledger : Ledger transfer s) (finished : Finished transfer s.world) :
    recordedWeight f s.world = (transfer.assets.map (weigh f)).sum := by
  have settled := finished_settled ledger finished
  obtain ⟨-,existence,upload,fine⟩ := finished
  have running := ledger.running fine
  have prepared := running.checked (by omega)
  have sent := running.sent (by rw [upload]; unfold uploadWorkerCount transferConcurrentUploadLimit; omega)
  have idle : ∑ i, heldWeight f (s.threads i) = 0 := Finset.sum_eq_zero fun i _ => (settled_idle (settled i)).1
  have noPrepared : s.world.preparedAssetQueue.weight (weighWork f) = 0 := by
    refine weight_received (ledger.awaitsPrepared.trans ?_) prepared.2
    exact Finset.sum_eq_zero fun i _ => (@settled_idle f _ (settled i)).2.2.1
  have noUpload : s.world.uploadAssetQueue.weight (weigh f) = 0 := by
    refine weight_received (ledger.awaitsUpload.trans ?_) sent.2
    exact Finset.sum_eq_zero fun i _ => (@settled_idle f _ (settled i)).2.2.2
  have whole := running.weight f
  rw [idle,pipelineWeight,noPrepared,noUpload,List.drop_eq_nil_of_le (running.prepared prepared.1).2] at whole
  simpa using whole

theorem finished_counted (ledger : Ledger transfer s) (finished : Finished transfer s.world) :
    countedAssets s.world = owedTotal s.world := by
  have counted := (ledger.running finished.2.2.2).counted
  have idle : ∑ i, inFlight (s.threads i) = 0 := Finset.sum_eq_zero fun i _ =>
    (@settled_idle (fun _ => 0) _ (finished_settled ledger finished i)).2.1
  omega

-- With no asset on record twice, each observation owes the counters what it records.
theorem owed_recorded {observation : Observation} (single : ∀ assetId, recorded (only assetId) observation ≤ 1)
    (answered : ∀ assetIds matched, observation = .checked assetIds matched → matched.Nodup ∧ matched ⊆ assetIds) :
    owed observation = recorded (fun _ => 1) observation := by
  cases observation with
  | checked assetIds matched =>
      obtain ⟨distinct,within⟩ := answered assetIds matched rfl
      have once : (assetIds.filter fun assetId => assetId ∈ matched).Nodup := by
        rw [List.nodup_iff_count_le_one]
        intro assetId
        rw [← only_count]
        exact single assetId
      have same := (List.perm_ext_iff_of_nodup distinct once).mpr fun assetId => by
        rw [List.mem_filter,decide_eq_true_eq]
        exact ⟨fun member => ⟨within member,member⟩,fun both => both.2⟩
      simpa [owed,recorded] using same.length_eq
  | _ => rfl

theorem run_accounted (ledger : Ledger transfer s) (finished : Finished transfer s.world)
    (distinct : (transfer.assets.map NormalizedTransferAsset.assetId).Nodup) : Accounted transfer s.world := by
  refine ⟨?_,?_⟩
  · intro asset member
    have one := List.count_eq_one_of_mem distinct (List.mem_map_of_mem member)
    have whole := finished_weight (f := only asset.assetId) ledger finished
    rw [total_only,one,recordedWeight] at whole
    obtain ⟨least,exact⟩ := @recorded_only asset.assetId s.world.observed fun assetIds matched seen =>
      (ledger.answered assetIds matched seen).2
    unfold handedTimes reported
    split
    · rename_i told
      rw [if_pos told] at least
      omega
    · rename_i untold
      exact (exact (by simpa using untold)).symm.trans whole
  · refine (finished_counted ledger finished).trans ?_
    have same : ∀ observation ∈ s.world.observed, owed observation = recorded (fun _ => 1) observation := by
      intro observation member
      refine owed_recorded (fun assetId => ?_) fun assetIds matched same => ledger.answered assetIds matched (same ▸ member)
      have most := List.le_sum_of_mem (List.mem_map_of_mem (f := recorded (only assetId)) member)
      have whole := finished_weight (f := only assetId) ledger finished
      rw [total_only,recordedWeight] at whole
      have atMost := List.nodup_iff_count_le_one.mp distinct assetId
      omega
    have whole := finished_weight (f := fun _ => 1) ledger finished
    rw [owedTotal,List.map_congr_left same]
    refine Eq.trans whole ?_
    change (transfer.assets.map fun _ => 1).sum = transfer.assets.length
    simp

-- The first photo is being checked while the other sixteen are hashed: the batch after it
-- takes fifteen of them, and the sixteenth is shifted off the queue and left.
def lastOfQueue : List (Move (CoroutineId (photoTransfer .lan 17)) Input Event) :=
  let main : CoroutineId (photoTransfer .lan 17) := .inl ()
  let existence : CoroutineId (photoTransfer .lan 17) := .inr (.inl ())
  let prepare (k : Fin 3) : CoroutineId (photoTransfer .lan 17) := .inr (.inr (.inl k))
  let upload (k : Fin 5) : CoroutineId (photoTransfer .lan 17) := .inr (.inr (.inr k))
  let takes (inputs : List Input) (i : CoroutineId (photoTransfer .lan 17)) :
      List (Move (CoroutineId (photoTransfer .lan 17)) Input Event) := inputs.map (.thread i)
  takes [.resume] existence ++ takes [.resume,hash] (prepare 0) ++ takes [.resume,.resume] existence ++
    takes (List.replicate 16 hash) (prepare 0) ++ takes [.resume] (prepare 1) ++ takes [.resume] (prepare 2) ++
    takes [noMatches,.resume,.resume,.resume,noMatches,.resume] existence ++ takes [.resume] main ++
    takes [.resume] existence ++ takes [.resume] main ++
    takes (.resume :: (List.replicate 16 [.resume,.resume,stored,.resume]).flatten ++ [.resume]) (upload 0) ++
    takes [.resume,.resume] (upload 1) ++ takes [.resume,.resume] (upload 2) ++ takes [.resume,.resume] (upload 3) ++
    takes [.resume,.resume] (upload 4) ++ takes [.resume,.resume] main

instance (transfer : Transfer) (p : Pipeline) (t : Coroutine) (input : Input) :
    Decidable ((accounted transfer).own p t input) :=
  inferInstanceAs (Decidable (roomInBatch p t = true ∧ answersBatch transfer t input = true))
instance (transfer : Transfer) (p : Pipeline) (t u : Coroutine) (input : Input) :
    Decidable ((accounted transfer).beside p t input u) := inferInstanceAs (Decidable True)
instance (transfer : Transfer) (p : Pipeline) (e : Event) (u : Coroutine) :
    Decidable ((accounted transfer).event p e u) := inferInstanceAs (Decidable True)

def oneOfTwo : List (Move (CoroutineId (photoTransfer .lan 2)) Input Event) :=
  let main : CoroutineId (photoTransfer .lan 2) := .inl ()
  let existence : CoroutineId (photoTransfer .lan 2) := .inr (.inl ())
  let prepare (k : Fin 2) : CoroutineId (photoTransfer .lan 2) := .inr (.inr (.inl k))
  let upload (k : Fin 2) : CoroutineId (photoTransfer .lan 2) := .inr (.inr (.inr k))
  let takes (inputs : List Input) (i : CoroutineId (photoTransfer .lan 2)) :
      List (Move (CoroutineId (photoTransfer .lan 2)) Input Event) := inputs.map (.thread i)
  let firstMatches : Input := .answer 200 [("matches",.array [.object [("asset_id",.string "asset-0")]])]
  takes [.resume,hash,hash] (prepare 0) ++ takes [.resume] (prepare 1) ++
    takes [.resume,.resume,.resume,firstMatches,.resume] existence ++ takes [.resume] main ++ takes [.resume] existence ++
    takes [.resume] main ++ takes [.resume,.resume,.resume,stored,.resume,.resume] (upload 0) ++
    takes [.resume,.resume] (upload 1) ++ takes [.resume,.resume] main

end ImageSearch.AccountedAssets
