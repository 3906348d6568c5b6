import ImageSearch.PipelineSteps
import Mathlib.Data.Fintype.Sum

namespace ImageSearch.DeletedAssets
open Transitions Threads TransferClients TransferPipeline PipelineSteps

variable {transfer : Transfer} {p : Pipeline} {input : Input}

-- The desktop has said in this run that it holds the asset: as a match for a signature of
-- the batch it was asked about, or in the answer to the asset's own upload.
def Held (observed : List Observation) (assetId : String) : Prop :=
  (∃ assetIds matched, .checked assetIds matched ∈ observed ∧ assetId ∈ assetIds ∧ assetId ∈ matched) ∨
    ∃ statusCode status, .uploaded assetId statusCode status ∈ observed ∧ responseOk statusCode = true ∧
      (status = some "stored" ∨ status = some "skipped")

theorem held_append {observed more : List Observation} {assetId : String} (held : Held observed assetId) :
    Held (observed ++ more) assetId := by
  rcases held with ⟨assetIds,matched,seen,asked⟩ | ⟨statusCode,status,seen,accepted⟩
  · exact .inl ⟨assetIds,matched,List.mem_append_left _ seen,asked⟩
  · exact .inr ⟨statusCode,status,List.mem_append_left _ seen,accepted⟩

def Stopped : MainPhase → Prop
  | .handling cause | .ended (.failed cause) => cause ≠ .runtimeSession
  | .ended .aborted => True
  | _ => False

def Undeleted (observed : List Observation) : Prop := ∀ assetIds, .deleted assetIds ∉ observed

def deletes : Observation → Bool
  | .deleted _ => true
  | _ => false

structure DeletesHeld (s : Pool (CoroutineId transfer) Pipeline Coroutine) : Prop where
  held : ∀ assetIds, .deleted assetIds ∈ s.world.observed → ∀ assetId ∈ assetIds, Held s.world.observed assetId
  completed : ∀ assetIds, .deleted assetIds ∈ s.world.observed →
    ∃ statusCode, .completed statusCode ∈ s.world.observed ∧ responseOk statusCode = true
  stopped : ∀ phase, s.threads (.inl ()) = .main phase → Stopped phase → Undeleted s.world.observed

-- The client hands on no answer that says stored or skipped, and none to a completion,
-- under a status code that says otherwise; and the run is not aborted between a deletion
-- and the second attempt to end the runtime session.
def answersHonest (transfer : Transfer) (p : Pipeline) : Coroutine → Input → Bool
  | .upload (.uploading _ _),.answer statusCode body =>
    match transfer.link.receive .asset statusCode body with
    | .ok answer => !(answerStatus answer = some "stored" || answerStatus answer = some "skipped") || responseOk statusCode
    | .error _ => true
  | .main .completing,.answer statusCode body =>
    match transfer.link.receive .complete statusCode body with
    | .ok _ => responseOk statusCode
    | .error _ => true
  | .main (.handling .runtimeSession),.settled true => !p.aborted || !p.observed.any deletes
  | _,_ => true

def honest (transfer : Transfer) : Condition Pipeline Coroutine Input Event where
  own p t input := answersBatch transfer t input = true ∧ answersHonest transfer p t input = true

variable {t : Coroutine} {next : Pipeline × Coroutine}

theorem vouched_held {observation : Observation} {observed : List Observation} {assetId : String}
    (own : (honest transfer).own p t input) (observes : Observes transfer p t input observation)
    (vouches : Vouches observation assetId) (member : observation ∈ observed) : Held observed assetId := by
  obtain ⟨answers,statuses⟩ := own
  unfold Observes at observes
  split at observes
  · cases observes
    cases vouches
  · rcases observes.2 with rfl | ⟨rfl,-⟩ <;> cases vouches
  · obtain ⟨answer,received,rfl⟩ := observes
    have matched := List.mem_dedup.mp vouches
    exact .inl ⟨_,_,member,answersBatch_parts answers received matched,vouches⟩
  · obtain ⟨asset,rfl⟩ := observes
    cases vouches
  · obtain ⟨answer,received,rfl⟩ := observes
    obtain ⟨rfl,accepted⟩ := vouches
    simp only [answersHonest,received] at statuses
    refine .inr ⟨_,_,member,?_,accepted⟩
    rcases accepted with same | same
    · simpa [same] using statuses
    · simpa [same] using statuses
  · cases observes

-- Only startTransfer deletes, after a completion, and what has been gathered until then.
theorem main_deletes {phase : MainPhase} {next : Pipeline × MainPhase} {assetIds : List String}
    (moved : stepMain transfer p phase input = some next) (deleted : .deleted assetIds ∈ next.1.observed) :
    .deleted assetIds ∈ p.observed ∨ phase = .completing ∧ ∃ statusCode body answer,
      input = .answer statusCode body ∧ transfer.link.receive .complete statusCode body = .ok answer ∧
      assetIds = p.successfullyTransferredAssetIds ∧
      next = ((p.observe (.completed statusCode)).observe (.deleted p.successfullyTransferredAssetIds),.deleting) := by
  obtain ⟨more,observed,observes,-⟩ := main_records moved
  rw [observed] at deleted
  rcases List.mem_append.mp deleted with old | new
  · exact .inl old
  · have here := observes _ new
    unfold Observes at here
    split at here
    case h_2 main =>
      cases main
      obtain ⟨⟨answer,received⟩,completed | ⟨same,running⟩⟩ := here
      · cases completed
      · cases same
        refine .inr ⟨rfl,_,_,answer,rfl,received,rfl,?_⟩
        simp only [stepMain,received,running] at moved
        split at moved
        · rename_i impossible
          cases impossible
        · split at moved
          · cases moved
            rfl
          · cases moved
            have shorter : more = [.completed _] := List.append_cancel_left observed.symm
            rw [shorter] at new
            cases List.mem_singleton.mp new
    all_goals simp at here

theorem worker_deletes {assetIds : List String} (moved : stepCoroutine transfer p t input = some next)
    (worker : ∀ phase, t ≠ .main phase) (deleted : .deleted assetIds ∈ next.1.observed) :
    .deleted assetIds ∈ p.observed := by
  obtain ⟨more,observed,observes,-⟩ := coroutine_records moved
  rw [observed] at deleted
  rcases List.mem_append.mp deleted with old | new
  · exact old
  · have here := observes _ new
    unfold Observes at here
    split at here
    case h_2 => exact absurd rfl (worker _)
    all_goals simp at here

-- The phases in which nothing has been deleted yet or can be any more.
def BeforeDeletion : MainPhase → Prop
  | .preparing | .checking | .uploading | .publishing | .completing => True
  | phase => Stopped phase

-- Only a run that is aborted while the runtime session is being ended again goes back.
theorem before_parts {phase : MainPhase} {next : Pipeline × MainPhase}
    (moved : stepMain transfer p phase input = some next) (after : BeforeDeletion next.2) :
    BeforeDeletion phase ∨ phase = .handling .runtimeSession ∧ input = .settled true ∧ p.aborted = true := by
  cases phase with
  | preparing | checking | uploading | publishing | completing => exact .inl trivial
  | deleting =>
      cases input with
      | settled succeeded => cases moved; cases after
      | _ => cases moved
  | ending =>
      cases input with
      | settled succeeded =>
          cases moved
          cases succeeded with
          | true => cases after
          | false => exact absurd rfl after
      | _ => cases moved
  | handling cause =>
      by_cases same : cause = .runtimeSession
      · subst cause
        cases input with
        | settled succeeded =>
            cases moved
            cases succeeded with
            | false => exact absurd rfl after
            | true =>
                refine .inr ⟨rfl,rfl,?_⟩
                simp only [caught,if_true] at after
                split at after
                · rename_i aborted
                  simpa using (Bool.and_eq_true_iff.mp aborted).2
                · exact absurd rfl after
        | _ => cases moved
      · exact .inl same
  | ended outcome => cases moved

theorem undeleted_next {phase : MainPhase} {next : Pipeline × MainPhase}
    (own : (honest transfer).own p (.main phase) input) (moved : stepMain transfer p phase input = some next)
    (before : BeforeDeletion phase → Undeleted p.observed) (after : BeforeDeletion next.2) : Undeleted next.1.observed := by
  intro assetIds deleted
  rcases main_deletes moved deleted with old | ⟨-,statusCode,body,answer,-,-,-,rfl⟩
  · rcases before_parts moved after with early | ⟨rfl,rfl,aborted⟩
    · exact before early assetIds old
    · have none : p.observed.any deletes = false := by simpa [answersHonest,aborted] using own.2
      exact List.any_eq_false.mp none _ old rfl
  · exact after

variable {s : Pool (CoroutineId transfer) Pipeline Coroutine}

structure Guarded (s : Pool (CoroutineId transfer) Pipeline Coroutine) : Prop where
  main : ∀ i phase, s.threads i = .main phase → i = .inl ()
  gathered : ∀ assetId ∈ s.world.successfullyTransferredAssetIds, Held s.world.observed assetId
  held : ∀ assetIds, .deleted assetIds ∈ s.world.observed → ∀ assetId ∈ assetIds, Held s.world.observed assetId
  completed : ∀ assetIds, .deleted assetIds ∈ s.world.observed →
    ∃ statusCode, .completed statusCode ∈ s.world.observed ∧ responseOk statusCode = true
  before : ∀ phase, s.threads (.inl ()) = .main phase → BeforeDeletion phase → Undeleted s.world.observed

theorem coroutine_kind {phase : MainPhase} (moved : stepCoroutine transfer p t input = some next)
    (main : next.2 = .main phase) : ∃ before, t = .main before ∧ stepMain transfer p before input = some (next.1,phase) := by
  cases t with
  | main before =>
      obtain ⟨after,step,rfl⟩ := Option.map_eq_some_iff.mp moved
      cases main
      exact ⟨before,rfl,step⟩
  | prepare before =>
      obtain ⟨after,-,rfl⟩ := Option.map_eq_some_iff.mp moved
      cases main
  | existence before =>
      obtain ⟨after,-,rfl⟩ := Option.map_eq_some_iff.mp moved
      cases main
  | upload before =>
      obtain ⟨after,-,rfl⟩ := Option.map_eq_some_iff.mp moved
      cases main

theorem deleting_parts {assetIds : List String} (own : (honest transfer).own p t input)
    (moved : stepCoroutine transfer p t input = some next) (deleted : .deleted assetIds ∈ next.1.observed) :
    .deleted assetIds ∈ p.observed ∨ assetIds = p.successfullyTransferredAssetIds ∧
      ∃ statusCode, .completed statusCode ∈ next.1.observed ∧ responseOk statusCode = true := by
  by_cases worker : ∀ phase, t ≠ .main phase
  · exact .inl (worker_deletes moved worker deleted)
  · obtain ⟨phase,same⟩ := not_forall.mp worker
    rw [not_not] at same
    subst t
    obtain ⟨after,step,rfl⟩ := Option.map_eq_some_iff.mp moved
    rcases main_deletes step deleted with old | ⟨rfl,statusCode,body,answer,rfl,received,gathered,rfl⟩
    · exact .inl old
    · have accepted : responseOk statusCode = true := by simpa only [answersHonest,received] using own.2
      exact .inr ⟨gathered,statusCode,by simp [Pipeline.observe],accepted⟩

theorem guarded_step {i : CoroutineId transfer} {after : Pipeline × Coroutine} (guarded : Guarded s)
    (own : (honest transfer).own s.world (s.threads i) input)
    (moved : stepCoroutine transfer s.world (s.threads i) input = some after) :
    Guarded ⟨after.1,Function.update s.threads i after.2⟩ := by
  obtain ⟨more,observed,observes,vouched⟩ := coroutine_records moved
  have kept : ∀ assetId, Held s.world.observed assetId → Held after.1.observed assetId := by
    intro assetId held
    rw [observed]
    exact held_append held
  have gathered : ∀ assetId ∈ after.1.successfullyTransferredAssetIds, Held after.1.observed assetId := by
    intro assetId member
    rcases vouched assetId member with old | ⟨observation,new,vouches⟩
    · exact kept assetId (guarded.gathered assetId old)
    · refine vouched_held own (observes observation new) vouches ?_
      rw [observed]
      exact List.mem_append_right _ new
  refine ⟨?_,gathered,?_,?_,?_⟩
  · intro j phase main
    by_cases same : j = i
    · subst j
      obtain ⟨before,was,-⟩ := coroutine_kind moved (by simpa using main)
      exact guarded.main i before was
    · exact guarded.main j phase (by simpa [same] using main)
  · intro assetIds deleted assetId member
    rcases deleting_parts own moved deleted with old | ⟨rfl,-⟩
    · exact kept assetId (guarded.held assetIds old assetId member)
    · exact kept assetId (guarded.gathered assetId member)
  · intro assetIds deleted
    rcases deleting_parts own moved deleted with old | ⟨-,accepted⟩
    · obtain ⟨statusCode,seen,accepted⟩ := guarded.completed assetIds old
      exact ⟨statusCode,by rw [observed]; exact List.mem_append_left _ seen,accepted⟩
    · exact accepted
  · intro phase main late
    by_cases same : i = .inl ()
    · subst i
      obtain ⟨before,was,step⟩ := coroutine_kind moved (by simpa using main)
      rw [was] at own
      exact undeleted_next own step (guarded.before before was) late
    · have still : s.threads (.inl ()) = .main phase := by simpa [Ne.symm same] using main
      intro assetIds deleted
      refine guarded.before phase still late assetIds (worker_deletes moved ?_ deleted)
      intro other main
      exact same (guarded.main i other main)

theorem guarded_start : Guarded (launched transfer) := by
  refine ⟨?_,nofun,nofun,nofun,nofun⟩
  rintro (_ | _ | _ | _) phase main
  · rfl
  all_goals cases main

theorem guarded_reaches (path : Reaches (startTransfer transfer) (honest transfer).Admits (launched transfer) s) :
    Guarded s := by
  refine reaches_preserves ?_ guarded_start path
  intro s move next guarded allowed taken
  cases move with
  | thread i input =>
      obtain ⟨world,thread,moved,rfl⟩ := thread_parts taken
      exact guarded_step guarded allowed.1 moved
  | environment event =>
      obtain ⟨world,moved,rfl⟩ := environment_parts taken
      cases event
      cases moved
      exact ⟨guarded.main,guarded.gathered,guarded.held,guarded.completed,guarded.before⟩

def onePhoto (transport : Transport) (completion : Input) :
    List (Move (CoroutineId (photoTransfer transport 1)) Input Event) :=
  let main : CoroutineId (photoTransfer transport 1) := .inl ()
  let existence : CoroutineId (photoTransfer transport 1) := .inr (.inl ())
  let prepare : CoroutineId (photoTransfer transport 1) := .inr (.inr (.inl (0 : Fin 1)))
  let upload : CoroutineId (photoTransfer transport 1) := .inr (.inr (.inr (0 : Fin 1)))
  let takes (inputs : List Input) (i : CoroutineId (photoTransfer transport 1)) :
      List (Move (CoroutineId (photoTransfer transport 1)) Input Event) := inputs.map (.thread i)
  takes [.resume,hash] prepare ++ takes [.resume,.resume,.resume,noMatches,.resume] existence ++ takes [.resume] main ++
    takes [.resume] existence ++ takes [.resume] main ++
    takes [.resume,.resume,.resume,stored,.resume,.resume] upload ++ takes [.resume,.resume,completion] main

def completedCode : Observation → Bool
  | .completed statusCode => responseOk statusCode
  | _ => false

instance (p : Pipeline) (t : Coroutine) (input : Input) : Decidable ((honest transfer).own p t input) :=
  inferInstanceAs (Decidable (answersBatch transfer t input = true ∧ answersHonest transfer p t input = true))
instance (p : Pipeline) (t u : Coroutine) (input : Input) : Decidable ((honest transfer).beside p t input u) :=
  inferInstanceAs (Decidable True)
instance (p : Pipeline) (e : Event) (u : Coroutine) : Decidable ((honest transfer).event p e u) :=
  inferInstanceAs (Decidable True)

end ImageSearch.DeletedAssets
