import ImageSearch.ImageBatches
import Mathlib.Algebra.Order.BigOperators.Group.Finset

namespace ImageSearch.DeliveredBatches
open Transitions Threads Tables ShareSessions ImageBatches

variable {sessionId : String} {n m : Nat} {w w' : Receiver} {upload upload' : Upload} {stage : UploadStage}

def Begun (state : SessionState) : Prop := state = .transferring ∨ state = .delivering ∨ state = .done

def Waiting (state : SessionState) : Prop := state = .queued ∨ state = .negotiating

inductive Fits (sessionId : String) (n : Nat) (w : Receiver) (m : Nat) : UploadStage → Prop
  | arrived (uncleaned : w.cleaned = false) (paired : w.paired = true → ∃ x, w.registry.getSession sessionId = some x) :
      Fits sessionId n w m .arrived
  | revisiting (uncleaned : w.cleaned = false) (revisit : w.paired = false) :
      Fits sessionId n w m (.opening (.revisiting (revisitConfig sessionId) (announcedCount m)))
  | reviving {x : InstantShareSession} (here : w.registry.getSession sessionId = some x) (state : x.state = .bootstrapped) :
      Fits sessionId n w m (.opening (.reviving sessionId (announcedCount m)))
  | announcing {x : InstantShareSession} (imageCount : Nat) (here : w.registry.getSession sessionId = some x) (begun : Begun x.state) :
      Fits sessionId n w m (.opening (.announcing sessionId imageCount))
  | rechecking {x : InstantShareSession} (here : w.registry.getSession sessionId = some x) (begun : Begun x.state) :
      Fits sessionId n w m (.opening (.rechecking sessionId))
  | checking {x : InstantShareSession} (here : w.registry.getSession sessionId = some x) (open_ : Waiting x.state ∨ Begun x.state) :
      Fits sessionId n w m .checking
  | writing {x : InstantShareSession} (here : w.registry.getSession sessionId = some x) (open_ : Waiting x.state ∨ Begun x.state) :
      Fits sessionId n w m .writing
  | receiving {x : InstantShareSession} (here : w.registry.getSession sessionId = some x) (open_ : Waiting x.state ∨ Begun x.state) :
      Fits sessionId n w m (.receiving (.receiving sessionId (announcedCount m)))
  | describing {x : InstantShareSession} (read : SessionState) (here : w.registry.getSession sessionId = some x)
      (reads : read = .transferring ∧ Begun x.state ∨ read ≠ .transferring ∧ Waiting x.state) :
      Fits sessionId n w m (.receiving (.describing sessionId n read))
  | counting {x : InstantShareSession} (read : SessionState) (here : w.registry.getSession sessionId = some x)
      (reads : read = .transferring ∧ Begun x.state ∨ read ≠ .transferring ∧ Waiting x.state) (described : x.imageCount = n) :
      Fits sessionId n w m (.receiving (.counting sessionId read))
  | advancing {x : InstantShareSession} (here : w.registry.getSession sessionId = some x) (state : Waiting x.state) (described : x.imageCount = n) :
      Fits sessionId n w m (.receiving (.advancing sessionId))
  | rereading {x : InstantShareSession} (here : w.registry.getSession sessionId = some x) (begun : Begun x.state) (described : x.imageCount = n) :
      Fits sessionId n w m (.receiving (.rereading sessionId))
  | judging {x : InstantShareSession} (here : w.registry.getSession sessionId = some x) (begun : Begun x.state) (described : x.imageCount = n) :
      Fits sessionId n w m (.receiving (.judging sessionId))
  | delivering {x : InstantShareSession} (here : w.registry.getSession sessionId = some x) (described : x.imageCount = n) (full : n ≤ w.counted) :
      Fits sessionId n w m (.delivering (.delivering sessionId))
  | handing {x : InstantShareSession} (here : w.registry.getSession sessionId = some x) (state : x.state = .transferring) (full : n ≤ w.counted) :
      Fits sessionId n w m (.delivering (.handing sessionId))
  | finishing {x : InstantShareSession} (here : w.registry.getSession sessionId = some x) (state : x.state = .delivering) :
      Fits sessionId n w m (.delivering (.finishing sessionId))
  | deferred : Fits sessionId n w m (.delivered false none)
  | completed (done : w.transitions.count .done = 1) (full : n ≤ w.counted) : Fits sessionId n w m (.delivered true none)
  | refused (full : n ≤ w.counted) : Fits sessionId n w m (.refused .transferLimitExceeded)

variable {x x' : InstantShareSession}

structure Told (w : Receiver) (n : Nat) (x : InstantShareSession) : Prop where
  image : x.payloadClass = .image
  received : x.receivedCount = w.counted
  described : x.imageCount = 0 ∨ x.imageCount = n
  known : 0 < w.counted → x.imageCount = n
  state : x.state = .bootstrapped ∨ Waiting x.state ∨ Begun x.state
  delivering : w.transitions.count .delivering = if x.state = .delivering ∨ x.state = .done then 1 else 0
  done : w.transitions.count .done = if x.state = .done then 1 else 0
  full : x.state = .delivering ∨ x.state = .done → n ≤ w.counted
  pairing : w.paired = true → x.state ≠ .bootstrapped

structure Sane (sessionId : String) (n : Nat) (w : Receiver) : Prop where
  told : ∀ x, w.registry.getSession sessionId = some x → Told w n x
  absent : w.registry.getSession sessionId = none → w.cleaned = true ∨
    (w.registry.activeCount < w.registry.maxSessions ∧ w.transitions = [] ∧ w.counted = 0)
  once : w.transitions.count .done ≤ w.transitions.count .delivering ∧ w.transitions.count .delivering ≤ 1

-- The stages that rest on a state of the session which they are about to change.
inductive Turn where
  | reviving | turning | closing
  deriving DecidableEq, Repr

def turn : UploadStage → Option Turn
  | .opening (.reviving _ _) => some .reviving
  | .receiving (.describing _ _ read) | .receiving (.counting _ read) => if read = .transferring then none else some .turning
  | .receiving (.advancing _) => some .turning
  | .delivering (.handing _) | .delivering (.finishing _) => some .closing
  | _ => none

def Apart (one two : Upload) : Prop := turn one.stage = none ∨ turn one.stage ≠ turn two.stage

-- An upload of a revisit session begins while there is no session or it is transferring, no
-- more than n uploads pass the limit check, the one that delivers the batch is the first,
-- and the count of the session is taken from an upload that announces n.
def inOrder (sessionId : String) (n : Nat) (w : Receiver) (upload : Upload) : Bool :=
  match upload.stage with
  | .opening (.revisiting _ _) => (w.registry.getSession sessionId).all fun session => session.state = .transferring
  | .opening (.announcing _ imageCount) => imageCount = n
  | .checking => !(limitCheck w.registry sessionId).isOk || w.passed < n
  | .receiving (.receiving _ imageCount) => imageCount = some n || (w.registry.getSession sessionId).any fun session => session.imageCount ≠ 0
  | .delivering (.delivering _) => (w.registry.getSession sessionId).any fun session => session.state = .transferring
  | _ => true

-- Nobody reads the state for a transition while another upload has read it for the same.
def readsApart (sessionId : String) (w : Receiver) (upload other : Upload) : Bool :=
  match upload.stage with
  | .receiving (.receiving _ _) => (w.registry.getSession sessionId).any (fun session => session.state = .transferring) ||
      turn other.stage ≠ some .turning
  | .delivering (.delivering _) => turn other.stage ≠ some .closing
  | _ => true

def oneAtATime (sessionId : String) (n : Nat) : Condition Receiver Upload Unit CleanupTimer where
  own w upload _ := inOrder sessionId n w upload = true
  beside w upload _ other := readsApart sessionId w upload other = true
  event _ timer upload := timer.sessionId = sessionId → upload.stage.isFinished = true

-- How many uploads have passed the limit check, written their image and counted it.
def past : UploadStage → Nat
  | .writing | .receiving _ | .delivering _ | .delivered _ _ => 1
  | _ => 0

def wrote : UploadStage → Nat
  | .receiving _ | .delivering _ | .delivered _ _ => 1
  | _ => 0

def credited : UploadStage → Nat
  | .receiving (.receiving _ _) | .receiving (.describing _ _ _) | .receiving (.counting _ _) => 0
  | .receiving _ | .delivering _ | .delivered _ _ => 1
  | _ => 0

def deferred : UploadStage → Nat
  | .delivered false _ => 1
  | _ => 0

def Turn.holds : Turn → SessionState → Prop
  | .reviving,state => state = .bootstrapped
  | .turning,state => Waiting state
  | .closing,state => state = .transferring ∨ state = .delivering

theorem holds_same {one two : Turn} {state : SessionState} (first : one.holds state) (second : two.holds state) : one = two := by
  cases one <;> cases two <;> simp_all [Turn.holds,Waiting]
  all_goals rcases first with rfl | rfl <;> simp_all

structure Frames (sessionId : String) (n : Nat) (w : Receiver) (upload : Upload) (w' : Receiver) : Prop where
  cleaned : w'.cleaned = w.cleaned
  paired : w'.paired = w.paired
  counted : w.counted ≤ w'.counted
  done : w.transitions.count .done = 1 → w'.transitions.count .done = 1
  session : ∀ x, w.registry.getSession sessionId = some x → ∃ x', w'.registry.getSession sessionId = some x' ∧
    (x.imageCount = n → x'.imageCount = n) ∧ (Begun x.state → Begun x'.state) ∧ (Waiting x.state → Waiting x'.state ∨ Begun x'.state) ∧
    (x'.state = x.state ∨ ∃ turned, turn upload.stage = some turned ∧ turned.holds x.state)

theorem reads_turn {read : SessionState} (reads : read = .transferring ∧ Begun x.state ∨ read ≠ .transferring ∧ Waiting x.state)
    (later : Begun x.state → Begun x'.state) (same : read ≠ .transferring → x'.state = x.state) :
    read = .transferring ∧ Begun x'.state ∨ read ≠ .transferring ∧ Waiting x'.state := by
  rcases reads with ⟨rfl,begun⟩ | ⟨other,waiting⟩
  · exact .inl ⟨rfl,later begun⟩
  · exact .inr ⟨other,same other ▸ waiting⟩

theorem frames_fits {other : Upload} (frames : Frames sessionId n w upload w') (apart : Apart upload other)
    (fits : Fits sessionId n w other.imageCount other.stage) : Fits sessionId n w' other.imageCount other.stage := by
  have pinned : ∀ x x' : InstantShareSession, (x'.state = x.state ∨ ∃ turned, turn upload.stage = some turned ∧ turned.holds x.state) →
      ∀ mine : Turn, turn other.stage = some mine → mine.holds x.state → x'.state = x.state := by
    rintro x x' (same | ⟨turned,here,holds⟩) mine there holds'
    · exact same
    · obtain rfl := holds_same holds holds'
      rcases apart with none | different
      · rw [none] at here
        cases here
      · exact absurd (here.trans there.symm) different
  obtain ⟨_,_,stage⟩ := other
  dsimp only at fits pinned ⊢
  cases fits with
  | arrived uncleaned paired =>
      refine .arrived (frames.cleaned ▸ uncleaned) ?_
      intro still
      obtain ⟨x,here⟩ := paired (frames.paired ▸ still)
      obtain ⟨x',there,-⟩ := frames.session x here
      exact ⟨x',there⟩
  | revisiting uncleaned revisit => exact .revisiting (frames.cleaned ▸ uncleaned) (frames.paired ▸ revisit)
  | @reviving x here state =>
      obtain ⟨x',there,-,-,-,moved⟩ := frames.session x here
      exact .reviving there ((pinned x x' moved .reviving rfl state).trans state)
  | @announcing x imageCount here begun =>
      obtain ⟨x',there,-,later,-⟩ := frames.session x here
      exact .announcing imageCount there (later begun)
  | @rechecking x here begun =>
      obtain ⟨x',there,-,later,-⟩ := frames.session x here
      exact .rechecking there (later begun)
  | @checking x here open_ =>
      obtain ⟨x',there,-,later,earlier,-⟩ := frames.session x here
      exact .checking there (open_.elim earlier fun begun => .inr (later begun))
  | @writing x here open_ =>
      obtain ⟨x',there,-,later,earlier,-⟩ := frames.session x here
      exact .writing there (open_.elim earlier fun begun => .inr (later begun))
  | @receiving x here open_ =>
      obtain ⟨x',there,-,later,earlier,-⟩ := frames.session x here
      exact .receiving there (open_.elim earlier fun begun => .inr (later begun))
  | @describing x read here reads =>
      obtain ⟨x',there,-,later,-,moved⟩ := frames.session x here
      refine .describing read there (reads_turn reads later fun different => ?_)
      exact pinned x x' moved .turning (if_neg different) (reads.resolve_left fun same => different same.1).2
  | @counting x read here reads described =>
      obtain ⟨x',there,kept,later,-,moved⟩ := frames.session x here
      refine .counting read there (reads_turn reads later fun different => ?_) (kept described)
      exact pinned x x' moved .turning (if_neg different) (reads.resolve_left fun same => different same.1).2
  | @advancing x here state described =>
      obtain ⟨x',there,kept,-,-,moved⟩ := frames.session x here
      exact .advancing there (pinned x x' moved .turning rfl state ▸ state) (kept described)
  | @rereading x here begun described =>
      obtain ⟨x',there,kept,later,-⟩ := frames.session x here
      exact .rereading there (later begun) (kept described)
  | @judging x here begun described =>
      obtain ⟨x',there,kept,later,-⟩ := frames.session x here
      exact .judging there (later begun) (kept described)
  | @delivering x here described full =>
      obtain ⟨x',there,kept,-⟩ := frames.session x here
      exact .delivering there (kept described) (full.trans frames.counted)
  | @handing x here state full =>
      obtain ⟨x',there,-,-,-,moved⟩ := frames.session x here
      exact .handing there ((pinned x x' moved .closing rfl (.inl state)).trans state) (full.trans frames.counted)
  | @finishing x here state =>
      obtain ⟨x',there,-,-,-,moved⟩ := frames.session x here
      exact .finishing there ((pinned x x' moved .closing rfl (.inr state)).trans state)
  | deferred => exact .deferred
  | completed done full => exact .completed (frames.done done) (full.trans frames.counted)
  | refused full => exact .refused (full.trans frames.counted)

inductive Moves (n : Nat) (w : Receiver) (x : InstantShareSession) : SessionState → Prop
  | opened (state : x.state = .bootstrapped ∨ Waiting x.state) : Moves n w x .transferring
  | handed (state : x.state = .transferring) (full : n ≤ w.counted) : Moves n w x .delivering
  | finished (state : x.state = .delivering) : Moves n w x .done

theorem Moves.allowed {nextState : SessionState} (moves : Moves n w x nextState) : nextState ∈ allowedTransitions x.state := by
  cases moves with
  | opened state => rcases state with state | state | state <;> rw [state] <;> decide
  | handed state _ => rw [state]; decide
  | finished state => rw [state]; decide

theorem after_same : w.after sessionId w.registry = w := by
  unfold Receiver.after
  cases w.registry.getSession sessionId <;> simp

section Session
variable {r' : Registry}

theorem after_present (here : w.registry.getSession sessionId = some x) (there : r'.getSession sessionId = some x') :
    w.after sessionId r' = {w with
      registry:=r'
      counted:=w.counted + (x'.receivedCount - x.receivedCount)
      transitions:=if x.state = x'.state then w.transitions else w.transitions ++ [x'.state]} := by
  unfold Receiver.after
  simp only [here,there,Option.elim_some]

theorem sane_told (there : w'.registry.getSession sessionId = some x') (told : Told w' n x') : Sane sessionId n w' := by
  refine ⟨?_,?_,?_⟩
  · intro y found
    cases there.symm.trans found
    exact told
  · intro none
    cases there.symm.trans none
  · rw [told.delivering,told.done]
    split <;> split <;> simp_all

theorem described_told (told : Told w n x) (here : w.registry.getSession sessionId = some x)
    (there : r'.getSession sessionId = some {x with imageCount:=n}) : Told (w.after sessionId r') n {x with imageCount:=n} := by
  rw [after_present here there]
  simp only [Nat.sub_self,Nat.add_zero,if_true]
  exact ⟨told.image,told.received,.inr rfl,fun _ => rfl,told.state,told.delivering,told.done,told.full,told.pairing⟩

theorem counted_told (told : Told w n x) (described : x.imageCount = n) (here : w.registry.getSession sessionId = some x)
    (there : r'.getSession sessionId = some {x with receivedCount:=x.receivedCount + 1}) :
    Told (w.after sessionId r') n {x with receivedCount:=x.receivedCount + 1} := by
  rw [after_present here there]
  simp only [Nat.add_sub_cancel_left,if_true]
  exact ⟨told.image,congrArg Nat.succ told.received,.inr described,fun _ => described,told.state,told.delivering,told.done,
    fun late => Nat.le_succ_of_le (told.full late),told.pairing⟩

theorem moved_told {nextState : SessionState} (told : Told w n x) (moves : Moves n w x nextState)
    (here : w.registry.getSession sessionId = some x) (there : r'.getSession sessionId = some {x with state:=nextState}) :
    Told (w.after sessionId r') n {x with state:=nextState} := by
  rw [after_present here there]
  have delivering := told.delivering
  have done := told.done
  have full := told.full
  cases moves with
  | opened state =>
      have different : x.state ≠ .transferring := by
        rcases state with state | state | state <;> rw [state] <;> decide
      have early : ¬(x.state = .delivering ∨ x.state = .done) := by
        rcases state with state | state | state <;> rw [state] <;> decide
      rw [if_neg early] at delivering
      rw [if_neg fun late => early (.inr late)] at done
      refine ⟨told.image,?_,told.described,?_,.inr (.inr (.inl rfl)),?_,?_,?_,?_⟩
      all_goals simp [different,told.received,delivering,done]
      exact told.known
  | handed state enough =>
      simp only [state,reduceCtorEq,or_self,if_false] at delivering done
      refine ⟨told.image,?_,told.described,?_,.inr (.inr (.inr (.inl rfl))),?_,?_,?_,?_⟩
      all_goals simp [state,told.received,delivering,done,enough]
      exact told.known
  | finished state =>
      simp only [state,reduceCtorEq,or_false,if_true,if_false] at delivering done
      refine ⟨told.image,?_,told.described,?_,.inr (.inr (.inr (.inr rfl))),?_,?_,?_,?_⟩
      all_goals simp [state,told.received,delivering,done,full (.inl state)]
      exact told.known

theorem frames_same : Frames sessionId n w upload w :=
  ⟨rfl,rfl,le_rfl,id,fun x here => ⟨x,here,id,id,.inl,.inl rfl⟩⟩

theorem frames_passed {w' : Receiver} (registry : w'.registry = w.registry) (cleaned : w'.cleaned = w.cleaned) (paired : w'.paired = w.paired)
    (counted : w'.counted = w.counted) (transitions : w'.transitions = w.transitions) : Frames sessionId n w upload w' := by
  refine ⟨cleaned,paired,counted.ge,fun done => by rwa [transitions],?_⟩
  intro x here
  exact ⟨x,by rwa [registry],id,id,.inl,.inl rfl⟩

theorem frames_kept (here : w.registry.getSession sessionId = some x) (there : r'.getSession sessionId = some x')
    (kept : x.imageCount = n → x'.imageCount = n) (state : x'.state = x.state) : Frames sessionId n w upload (w.after sessionId r') := by
  rw [after_present here there,state,if_pos rfl]
  refine ⟨rfl,rfl,Nat.le_add_right _ _,id,?_⟩
  intro y found
  cases here.symm.trans found
  exact ⟨x',there,kept,fun begun => state.symm ▸ begun,fun waiting => .inl (state.symm ▸ waiting),.inl state⟩

theorem frames_moved {nextState : SessionState} (upload : Upload) (turned : Turn) (told : Told w n x) (moves : Moves n w x nextState)
    (here : w.registry.getSession sessionId = some x) (there : r'.getSession sessionId = some {x with state:=nextState})
    (mine : turn upload.stage = some turned) (holds : turned.holds x.state) : Frames sessionId n w upload (w.after sessionId r') := by
  have later : Begun nextState := by
    cases moves
    · exact .inl rfl
    · exact .inr (.inl rfl)
    · exact .inr (.inr rfl)
  have unfinished : x.state ≠ .done := by
    intro done
    have allowed := moves.allowed
    rw [done] at allowed
    cases allowed
  have none := told.done
  rw [if_neg unfinished] at none
  rw [after_present here there]
  refine ⟨rfl,rfl,Nat.le_add_right _ _,fun one => absurd (none.symm.trans one) (by decide),?_⟩
  intro y found
  cases here.symm.trans found
  exact ⟨_,there,id,fun _ => later,fun _ => .inr later,.inr ⟨turned,mine,holds⟩⟩

end Session

-- What a step of an upload does to what it knows, to the session and to the tallies.
structure Goes (sessionId : String) (n : Nat) (w : Receiver) (upload : Upload) (w' : Receiver) (upload' : Upload) : Prop where
  sane : Sane sessionId n w'
  fits : Fits sessionId n w' upload'.imageCount upload'.stage
  frames : Frames sessionId n w upload w'
  same : upload'.sessionId = upload.sessionId ∧ upload'.imageCount = upload.imageCount
  apart : ∀ other, Fits sessionId n w other.imageCount other.stage → Apart upload other → readsApart sessionId w upload other = true → Apart upload' other
  passed : w'.passed + past upload.stage = w.passed + past upload'.stage
  written : w'.written + wrote upload.stage = w.written + wrote upload'.stage
  counted : w'.counted + credited upload.stage = w.counted + credited upload'.stage
  room : w'.passed ≤ w.passed ∨ w'.passed ≤ n
  unfinished : deferred upload'.stage = deferred upload.stage ∨ w.counted < n ∧ credited upload.stage = 1 ∧ deferred upload.stage = 0

theorem reads_goes {upload' : Upload} (sane : Sane sessionId n w) (fits : Fits sessionId n w upload'.imageCount upload'.stage)
    (same : upload'.sessionId = upload.sessionId ∧ upload'.imageCount = upload.imageCount)
    (apart : ∀ other, Fits sessionId n w other.imageCount other.stage → Apart upload other → readsApart sessionId w upload other = true → Apart upload' other)
    (passed : past upload.stage = past upload'.stage) (written : wrote upload.stage = wrote upload'.stage)
    (counted : credited upload.stage = credited upload'.stage)
    (unfinished : deferred upload'.stage = deferred upload.stage ∨ w.counted < n ∧ credited upload.stage = 1 ∧ deferred upload.stage = 0) :
    Goes sessionId n w upload w upload' :=
  ⟨sane,fits,frames_same,same,apart,by rw [passed],by rw [written],by rw [counted],.inl le_rfl,unfinished⟩

theorem arrived_goes (sane : Sane sessionId n w) (fits : Fits sessionId n w m .arrived)
    (known : ∀ x, w.registry.getSession sessionId = some x → w.paired = true → Waiting x.state ∨ Begun x.state)
    (taken : stepUpload w ⟨sessionId,m,.arrived⟩ = some (w',upload')) : Goes sessionId n w ⟨sessionId,m,.arrived⟩ w' upload' := by
  unfold stepUpload at taken
  cases taken
  cases fits with
  | arrived uncleaned paired =>
      by_cases here : w.paired
      · obtain ⟨x,present⟩ := paired here
        simp only [if_pos here]
        exact reads_goes sane (.checking present (known x present here)) ⟨rfl,rfl⟩ (fun _ _ _ _ => .inl rfl) rfl rfl rfl (.inl rfl)
      · simp only [if_neg here]
        exact reads_goes sane (.revisiting uncleaned (by simpa using here)) ⟨rfl,rfl⟩ (fun _ _ _ _ => .inl rfl) rfl rfl rfl (.inl rfl)

theorem checking_goes (sane : Sane sessionId n w) (fits : Fits sessionId n w m .checking)
    (admitted : inOrder sessionId n w ⟨sessionId,m,.checking⟩ = true)
    (taken : stepUpload w ⟨sessionId,m,.checking⟩ = some (w',upload')) : Goes sessionId n w ⟨sessionId,m,.checking⟩ w' upload' := by
  unfold stepUpload at taken
  dsimp only at taken
  cases fits with
  | @checking x here open_ =>
      have told := sane.told x here
      have check : limitCheck w.registry sessionId =
          if 0 < x.imageCount ∧ x.imageCount ≤ x.receivedCount then .error .transferLimitExceeded else .ok () := by
        unfold limitCheck
        simp only [require_some here,bind,Except.bind,told.image,ne_eq,not_true_eq_false,if_false,pure,Except.pure]
        split <;> rfl
      unfold inOrder at admitted
      simp only [check] at admitted taken
      split at taken
      · rename_i passes
        rw [if_neg (by intro full; rw [if_pos full] at passes; cases passes)] at admitted
        cases taken
        have less : w.passed < n := by simpa [Except.isOk,Except.toBool] using admitted
        have told' : Told {w with passed:=w.passed + 1} n x := ⟨told.image,told.received,told.described,told.known,told.state,
          told.delivering,told.done,told.full,told.pairing⟩
        exact ⟨sane_told here told',.writing here open_,frames_passed rfl rfl rfl rfl rfl,⟨rfl,rfl⟩,fun _ _ _ _ => .inl rfl,
          rfl,rfl,rfl,.inr less,.inl rfl⟩
      · rename_i error fails
        split at fails
        · rename_i full
          cases fails
          cases taken
          have enough : n ≤ w.counted := by
            rcases told.described with none | known
            · omega
            · rw [← known,← told.received]
              exact full.2
          exact reads_goes sane (.refused enough) ⟨rfl,rfl⟩ (fun _ _ _ _ => .inl rfl) rfl rfl rfl (.inl rfl)
        · cases fails

theorem writing_goes (sane : Sane sessionId n w) (fits : Fits sessionId n w m .writing)
    (taken : stepUpload w ⟨sessionId,m,.writing⟩ = some (w',upload')) : Goes sessionId n w ⟨sessionId,m,.writing⟩ w' upload' := by
  unfold stepUpload at taken
  cases taken
  cases fits with
  | @writing x here open_ =>
      have told := sane.told x here
      have told' : Told {w with written:=w.written + 1} n x := ⟨told.image,told.received,told.described,told.known,told.state,
        told.delivering,told.done,told.full,told.pairing⟩
      exact ⟨sane_told here told',.receiving here open_,frames_passed rfl rfl rfl rfl rfl,⟨rfl,rfl⟩,fun _ _ _ _ => .inl rfl,
        rfl,rfl,rfl,.inl le_rfl,.inl rfl⟩

theorem revisited_new (upload : Upload) (sane : Sane sessionId n w) (uncleaned : w.cleaned = false) (revisit : w.paired = false)
    (absent : w.registry.getSession sessionId = none) : ∃ r' x', w.registry.bootstrap (revisitConfig sessionId) = .ok (r',x') ∧
      r'.getSession sessionId = some x' ∧ x'.state = .bootstrapped ∧ Told (w.after sessionId r') n x' ∧
      Frames sessionId n w upload (w.after sessionId r') ∧ (w.after sessionId r').passed = w.passed ∧
      (w.after sessionId r').written = w.written ∧ (w.after sessionId r').counted = w.counted := by
  obtain ⟨room,untouched,none⟩ := (sane.absent absent).resolve_left (by rw [uncleaned]; decide)
  obtain ⟨r',made,there⟩ := bootstrap_new (revisitConfig sessionId) absent room
  have there : r'.getSession sessionId = some _ := there
  have after : w.after sessionId r' = {w with registry:=r'} := by
    unfold Receiver.after
    simp only [absent,there,Option.elim_some,Option.elim_none,Nat.sub_zero,Nat.add_zero]
  refine ⟨r',_,made,there,rfl,?_,?_,?_⟩
  · rw [after]
    refine ⟨rfl,none.symm,.inl rfl,?_,.inl rfl,?_,?_,?_,?_⟩
    · intro some
      rw [none] at some
      cases some
    · simp [untouched]
    · simp [untouched]
    · rintro (late | late) <;> cases late
    · intro paired
      rw [revisit] at paired
      cases paired
  · rw [after]
    refine ⟨rfl,rfl,le_rfl,id,?_⟩
    intro y found
    cases absent.symm.trans found
  · rw [after]
    exact ⟨rfl,rfl,rfl⟩

theorem opening_goes {handler : Handler} (sane : Sane sessionId n w) (fits : Fits sessionId n w m (.opening handler))
    (admitted : inOrder sessionId n w ⟨sessionId,m,.opening handler⟩ = true)
    (taken : stepUpload w ⟨sessionId,m,.opening handler⟩ = some (w',upload')) :
    Goes sessionId n w ⟨sessionId,m,.opening handler⟩ w' upload' := by
  unfold stepUpload at taken
  obtain ⟨next,moved,made⟩ := Option.map_eq_some_iff.mp taken
  cases fits with
  | revisiting uncleaned revisit =>
      unfold stepHandler at moved
      cases here : w.registry.getSession sessionId with
      | none =>
          obtain ⟨r',x',booted,there,state,told,frames,passed,written,counted⟩ := revisited_new ⟨sessionId,m,
            .opening (.revisiting (revisitConfig sessionId) (announcedCount m))⟩ sane uncleaned revisit here
          have other : x'.state ≠ .transferring := by rw [state]; decide
          simp only [show (revisitConfig sessionId).valid = true from rfl,if_true,booted,afterCall,if_pos other] at moved
          cases moved
          cases made
          refine ⟨sane_told there told,.reviving there state,frames,⟨rfl,rfl⟩,?_,by rw [passed]; rfl,by rw [written]; rfl,by rw [counted]; rfl,
            .inl passed.le,.inl rfl⟩
          intro other held _ _
          obtain ⟨_,_,stage⟩ := other
          right
          intro same
          have reviving : ∀ m stage, Fits sessionId n w m stage → turn stage ≠ some .reviving := by
            intro m stage held
            cases held with
            | reviving found _ => cases here.symm.trans found
            | describing read _ _ => by_cases same : read = .transferring <;> simp [turn,same]
            | counting read _ _ _ => by_cases same : read = .transferring <;> simp [turn,same]
            | _ => simp [turn]
          exact reviving _ stage held same.symm
      | some x =>
          have state : x.state = .transferring := by simpa [inOrder,here] using admitted
          have known : w.registry.bootstrap (revisitConfig sessionId) = .ok (w.registry,x) := bootstrap_known here
          simp only [show (revisitConfig sessionId).valid = true from rfl,if_true,known,afterCall,state,ne_eq,not_true_eq_false,if_false] at moved
          cases moved
          generalize announcedCount m = count at made
          cases count with
          | none =>
              cases made
              rw [after_same]
              exact reads_goes sane (.rechecking here (.inl state)) ⟨rfl,rfl⟩ (fun _ _ _ _ => .inl rfl) rfl rfl rfl (.inl rfl)
          | some imageCount =>
              cases made
              rw [after_same]
              exact reads_goes sane (.announcing imageCount here (.inl state)) ⟨rfl,rfl⟩ (fun _ _ _ _ => .inl rfl) rfl rfl rfl (.inl rfl)
  | @reviving x here state =>
      have told := sane.told x here
      have moves : Moves n w x .transferring := .opened (.inl state)
      obtain ⟨r',changed,there⟩ := transition_some here moves.allowed
      unfold stepHandler at moved
      simp only [changed,afterCall] at moved
      cases moved
      have told' := moved_told told moves here there
      have frames := frames_moved ⟨sessionId,m,.opening (.reviving sessionId (announcedCount m))⟩ .reviving told moves here there rfl state
      have counted : (w.after sessionId r').counted = w.counted := by
        rw [← told'.received,← told.received]
      have goes : ∀ later, Fits sessionId n (w.after sessionId r') m (.opening later) → turn (.opening later) = none →
          Goes sessionId n w ⟨sessionId,m,.opening (.reviving sessionId (announcedCount m))⟩ (w.after sessionId r') ⟨sessionId,m,.opening later⟩ :=
        fun later fits free => ⟨sane_told there told',fits,frames,⟨rfl,rfl⟩,fun _ _ _ _ => .inl free,rfl,rfl,counted,.inl le_rfl,.inl rfl⟩
      generalize announcedCount m = count at made goes
      cases count with
      | none =>
          cases made
          exact goes _ (.rechecking there (.inl rfl)) rfl
      | some imageCount =>
          cases made
          exact goes _ (.announcing imageCount there (.inl rfl)) rfl
  | @announcing x imageCount here begun =>
      obtain rfl : imageCount = n := by simpa [inOrder] using admitted
      have told := sane.told x here
      obtain ⟨r',changed,there⟩ := batch_some imageCount here
      unfold stepHandler at moved
      simp only [changed,afterCall] at moved
      cases moved
      cases made
      have told' := described_told told here there
      refine ⟨sane_told there told',.rechecking there begun,frames_kept here there (fun _ => rfl) rfl,⟨rfl,rfl⟩,fun _ _ _ _ => .inl rfl,
        rfl,rfl,?_,.inl le_rfl,.inl rfl⟩
      rw [← told'.received,← told.received]
      rfl
  | @rechecking x here begun =>
      unfold stepHandler at moved
      simp only [require_some here,afterCall] at moved
      cases moved
      cases made
      rw [after_same]
      exact reads_goes sane (.checking here (.inr begun)) ⟨rfl,rfl⟩ (fun _ _ _ _ => .inl rfl) rfl rfl rfl (.inl rfl)

-- The session is not yet full when an upload that is not counted reads its state.
theorem early_read (told : Told w n x) (room : w.counted < n) (open_ : Waiting x.state ∨ Begun x.state) :
    x.state = .transferring ∧ Begun x.state ∨ x.state ≠ .transferring ∧ Waiting x.state := by
  rcases open_ with waiting | begun
  · right
    refine ⟨?_,waiting⟩
    rcases waiting with state | state <;> rw [state] <;> decide
  · left
    have early : ¬(x.state = .delivering ∨ x.state = .done) := fun late => absurd (told.full late) (Nat.not_le.mpr room)
    exact ⟨begun.resolve_right early,begun⟩

theorem receiving_goes {handler : Handler} (sane : Sane sessionId n w) (fits : Fits sessionId n w m (.receiving handler)) (positive : 0 < n)
    (admitted : inOrder sessionId n w ⟨sessionId,m,.receiving handler⟩ = true)
    (room : credited (.receiving handler) = 0 → w.counted < n) (taken : stepUpload w ⟨sessionId,m,.receiving handler⟩ = some (w',upload')) :
    Goes sessionId n w ⟨sessionId,m,.receiving handler⟩ w' upload' := by
  unfold stepUpload at taken
  obtain ⟨next,moved,made⟩ := Option.map_eq_some_iff.mp taken
  unfold stepHandler at moved
  cases fits with
  | @receiving x here open_ =>
      have told := sane.told x here
      have reads := early_read told (room rfl) open_
      have apart : ∀ other stage, (stage = .receiving (.describing sessionId n x.state) ∨ stage = .receiving (.counting sessionId x.state)) →
          readsApart sessionId w ⟨sessionId,m,.receiving (.receiving sessionId (announcedCount m))⟩ other = true → Apart ⟨sessionId,m,stage⟩ other := by
        intro other stage stages read
        have mine : turn stage = if x.state = .transferring then none else some .turning := by
          rcases stages with rfl | rfl <;> rfl
        unfold Apart
        rw [mine]
        simp only [readsApart,here,Option.any_some,Bool.or_eq_true,decide_eq_true_eq] at read
        by_cases state : x.state = .transferring
        · exact .inl (if_pos state)
        · right
          rw [if_neg state]
          exact (read.resolve_left state).symm
      simp only [inOrder,here,Option.any_some,Bool.or_eq_true,decide_eq_true_eq] at admitted
      simp only [require_some here,afterCall] at moved
      by_cases blank : x.imageCount = 0
      · have announces := admitted.resolve_right (not_not_intro blank)
        simp only [announces,if_pos blank] at moved
        cases moved
        cases made
        dsimp only
        rw [after_same]
        exact reads_goes sane (.describing x.state here reads) ⟨rfl,rfl⟩ (fun other _ _ => apart other _ (.inl rfl)) rfl rfl rfl (.inl rfl)
      · have later : next = (w.registry,.counting sessionId x.state) := by
          generalize announcedCount m = count at moved
          cases count with
          | none =>
              cases moved
              rfl
          | some imageCount =>
              simp only [if_neg blank] at moved
              cases moved
              rfl
        subst later
        cases made
        dsimp only
        rw [after_same]
        exact reads_goes sane (.counting x.state here reads (told.described.resolve_left blank)) ⟨rfl,rfl⟩
          (fun other _ _ => apart other _ (.inr rfl)) rfl rfl rfl (.inl rfl)
  | @describing x read here reads =>
      have told := sane.told x here
      obtain ⟨r',changed,there⟩ := batch_some n here
      simp only [changed,afterCall] at moved
      cases moved
      cases made
      have told' := described_told told here there
      refine ⟨sane_told there told',.counting read there reads rfl,frames_kept here there (fun _ => rfl) rfl,⟨rfl,rfl⟩,
        fun _ _ apart _ => apart,rfl,rfl,?_,.inl le_rfl,.inl rfl⟩
      dsimp only
      rw [← told'.received,← told.received]
      rfl
  | @counting x read here reads described =>
      have told := sane.told x here
      obtain ⟨r',changed,there⟩ := increment_some here
      simp only [changed,afterCall] at moved
      have told' := counted_told told described here there
      have tally : (w.after sessionId r').counted = w.counted + 1 := by
        rw [← told'.received,← told.received]
      rcases reads with ⟨rfl,begun⟩ | ⟨other,waiting⟩
      · cases moved
        cases made
        exact ⟨sane_told there told',.rereading there begun described,frames_kept here there id rfl,⟨rfl,rfl⟩,
          fun _ _ _ _ => .inl rfl,rfl,rfl,tally,.inl le_rfl,.inl rfl⟩
      · rw [if_pos other] at moved
        cases moved
        cases made
        have mine : turn (.receiving (.counting sessionId read)) = some .turning := if_neg other
        refine ⟨sane_told there told',.advancing there waiting described,frames_kept here there id rfl,⟨rfl,rfl⟩,?_,
          rfl,rfl,tally,.inl le_rfl,.inl rfl⟩
        intro other _ apart _
        exact .inr fun same => (apart.resolve_left (by rw [mine]; exact Option.some_ne_none _)) (mine.trans same)
  | @advancing x here state described =>
      have told := sane.told x here
      have moves : Moves n w x .transferring := .opened (.inr state)
      obtain ⟨r',changed,there⟩ := transition_some here moves.allowed
      simp only [changed,afterCall] at moved
      cases moved
      cases made
      have told' := moved_told told moves here there
      have frames := frames_moved ⟨sessionId,m,.receiving (.advancing sessionId)⟩ .turning told moves here there rfl state
      refine ⟨sane_told there told',.judging there (.inl rfl) described,frames,⟨rfl,rfl⟩,fun _ _ _ _ => .inl rfl,rfl,rfl,?_,.inl le_rfl,.inl rfl⟩
      dsimp only
      rw [← told'.received,← told.received]
      rfl
  | @rereading x here begun described =>
      simp only [require_some here,afterCall] at moved
      cases moved
      cases made
      dsimp only
      rw [after_same]
      exact reads_goes sane (.judging here begun described) ⟨rfl,rfl⟩ (fun _ _ _ _ => .inl rfl) rfl rfl rfl (.inl rfl)
  | @judging x here begun described =>
      have told := sane.told x here
      simp only [require_some here,afterCall] at moved
      cases moved
      have complete : (x.imageCount = 0 || x.imageCount ≤ x.receivedCount) = decide (n ≤ w.counted) := by
        rw [described,told.received]
        simp [Nat.ne_of_gt positive]
      simp only [complete,after_same] at made
      by_cases full : n ≤ w.counted
      · rw [decide_eq_true full] at made
        cases made
        exact reads_goes sane (.delivering here described full) ⟨rfl,rfl⟩ (fun _ _ _ _ => .inl rfl) rfl rfl rfl (.inl rfl)
      · rw [decide_eq_false full] at made
        cases made
        exact reads_goes sane .deferred ⟨rfl,rfl⟩ (fun _ _ _ _ => .inl rfl) rfl rfl rfl (.inr ⟨Nat.not_le.mp full,rfl,rfl⟩)

theorem delivering_goes {handler : Handler} (sane : Sane sessionId n w) (fits : Fits sessionId n w m (.delivering handler))
    (admitted : inOrder sessionId n w ⟨sessionId,m,.delivering handler⟩ = true)
    (taken : stepUpload w ⟨sessionId,m,.delivering handler⟩ = some (w',upload')) :
    Goes sessionId n w ⟨sessionId,m,.delivering handler⟩ w' upload' := by
  unfold stepUpload at taken
  obtain ⟨next,moved,made⟩ := Option.map_eq_some_iff.mp taken
  unfold stepHandler at moved
  cases fits with
  | @delivering x here described full =>
      have told := sane.told x here
      have state : x.state = .transferring := by simpa [inOrder,here] using admitted
      have complete : (decide (0 < x.imageCount) && decide (x.receivedCount < x.imageCount)) = false := by
        rw [described,told.received]
        simp [Nat.not_lt.mpr full]
      simp only [require_some here,afterCall,complete,Bool.false_eq_true,if_false,state,ne_eq,reduceCtorEq,not_false_eq_true,if_true] at moved
      cases moved
      cases made
      rw [after_same]
      refine reads_goes sane (.handing here state full) ⟨rfl,rfl⟩ ?_ rfl rfl rfl (.inl rfl)
      intro other _ _ read
      simp only [readsApart,decide_eq_true_eq] at read
      exact .inr read.symm
  | @handing x here state full =>
      have told := sane.told x here
      have moves : Moves n w x .delivering := .handed state full
      obtain ⟨r',changed,there⟩ := transition_some here moves.allowed
      simp only [changed,afterCall] at moved
      cases moved
      cases made
      have told' := moved_told told moves here there
      have frames := frames_moved ⟨sessionId,m,.delivering (.handing sessionId)⟩ .closing told moves here there rfl (.inl state)
      refine ⟨sane_told there told',.finishing there rfl,frames,⟨rfl,rfl⟩,fun _ _ apart _ => apart,rfl,rfl,?_,.inl le_rfl,.inl rfl⟩
      rw [← told'.received,← told.received]
      rfl
  | @finishing x here state =>
      have told := sane.told x here
      have moves : Moves n w x .done := .finished state
      obtain ⟨r',changed,there⟩ := transition_some here moves.allowed
      simp only [changed,afterCall] at moved
      cases moved
      cases made
      have told' := moved_told told moves here there
      have frames := frames_moved ⟨sessionId,m,.delivering (.finishing sessionId)⟩ .closing told moves here there rfl (.inr state)
      refine ⟨sane_told there told',.completed told'.done (told'.full (.inr rfl)),frames,⟨rfl,rfl⟩,fun _ _ _ _ => .inl rfl,rfl,rfl,?_,
        .inl le_rfl,.inl rfl⟩
      rw [← told'.received,← told.received]
      rfl

theorem upload_goes (sane : Sane sessionId n w) (own : upload.sessionId = sessionId) (fits : Fits sessionId n w upload.imageCount upload.stage)
    (positive : 0 < n) (admitted : inOrder sessionId n w upload = true)
    (room : past upload.stage = 1 → credited upload.stage = 0 → w.counted < n) (taken : stepUpload w upload = some (w',upload')) :
    Goes sessionId n w upload w' upload' := by
  obtain ⟨id,m,stage⟩ := upload
  dsimp only at own fits room
  subst own
  cases stage with
  | arrived =>
      refine arrived_goes sane fits ?_ taken
      intro x here paired
      have told := sane.told x here
      exact told.state.resolve_left (told.pairing paired)
  | opening handler => exact opening_goes sane fits admitted taken
  | checking => exact checking_goes sane fits admitted taken
  | writing => exact writing_goes sane fits taken
  | receiving handler => exact receiving_goes sane fits positive admitted (room rfl) taken
  | delivering handler => exact delivering_goes sane fits admitted taken
  | delivered completed swallowed => cases taken
  | refused error => cases taken

def batch (sessionId : String) (n : Nat) : Assertions Receiver Upload where
  world w := Sane sessionId n w
  thread w upload := upload.sessionId = sessionId ∧ Fits sessionId n w upload.imageCount upload.stage
  pair := Apart

def roomy (sessionId : String) (n : Nat) : Condition Receiver Upload Unit CleanupTimer :=
  {oneAtATime sessionId n with own:=fun w upload _ => inOrder sessionId n w upload = true ∧
    (past upload.stage = 1 → credited upload.stage = 0 → w.counted < n)}

section Timers
variable {timer : CleanupTimer}

theorem timer_same (different : timer.sessionId ≠ sessionId) :
    (w.registry.cleanupSession timer).getSession sessionId = w.registry.getSession sessionId := by
  unfold Registry.cleanupSession Registry.getSession
  dsimp only
  rw [find_delete]
  cases found : w.registry.activeSessions.find? sessionId with
  | none => rfl
  | some x => simp [Option.filter_some,(find_mem found).2,different.symm]

theorem timer_gone : (w.registry.cleanupSession ⟨sessionId,timer.serial⟩).getSession sessionId = none := by
  unfold Registry.cleanupSession Registry.getSession
  dsimp only
  rw [find_delete]
  apply Option.filter_eq_none_iff.mpr
  intro x found
  simp [(find_mem found).2]

theorem timer_active : (w.registry.cleanupSession timer).activeCount ≤ w.registry.activeCount := by
  unfold Registry.cleanupSession Registry.activeCount Table.delete
  exact List.Sublist.countP_le List.filter_sublist

theorem timer_sane (sane : Sane sessionId n w) (fired : timerEvent sessionId w timer = some w') : Sane sessionId n w' := by
  unfold timerEvent at fired
  split at fired
  · cases fired
    by_cases same : timer.sessionId = sessionId
    · refine ⟨?_,?_,sane.once⟩
      · intro x found
        subst same
        cases timer_gone.symm.trans found
      · intro _
        left
        simp [same]
    · refine ⟨?_,?_,sane.once⟩
      · intro x found
        rw [timer_same same] at found
        have told := sane.told x found
        exact ⟨told.image,told.received,told.described,told.known,told.state,told.delivering,told.done,told.full,told.pairing⟩
      · intro none
        rw [timer_same same] at none
        rcases sane.absent none with cleaned | ⟨room,untouched⟩
        · left
          simp [cleaned]
        · right
          exact ⟨timer_active.trans_lt room,untouched⟩
  · cases fired

theorem timer_fits (fits : Fits sessionId n w m stage) (finished : timer.sessionId = sessionId → stage.isFinished = true)
    (fired : timerEvent sessionId w timer = some w') : Fits sessionId n w' m stage := by
  unfold timerEvent at fired
  split at fired
  · cases fired
    by_cases same : timer.sessionId = sessionId
    · have over_ := finished same
      cases fits with
      | deferred => exact .deferred
      | completed done full => exact .completed done full
      | refused full => exact .refused full
      | _ => cases over_
    · have frames : Frames sessionId n w ⟨sessionId,m,.arrived⟩ {w with
          registry:=w.registry.cleanupSession timer
          cleaned:=w.cleaned || timer.sessionId = sessionId} := by
        refine ⟨by simp [same],rfl,le_rfl,id,?_⟩
        intro x found
        exact ⟨x,(timer_same same).trans found,id,id,.inl,.inl rfl⟩
      have apart : Apart ⟨sessionId,m,.arrived⟩ ⟨sessionId,m,stage⟩ := .inl rfl
      exact frames_fits frames apart fits
  · cases fired

end Timers

theorem apart_symm {one two : Upload} (apart : Apart one two) : Apart two one := by
  rcases apart with idle | different
  · by_cases same : turn two.stage = none
    · exact .inl same
    · exact .inr fun equal => same (equal.trans idle)
  · exact .inr different.symm

theorem batch_stable (positive : 0 < n) : Stable (batch sessionId n) (fun w upload _ => stepUpload w upload) (timerEvent sessionId)
    (roomy sessionId n) where
  own sane thread admitted taken :=
    have goes := upload_goes sane thread.1 thread.2 positive admitted.1 admitted.2 taken
    ⟨goes.sane,goes.same.1.trans thread.1,goes.fits⟩
  other sane thread beside apart _ admitted reads taken :=
    have goes := upload_goes sane thread.1 thread.2 positive admitted.1 admitted.2 taken
    have apart' := goes.apart _ beside.2 apart reads
    ⟨⟨beside.1,frames_fits goes.frames apart beside.2⟩,apart',apart_symm apart'⟩
  eventWorld sane fired := timer_sane sane fired
  eventThread _ thread finished fired := ⟨thread.1,timer_fits thread.2 finished fired⟩

section Runs
variable {Index : Type*} [DecidableEq Index] [Fintype Index] {s next : Pool Index Receiver Upload} {move : Move Index Unit CleanupTimer}

structure Sums (n : Nat) (s : Pool Index Receiver Upload) : Prop where
  passed : s.world.passed = ∑ i, past (s.threads i).stage
  written : s.world.written = ∑ i, wrote (s.threads i).stage
  counted : s.world.counted = ∑ i, credited (s.threads i).stage
  bounded : s.world.passed ≤ n
  unfinished : ∑ i, deferred (s.threads i).stage < n

theorem credited_past (stage : UploadStage) : credited stage ≤ past stage := by
  cases stage with
  | receiving handler => cases handler <;> simp [credited,past]
  | _ => simp [credited,past]

theorem wrote_past (stage : UploadStage) : wrote stage ≤ past stage := by cases stage <;> simp [wrote,past]

theorem deferred_credited (stage : UploadStage) : deferred stage ≤ credited stage := by
  cases stage with
  | delivered completed swallowed => cases completed <;> simp [deferred,credited]
  | _ => simp [deferred]

omit [DecidableEq Index] in
theorem sums_room (sums : Sums n s) (i : Index) (passed : past (s.threads i).stage = 1) (uncounted : credited (s.threads i).stage = 0) :
    s.world.counted < n := by
  apply lt_of_lt_of_le _ sums.bounded
  rw [sums.counted,sums.passed]
  apply Finset.sum_lt_sum
  · exact fun j _ => credited_past _
  · exact ⟨i,Finset.mem_univ i,by omega⟩

theorem thread_sums {i : Index} {w' : Receiver} {upload' : Upload} (sums : Sums n s) (goes : Goes sessionId n s.world (s.threads i) w' upload') :
    Sums n ⟨w',Function.update s.threads i upload'⟩ := by
  have passed := sum_update (fun upload : Upload => past upload.stage) s.threads i upload'
  have written := sum_update (fun upload : Upload => wrote upload.stage) s.threads i upload'
  have counted := sum_update (fun upload : Upload => credited upload.stage) s.threads i upload'
  have late := sum_update (fun upload : Upload => deferred upload.stage) s.threads i upload'
  refine ⟨?_,?_,?_,?_,?_⟩
  · have before := sums.passed
    have step := goes.passed
    dsimp only
    omega
  · have before := sums.written
    have step := goes.written
    dsimp only
    omega
  · have before := sums.counted
    have step := goes.counted
    dsimp only
    omega
  · exact goes.room.elim (fun fewer => fewer.trans sums.bounded) id
  · dsimp only
    rcases goes.unfinished with same | ⟨fewer,mine,fresh⟩
    · have before := sums.unfinished
      omega
    · have less : ∑ j, deferred (s.threads j).stage < ∑ j, credited (s.threads j).stage := by
        apply Finset.sum_lt_sum
        · exact fun j _ => deferred_credited _
        · exact ⟨i,Finset.mem_univ i,by omega⟩
      have one : deferred upload'.stage ≤ 1 := by
        unfold deferred
        split <;> decide
      have before := sums.counted
      omega

omit [DecidableEq Index] in
theorem timer_sums {timer : CleanupTimer} {w' : Receiver} (sums : Sums n s) (fired : timerEvent sessionId s.world timer = some w') :
    Sums n {s with world:=w'} := by
  unfold timerEvent at fired
  split at fired
  · cases fired
    exact ⟨sums.passed,sums.written,sums.counted,sums.bounded,sums.unfinished⟩
  · cases fired

theorem step_kept (positive : 0 < n) (old : (batch sessionId n).Hold s ∧ Sums n s) (allowed : (oneAtATime sessionId n).Admits s move)
    (taken : (uploadPool Index sessionId).step s move = some next) : (batch sessionId n).Hold next ∧ Sums n next := by
  obtain ⟨hold,sums⟩ := old
  have roomier : (roomy sessionId n).Admits s move := by
    cases move with
    | thread i input => exact ⟨⟨allowed.1,sums_room sums i⟩,allowed.2⟩
    | environment timer => exact allowed
  refine ⟨hold_preserved (batch_stable positive) hold roomier taken,?_⟩
  cases move with
  | thread i input =>
      obtain ⟨w',upload',moved,rfl⟩ := thread_parts taken
      exact thread_sums sums (upload_goes hold.world (hold.thread i).1 (hold.thread i).2 positive allowed.1 (sums_room sums i) moved)
  | environment timer =>
      obtain ⟨w',fired,rfl⟩ := environment_parts taken
      exact timer_sums sums fired

-- At least n uploads announce n; the others may announce anything. A paired session waits
-- for its images, a revisit session is not there yet.
structure Starts (sessionId : String) (n : Nat) (s : Pool Index Receiver Upload) : Prop where
  arrived : ∀ i, (s.threads i).sessionId = sessionId ∧ (s.threads i).stage = .arrived
  announced : n ≤ (Finset.univ.filter fun i => (s.threads i).imageCount = n).card
  tallies : s.world.passed = 0 ∧ s.world.written = 0 ∧ s.world.counted = 0
  untouched : s.world.transitions = [] ∧ s.world.cleaned = false
  paired : s.world.paired = true → ∃ x, s.world.registry.getSession sessionId = some x ∧ x.payloadClass = .image ∧
    Waiting x.state ∧ x.imageCount = 0 ∧ x.receivedCount = 0
  revisit : s.world.paired = false → s.world.registry.getSession sessionId = none ∧
    s.world.registry.activeCount < s.world.registry.maxSessions

omit [DecidableEq Index] in
theorem starts_sane (start : Starts sessionId n s) : Sane sessionId n s.world := by
  refine ⟨?_,?_,?_⟩
  · intro x here
    cases paired : s.world.paired with
    | true =>
        obtain ⟨y,there,image,waiting,blank,received⟩ := start.paired paired
        cases here.symm.trans there
        have early : ¬(x.state = .delivering ∨ x.state = .done) := by
          rcases waiting with state | state <;> rw [state] <;> decide
        refine ⟨image,?_,.inl blank,?_,.inr (.inl waiting),?_,?_,fun late => absurd late early,?_⟩
        · rw [received,start.tallies.2.2]
        · rw [start.tallies.2.2]
          exact fun some => absurd some (by decide)
        · rw [start.untouched.1,if_neg early]
          rfl
        · rw [start.untouched.1,if_neg fun late => early (.inr late)]
          rfl
        · rcases waiting with state | state <;> rw [state] <;> exact fun _ => by decide
    | false => cases here.symm.trans (start.revisit paired).1
  · intro absent
    cases paired : s.world.paired with
    | true =>
        obtain ⟨x,there,-⟩ := start.paired paired
        cases absent.symm.trans there
    | false => exact .inr ⟨(start.revisit paired).2,start.untouched.1,start.tallies.2.2⟩
  · rw [start.untouched.1]
    decide

omit [DecidableEq Index] in
theorem starts_hold (positive : 0 < n) (start : Starts sessionId n s) : (batch sessionId n).Hold s ∧ Sums n s := by
  refine ⟨⟨starts_sane start,?_,?_⟩,?_⟩
  · intro i
    obtain ⟨id,stage⟩ := start.arrived i
    refine ⟨id,?_⟩
    rw [stage]
    refine .arrived start.untouched.2 ?_
    intro paired
    obtain ⟨x,there,-⟩ := start.paired paired
    exact ⟨x,there⟩
  · intro i j _
    left
    rw [(start.arrived i).2]
    rfl
  · obtain ⟨passed,written,counted⟩ := start.tallies
    refine ⟨?_,?_,?_,?_,?_⟩
    all_goals simp only [passed,written,counted,(start.arrived _).2,past,wrote,credited,deferred,Finset.sum_const_zero]
    · exact Nat.zero_le n
    · exact positive

theorem run_kept (positive : 0 < n) (start : Starts sessionId n s)
    (path : Reaches (uploadPool Index sessionId) (oneAtATime sessionId n).Admits s next) :
    (batch sessionId n).Hold next ∧ Sums n next := by
  have first := starts_hold positive start
  induction path with
  | refl => exact first
  | tail _ step ih =>
      obtain ⟨move,allowed,taken⟩ := step
      exact step_kept positive ih allowed taken

theorem fits_proceeds (own : upload.sessionId = sessionId) (fits : Fits sessionId n w upload.imageCount upload.stage)
    (unfinished : upload.stage.isFinished = false) : (stepUpload w upload).isSome = true := by
  obtain ⟨id,m,stage⟩ := upload
  dsimp only at fits unfinished
  cases fits <;> first | rfl | cases unfinished

def UploadStage.isDelivered : UploadStage → Bool
  | .delivered _ _ => true
  | _ => false

-- Once all uploads are answered the batch is full.
omit [DecidableEq Index] in
theorem finished_full (enough : n ≤ Fintype.card Index) (hold : (batch sessionId n).Hold s) (sums : Sums n s)
    (finished : ∀ i, (s.threads i).stage.isFinished = true) : n ≤ s.world.counted ∧ s.world.transitions.count .done = 1 := by
  by_cases full : ∃ i, (s.threads i).stage = .delivered true none
  · obtain ⟨i,stage⟩ := full
    have fits := (hold.thread i).2
    rw [stage] at fits
    cases fits with
    | completed done full => exact ⟨full,done⟩
  · have others : ∀ i, (s.threads i).stage = .delivered false none ∨ (s.threads i).stage = .refused .transferLimitExceeded ∧ n ≤ s.world.counted := by
      intro i
      have fits := (hold.thread i).2
      have last := finished i
      generalize stage : (s.threads i).stage = mine at fits last
      cases fits with
      | deferred => exact .inl rfl
      | completed done _ => exact absurd ⟨i,stage⟩ full
      | refused full => exact .inr ⟨rfl,full⟩
      | _ => cases last
    have same : ∑ i, deferred (s.threads i).stage = ∑ i, credited (s.threads i).stage := by
      refine Finset.sum_congr rfl fun i _ => ?_
      rcases others i with stage | ⟨stage,-⟩ <;> rw [stage] <;> rfl
    have few := sums.unfinished
    rw [same,← sums.counted] at few
    have never : ∀ i, credited (s.threads i).stage = 1 := by
      intro i
      rcases others i with stage | ⟨-,full⟩
      · rw [stage]
        rfl
      · exact absurd few (Nat.not_lt.mpr full)
    have all : s.world.counted = Fintype.card Index := by
      rw [sums.counted,Finset.sum_congr rfl fun i _ => never i]
      simp
    omega

omit [DecidableEq Index] in
theorem starts_enough (start : Starts sessionId n s) : n ≤ Fintype.card Index :=
  start.announced.trans (Finset.card_le_univ _)

omit [DecidableEq Index] in
theorem delivered_wrote (finished : ∀ i, (s.threads i).stage.isFinished = true) :
    (Finset.univ.filter fun i => UploadStage.isDelivered (s.threads i).stage = true).card = ∑ i, wrote (s.threads i).stage := by
  rw [Finset.card_filter]
  apply Finset.sum_congr rfl
  intro i _
  have last := finished i
  generalize (s.threads i).stage = mine at last
  cases mine with
  | delivered _ _ => rfl
  | refused _ => rfl
  | _ => cases last

omit [DecidableEq Index] in
theorem finished_sums (enough : n ≤ Fintype.card Index) (hold : (batch sessionId n).Hold s) (sums : Sums n s)
    (finished : ∀ i, (s.threads i).stage.isFinished = true) : s.world.written = n ∧ s.world.counted = n := by
  have full := (finished_full enough hold sums finished).1
  have same : ∀ i, credited (s.threads i).stage = past (s.threads i).stage ∧ wrote (s.threads i).stage = past (s.threads i).stage := by
    intro i
    have last := finished i
    generalize (s.threads i).stage = mine at last
    cases mine with
    | delivered _ _ => exact ⟨rfl,rfl⟩
    | refused _ => exact ⟨rfl,rfl⟩
    | _ => cases last
  have counted : s.world.counted = s.world.passed := by
    rw [sums.counted,sums.passed]
    exact Finset.sum_congr rfl fun i _ => (same i).1
  have written : s.world.written = s.world.passed := by
    rw [sums.written,sums.passed]
    exact Finset.sum_congr rfl fun i _ => (same i).2
  have bounded := sums.bounded
  omega

end Runs

-- No more than n images are ever written, by uploads that are let through; the others are
-- refused for the limit. When all are answered the batch is whole, delivered and done once.
theorem batch_delivered {Index : Type*} [DecidableEq Index] [Fintype Index] (sessionId : String) (n : Nat) (positive : 0 < n)
    (s next : Pool Index Receiver Upload) (start : Starts sessionId n s)
    (path : Reaches (uploadPool Index sessionId) (oneAtATime sessionId n).Admits s next) :
    next.world.written ≤ n ∧ next.world.written = ∑ i, wrote (next.threads i).stage ∧
    next.world.counted = ∑ i, credited (next.threads i).stage ∧
    (∀ i error, (next.threads i).stage = .refused error → error = .transferLimitExceeded) ∧
    (∀ i completed swallowed, (next.threads i).stage = .delivered completed swallowed → swallowed = none) ∧
    next.world.transitions.count .delivering ≤ 1 ∧ next.world.transitions.count .done ≤ 1 ∧
    (∀ i, (next.threads i).stage.isFinished = false → (stepUpload next.world (next.threads i)).isSome = true) ∧
    ((∀ i, (next.threads i).stage.isFinished = true) →
      next.world.written = n ∧ next.world.counted = n ∧
      (Finset.univ.filter fun i => UploadStage.isDelivered (next.threads i).stage = true).card = n ∧
      next.world.transitions.count .delivering = 1 ∧ next.world.transitions.count .done = 1 ∧
      ∀ x, next.world.registry.getSession sessionId = some x → x.receivedCount = n ∧ x.state = .done) := by
  obtain ⟨hold,sums⟩ := run_kept positive start path
  have once := hold.world.once
  refine ⟨?_,sums.written,sums.counted,?_,?_,once.2,once.1.trans once.2,?_,?_⟩
  · rw [sums.written]
    refine le_trans (Finset.sum_le_sum fun i _ => wrote_past _) ?_
    rw [← sums.passed]
    exact sums.bounded
  · intro i error stage
    have fits := (hold.thread i).2
    rw [stage] at fits
    cases fits
    rfl
  · intro i completed swallowed stage
    have fits := (hold.thread i).2
    rw [stage] at fits
    cases fits <;> rfl
  · intro i unfinished
    exact fits_proceeds (hold.thread i).1 (hold.thread i).2 unfinished
  · intro finished
    have enough := starts_enough start
    obtain ⟨written,counted⟩ := finished_sums enough hold sums finished
    obtain ⟨-,done⟩ := finished_full enough hold sums finished
    refine ⟨written,counted,?_,?_,done,?_⟩
    · rw [delivered_wrote finished,← sums.written]
      exact written
    · omega
    · intro x here
      have told := hold.world.told x here
      refine ⟨told.received.trans counted,?_⟩
      by_contra unfinished
      have none := told.done
      rw [if_neg unfinished] at none
      omega

instance (w : Receiver) (upload : Upload) (x : Unit) : Decidable ((oneAtATime sessionId n).own w upload x) :=
  inferInstanceAs (Decidable (inOrder sessionId n w upload = true))
instance (w : Receiver) (one two : Upload) (x : Unit) : Decidable ((oneAtATime sessionId n).beside w one x two) :=
  inferInstanceAs (Decidable (readsApart sessionId w one two = true))
instance (w : Receiver) (timer : CleanupTimer) (upload : Upload) : Decidable ((oneAtATime sessionId n).event w timer upload) :=
  inferInstanceAs (Decidable (timer.sessionId = sessionId → upload.stage.isFinished = true))

theorem session_kept (session : InstantShareSession) : (id session).sessionId = session.sessionId := rfl

def pairedRegistry : Registry := ⟨.upsert .empty ⟨"phone",.image,0,.negotiating,0,0⟩ id session_kept,100,[],1⟩

def newUploads (Index : Type) (paired : Bool) (imageCount : Nat) : Pool Index Receiver Upload :=
  ⟨⟨if paired then pairedRegistry else ⟨.empty,100,[],0⟩,paired,0,0,0,[],false⟩,fun _ => ⟨"phone",imageCount,.arrived⟩⟩

theorem newUploads_starts (Index : Type) [Fintype Index] (paired : Bool) (n : Nat) (enough : n ≤ Fintype.card Index) :
    Starts "phone" n (newUploads Index paired n) := by
  refine ⟨fun _ => ⟨rfl,rfl⟩,by simpa [newUploads] using enough,⟨rfl,rfl,rfl⟩,⟨rfl,rfl⟩,?_,?_⟩
  · intro here
    cases paired with
    | true => exact ⟨⟨"phone",.image,0,.negotiating,0,0⟩,rfl,rfl,.inr rfl,rfl,rfl⟩
    | false => cases here
  · intro here
    cases paired with
    | true => cases here
    | false => exact ⟨rfl,Nat.zero_lt_succ 99⟩

-- One image is announced; its upload and a surplus one pass the limit check together.
theorem batch_overrun : ∃ next : Pool (Fin 2) Receiver Upload, Starts "phone" 1 (newUploads (Fin 2) true 1) ∧
    Reachable (uploadPool (Fin 2) "phone") (newUploads (Fin 2) true 1) next ∧
    (∀ i, (next.threads i).stage.isFinished = true) ∧ next.world.written = 2 := by
  obtain ⟨next,path,seen⟩ := checkedRun_exhibits (uploadPool (Fin 2) "phone") (fun _ _ => True) (newUploads (Fin 2) true 1)
    ([0,0,1,1,0,1,0,0,0,0,0,0,0,0,1,1,1].map fun i => .thread i ())
    (fun s => decide (∀ i, (s.threads i).stage.isFinished = true) && s.world.written = 2) (by decide +kernel)
  simp only [Bool.and_eq_true,decide_eq_true_eq] at seen
  exact ⟨next,newUploads_starts (Fin 2) true 1 (by decide),path,seen⟩

-- Two images of a revisit session, and one too many after them.
theorem two_delivered : ∃ next : Pool (Fin 3) Receiver Upload, (next.threads 2).stage = .refused .transferLimitExceeded ∧
    next.world.written = 2 ∧ next.world.transitions.count .done = 1 := by
  obtain ⟨next,path,seen⟩ := checkedRun_exhibits (uploadPool (Fin 3) "phone") (oneAtATime "phone" 2).Admits (newUploads (Fin 3) false 2)
    ((List.replicate 11 (0 : Fin 3) ++ List.replicate 10 1 ++ List.replicate 5 2 ++ [1,1,1]).map fun i => .thread i ())
    (fun s => decide (∀ i, (s.threads i).stage.isFinished = true) && (s.threads 2).stage = .refused .transferLimitExceeded) (by decide +kernel)
  simp only [Bool.and_eq_true,decide_eq_true_eq] at seen
  have whole := batch_delivered "phone" 2 (by decide) _ next (newUploads_starts (Fin 3) false 2 (by decide)) path
  obtain ⟨written,-,-,-,done,-⟩ := whole.2.2.2.2.2.2.2.2 seen.1
  exact ⟨next,seen.2,written,done⟩

end ImageSearch.DeliveredBatches
